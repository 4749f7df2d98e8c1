import TypedRecords.Entries
import TypedRecords.Json.Key
import TypedRecords.Value.Codec

/-!
# Records

A record is a set of named field values, filed in a class under an object id. Besides the
fields that callers set it has an access policy and the moments at which it was created and
last written; they can be read and matched like fields.
-/

namespace TypedRecords

/-- What each principal may do with a record: an object that has for each principal the
permissions by their names. The principal `*` is everyone. The store keeps whatever policy it is
given; only its wire form needs this shape. -/
abbrev AccessPolicy := Json

namespace AccessPolicy

/-- Everyone may read and write. -/
def everyone : AccessPolicy :=
  .object [("*", .object [("read", .bool true), ("write", .bool true)])]

/-- The policy as a value, for predicates that ask for it. -/
def toValue (policy : AccessPolicy) : Value :=
  policy.untagged

/-- The wire form of the permissions of principals. Permissions may be given as pairs. -/
def encodeEntries : List (String × Json) → Except HostError (List (String × Json))
  | [] => return []
  | (principal, permissions) :: rest => do
      let mapping ← Mapping.convert permissions
      let rest ← encodeEntries rest
      return (principal, mapping.toJson) :: rest

/-- The wire form of a policy. -/
def encode (policy : AccessPolicy) : Except HostError Json :=
  match policy with
  | .object entries => (encodeEntries entries).map Json.object
  | _ => .error (.withoutEntries policy.typeName)

end AccessPolicy

/-- A record of the store: its class and its id, the fields that callers set, its access policy, and
the moments of its creation and of its last update. -/
structure Record where
  className : String
  objectId : String
  fields : List (String × Value)
  access : AccessPolicy
  createdAt : Moment
  updatedAt : Moment

namespace Record

/-- The value that the record has for a field. The fields that every record has come before
those that callers set. -/
def value? (record : Record) (field : String) : Option Value :=
  match field with
  | "objectId" => some (.text record.objectId)
  | "createdAt" => some (.date record.createdAt)
  | "updatedAt" => some (.date record.updatedAt)
  | "ACL" => some record.access.toValue
  | _ => record.fields.lookup field

/-- The text of a moment, or an error if it lies outside the calendar in universal time. -/
def timestamp (moment : Moment) : Except HostError Json :=
  match moment.timestamp? with
  | some text => .ok (.text text)
  | none => .error .dateOutOfRange

/-- The wire form of a record: the fields that callers set, then those that every record has,
with its moments as plain texts. -/
def encode (record : Record) : Except HostError (List (String × Json)) := do
  let fields ← Value.encodeEntries record.fields
  let createdAt ← timestamp record.createdAt
  let updatedAt ← timestamp record.updatedAt
  let access ← record.access.encode
  return Entries.merge fields [("objectId", .text record.objectId), ("createdAt", createdAt),
    ("updatedAt", updatedAt), ("ACL", access)]

end Record

end TypedRecords
