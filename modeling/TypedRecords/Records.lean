import TypedRecords.Filter.Spec
import TypedRecords.Store.Backend

/-!
# Access to records

Creating, reading, updating, deleting and counting the records of a class. Arguments come as
wire values and are checked before the backend is called; every record is open to everyone.

An update has two steps, reading the record and writing it back with the new fields set, and
so has a deletion. Between them the backend may serve other callers; of two updates of one
field the later write wins.
-/

namespace TypedRecords.Records

/-- Refuse a class name that is not set. -/
def requireClass (className : Json) : Except InvalidInput Unit :=
  if className.isTruthy then .ok () else .error (.required "className")

/-- Refuse an argument that is null or the empty text. -/
def requireArgument (name : String) (value : Json) : Except InvalidInput Unit :=
  if value.isBlank then .error (.required name) else .ok ()

/-- The fields that a record is to have, from an argument with the given label. -/
def decodeData (label : String) (data : Json) : Except InvalidInput (List (String × Value)) :=
  match data with
  | .object entries =>
      let reserved := Schema.reservedAmong entries
      if reserved.isEmpty then Json.decodeEntries entries
      else .error (.reservedFields reserved)
  | _ => .error (.notAnObject label data.typeName)

/-- The natural number that a value is; truth values are none. -/
def natural? : Json → Option Nat
  | .int (.ofNat number) => some number
  | _ => none

/-- The size of a page; null sets no limit. -/
def checkLimit (limit : Json) : Except InvalidInput (Option Nat) :=
  if limit.isNull then .ok none
  else match natural? limit with
    | some number => .ok (some number)
    | none => .error (.badLimit limit)

/-- The number of records before a page. -/
def checkSkip (skip : Json) : Except InvalidInput Nat :=
  match natural? skip with
  | some number => .ok number
  | none => .error (.badSkip skip)

/-- The page size of a reader that gives none. -/
def defaultLimit : Json :=
  .int 100

/-- Create a record of a class with the fields of the data, open to everyone. -/
def create (className data : Json) : Action Record := do
  Action.ofInput (requireClass className)
  Action.ofInput (requireArgument "data" data)
  let fields ← Action.ofInput (decodeData "data" data)
  Backend.insert className fields AccessPolicy.everyone

/-- A page of the records that pass a filter, in the order of their creation. -/
def read (strict : Bool) (className filters limit skip : Json) : Action (List Record) := do
  Action.ofInput (requireClass className)
  let limit ← Action.ofInput (checkLimit limit)
  let skip ← Action.ofInput (checkSkip skip)
  let predicates ← Action.ofInput (Filter.compile strict filters)
  Backend.query className predicates (limit.map Int.ofNat) skip

/-- The record of a class under an id, which must exist. -/
def find (className objectId : Json) : Action Record := do
  match ← Backend.getById className objectId with
  | some record => return record
  | none => throw (.notFound className objectId)

/-- The reading step of an update: the fields of the record with those of the patch set. -/
def mergePatch (className objectId : Json) (patch : List (String × Value)) :
    Action (List (String × Value)) := do
  let existing ← find className objectId
  return Entries.merge existing.fields patch

/-- Set the fields of the data in a record and keep its others. The record is read and written back
in two calls. -/
def update (className objectId data : Json) : Action Record := do
  Action.ofInput (requireClass className)
  Action.ofInput (requireArgument "objectId" objectId)
  Action.ofInput (requireArgument "data" data)
  let patch ← Action.ofInput (decodeData "data" data)
  let merged ← mergePatch className objectId patch
  Backend.update className objectId merged

/-- Delete the record of a class under an id, which must exist. -/
def delete (className objectId : Json) : Action Unit := do
  Action.ofInput (requireClass className)
  Action.ofInput (requireArgument "objectId" objectId)
  let _ ← find className objectId
  Backend.delete className objectId

/-- The fields of the records of a batch, the first of which has the given index. -/
def decodeBatch (index : Nat) :
    List Json → Except InvalidInput (List (List (String × Value) × AccessPolicy))
  | [] => return []
  | data :: rest => do
      let fields ← decodeData ("records[" ++ toString index ++ "]") data
      let others ← decodeBatch (index + 1) rest
      return (fields, AccessPolicy.everyone) :: others

/-- Create several records in one call. -/
def createBatch (className records : Json) : Action (List Record) := do
  Action.ofInput (requireClass className)
  match records with
  | .array items => do
      let batch ← Action.ofInput (decodeBatch 0 items)
      Backend.bulkInsert className batch
  | _ => throw (.invalid .recordsNotAList)

/-- The number of records of a class that pass a filter. -/
def count (strict : Bool) (className filters : Json) : Action Nat := do
  Action.ofInput (requireClass className)
  let predicates ← Action.ofInput (Filter.compile strict filters)
  Backend.count className predicates

end TypedRecords.Records
