import TypedRecords.Entries
import TypedRecords.Failure
import TypedRecords.Text.Name
import TypedRecords.Value.Basic

/-!
# Schemas

The schema of a class says of every field of the class what type it has. It begins with the
fields that every record has, and it only grows: a field that a write brings for the first time
is added at the end with the type of its value, and a write that would change the type of a
field is rejected. Null has no type and adds nothing.
-/

namespace TypedRecords

/-- The types of fields. -/
inductive FieldType where
  | string
  | number
  | boolean
  | date
  | pointer
  | array
  | object
  | acl
deriving DecidableEq

namespace FieldType

/-- All types of fields. -/
def all : List FieldType :=
  [.string, .number, .boolean, .date, .pointer, .array, .object, .acl]

/-- The name of a type in schemas and messages. -/
def name : FieldType → String
  | .string => "String"
  | .number => "Number"
  | .boolean => "Boolean"
  | .date => "Date"
  | .pointer => "Pointer"
  | .array => "Array"
  | .object => "Object"
  | .acl => "ACL"

/-- The type with the given name, if there is one. -/
def ofName? (name : String) : Option FieldType :=
  all.find? (·.name == name)

/-- The type with the given name; an unknown name is an error of the environment. -/
def ofJson (name : Json) : Except HostError FieldType :=
  let known := match name with
    | .text name => ofName? name
    | _ => none
  match known with
  | some type => .ok type
  | none =>
      .error { kind := .badValue, message := name.literal ++ " is not a valid FieldType" }

end FieldType

/-- What a schema says of a field: its type and, for a pointer, the class it points to. -/
structure FieldDescriptor where
  type : FieldType
  targetClass : Option String := none
deriving DecidableEq

namespace FieldDescriptor

/-- How messages name the descriptor: by its target class, or else by its type. -/
def label (descriptor : FieldDescriptor) : String :=
  match descriptor.targetClass with
  | some target => if target.isEmpty then descriptor.type.name else target
  | none => descriptor.type.name

/-- The wire form of a descriptor, with its target class if it has one. -/
def toJson (descriptor : FieldDescriptor) : Json :=
  .object (("type", .text descriptor.type.name) ::
    match descriptor.targetClass with
    | some target => [("targetClass", .text target)]
    | none => [])

/-- Whether the descriptor is of a pointer to the class. -/
def pointsTo (descriptor : FieldDescriptor) (className : Json) : Bool :=
  match descriptor.type, descriptor.targetClass, className with
  | .pointer, some target, .text className => target == className
  | _, _, _ => false

end FieldDescriptor

/-- The descriptor of a value: none for null, and an error for a value that no field can
hold. -/
def Value.descriptor? : Value → Except ForeignKind (Option FieldDescriptor)
  | .null => .ok none
  | .bool _ => .ok (some { type := .boolean })
  | .int _ | .double _ => .ok (some { type := .number })
  | .text _ => .ok (some { type := .string })
  | .date _ => .ok (some { type := .date })
  | .pointer target => .ok (some { type := .pointer, targetClass := some target.className })
  | .array _ => .ok (some { type := .array })
  | .object _ => .ok (some { type := .object })
  | .foreign kind => .error kind

/-- The descriptors of the fields of a class, in the order in which they were declared. -/
abbrev Schema := List (String × FieldDescriptor)

namespace Schema

/-- The fields that every record has. -/
def builtin : Schema :=
  [("objectId", { type := .string }), ("createdAt", { type := .date }),
    ("updatedAt", { type := .date }), ("ACL", { type := .acl })]

/-- The names of the fields that every record has, sorted. -/
def reservedNames : List String :=
  ["ACL", "createdAt", "objectId", "updatedAt"]

/-- The reserved names among the keys of some entries, sorted. -/
def reservedAmong {Content : Type} (entries : List (String × Content)) : List String :=
  reservedNames.filter (Entries.hasKey entries)

/-- The schema with one more field, unless its name is malformed or the field is known with
another descriptor. -/
def add (className : String) (schema : Schema) (field : String) (descriptor : FieldDescriptor) :
    Except Rejection Schema :=
  if !isName field then .error (.invalidFieldName field)
  else match schema.lookup field with
    | none => .ok (schema ++ [(field, descriptor)])
    | some known =>
        if known = descriptor then .ok schema
        else .error (.schemaMismatch className field known.label descriptor.label)

/-- The schema with all fields of another one added in turn. -/
def merge (className : String) (schema incoming : Schema) : Except Rejection Schema :=
  incoming.foldlM (fun merged entry => merged.add className entry.1 entry.2) schema

/-- The descriptors of the fields that are not null. -/
def infer : List (String × Value) → Except Rejection Schema
  | [] => return []
  | (field, value) :: rest =>
      match value.descriptor? with
      | .error kind => .error (.unsupportedValue kind)
      | .ok none => infer rest
      | .ok (some descriptor) => do
          let inferred ← infer rest
          return (field, descriptor) :: inferred

end Schema

end TypedRecords
