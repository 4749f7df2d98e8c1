import TypedRecords.Records

/-!
# Tables

A table is a class as its users manage it: they create it with sample values for its first
fields, list it, ask for its schema and delete it.

A table is created by declaring the fields, without a record. With seeding, it is created by a
first record that holds the sample values and stays.
-/

namespace TypedRecords

/-- The outcome of creating a table: its class, and the id of the seed record if one was
written. -/
structure TableCreation where
  className : Json
  seedObjectId : Option String := none

namespace Tables

/-- The descriptors of the sample values of a new table. -/
def sampleSchema : List (String × Value) → Except InvalidInput Schema
  | [] => return []
  | (field, value) :: rest =>
      match value.descriptor? with
      | .error kind => .error (.unsupportedSample field kind)
      | .ok none => sampleSchema rest
      | .ok (some descriptor) => do
          let others ← sampleSchema rest
          return (field, descriptor) :: others

/-- The entries of the sample values; null stands for none. -/
def sampleEntries (samples : Json) : Except InvalidInput (List (String × Json)) :=
  match samples with
  | .null => .ok []
  | .object entries => .ok entries
  | _ => .error (.notAnObject "schema" samples.typeName)

/-- Whether to seed, given the flag of the call and the default. -/
def checkSeed (seedByDefault : Bool) (seed : Json) : Except InvalidInput Bool :=
  match seed with
  | .null => .ok seedByDefault
  | .bool chosen => .ok chosen
  | _ => .error (.seedNotBoolean seed.typeName)

/-- The sample values of a new table. -/
def decodeSamples (entries : List (String × Json)) :
    Except InvalidInput (List (String × Value)) := do
  let fields ← Json.decodeEntries entries
  let reserved := Schema.reservedAmong fields
  if reserved.isEmpty then return fields else throw (.reservedFields reserved)

/-- Create a table or add fields to it, given their descriptors. -/
def declare (className : Json) (fields : Schema) : Action (Json × Schema) :=
  Backend.declareClass className fields

/-- Create a table, or add the fields of the sample values to it. -/
def create (seedByDefault : Bool) (className samples seed : Json) : Action TableCreation := do
  Action.ofInput (Records.requireClass className)
  let entries ← Action.ofInput (sampleEntries samples)
  let seeding ← Action.ofInput (checkSeed seedByDefault seed)
  let fields ← Action.ofInput (decodeSamples entries)
  if seeding && !fields.isEmpty then
    let record ← Backend.insert className fields AccessPolicy.everyone
    return { className, seedObjectId := some record.objectId }
  else
    let schema ← Action.ofInput (sampleSchema fields)
    let _ ← declare className schema
    return { className }

/-- All tables with their schemas. -/
def list : Action (List (Json × Schema)) :=
  Backend.listClasses

/-- The schema of a table, which must exist. -/
def schema (className : Json) : Action Schema := do
  match ← Backend.classFields className with
  | some schema => return schema
  | none => throw (.notFound className .null)

/-- Delete a table with its records. -/
def delete (className : Json) : Action Unit :=
  Backend.purgeClass className

end Tables

end TypedRecords
