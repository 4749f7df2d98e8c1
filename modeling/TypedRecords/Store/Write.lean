import TypedRecords.Store.Basic
import TypedRecords.Store.IdSource

/-!
# Writing to the store

Every operation first checks everything that can go wrong, against the store as it is, and only
then commits; the commit cannot fail. So an operation that fails leaves no trace.

The moment of a write and the source of object ids are given by the caller.
-/

namespace TypedRecords.Store

/-- The name of a class, unless it is malformed. -/
def checkClassName (className : Json) : Except Rejection String :=
  match className with
  | .text name => if isName name then .ok name else .error (.invalidClassName className)
  | _ => .error (.invalidClassName className)

/-- The schema of a class once a record with the given fields is written to it. -/
def prepare (className : Json) (schema : Schema) (fields : List (String × Value)) :
    Except Rejection Schema := do
  let name ← checkClassName className
  let inferred ← Schema.infer fields
  schema.merge name inferred

/-- Give a class the schema; a class without one comes into existence, with no records. -/
def commitSchema (store : Store) (key : Key) (className : Json) (schema : Schema) : Store :=
  { store with
    schemas := Entries.set store.schemas key { name := className, fields := schema }
    tables :=
      if (store.schemas.lookup key).isSome then store.tables
      else Entries.set store.tables key [] }

/-- Replace the records that are kept under a key. -/
def setTable (store : Store) (key : Key) (table : List (Key × Record)) : Store :=
  { store with tables := Entries.set store.tables key table }

/-- Keep a record of a class under an id. -/
def setRecord (store : Store) (key objectId : Key) (record : Record) : Store :=
  store.setTable key (Entries.set (store.tableOf key) objectId record)

/-- The store without the record of a class under an id. -/
def dropRecord (store : Store) (key objectId : Key) : Store :=
  store.setTable key (Entries.erase (store.tableOf key) objectId)

/-- Note that an id is issued for a key. -/
def noteIssued (store : Store) (key : Key) (objectId : String) : Store :=
  { store with issued := Entries.set store.issued key (store.issuedFor key ++ [objectId]) }

/-- File a new record under a fresh id, after all other records of the class. -/
def file (store : Store) (source : IdSource) (now : Moment) (key : Key) (className : String)
    (fields : List (String × Value)) (access : AccessPolicy) : Record × Store × IdSource :=
  let (objectId, source) := source.fresh (store.issuedFor key)
  let record : Record :=
    { className, objectId, fields, access, createdAt := now, updatedAt := now }
  (record, (store.noteIssued key objectId).setRecord key (.text objectId) record, source)

/-- Create a record of a class under a fresh id, unless the name of the class or one of the fields
is refused. A class that does not exist comes into existence. -/
def insert (store : Store) (source : IdSource) (now : Moment) (className : Json)
    (fields : List (String × Value)) (access : AccessPolicy) :
    Except Failure (Record × Store × IdSource) := do
  let key ← className.key.mapError Failure.host
  let schema ← (prepare className (store.schemaOf key) fields).mapError Failure.rejected
  let committed := store.commitSchema key className schema
  return committed.file source now key className.display fields access

/-- Replace the fields of a record. -/
def update (store : Store) (now : Moment) (className objectId : Json)
    (fields : List (String × Value)) : Except Failure (Record × Store) := do
  let key ← className.key.mapError Failure.host
  let objectKey ← objectId.key.mapError Failure.host
  match store.record? key objectKey with
  | none => throw (.notFound className objectId)
  | some record =>
      let schema ← (prepare className (store.schemaOf key) fields).mapError Failure.rejected
      let updated := { record with fields, updatedAt := now }
      let committed := store.commitSchema key className schema
      return (updated, committed.setRecord key objectKey updated)

/-- Drop the record of a class under an id, which must exist; its id stays issued. -/
def delete (store : Store) (className objectId : Json) : Except Failure Store := do
  let key ← className.key.mapError Failure.host
  let objectKey ← objectId.key.mapError Failure.host
  match store.record? key objectKey with
  | none => throw (.notFound className objectId)
  | some _ => return store.dropRecord key objectKey

/-- The schema of a class once records with the given fields are written to it one after the
other; the first of them has the given index in its batch. -/
def prepareAll (className : Json) (index : Nat) (schema : Schema) :
    List (List (String × Value) × AccessPolicy) → Except Rejection Schema
  | [] => .ok schema
  | (fields, _) :: rest =>
      match prepare className schema fields with
      | .error reason => .error (.item index reason)
      | .ok schema => prepareAll className (index + 1) schema rest

/-- File new records one after the other, each under a fresh id. -/
def fileAll (store : Store) (source : IdSource) (now : Moment) (key : Key)
    (className : String) :
    List (List (String × Value) × AccessPolicy) → List Record × Store × IdSource
  | [] => ([], store, source)
  | (fields, access) :: rest =>
      let (record, store, source) := store.file source now key className fields access
      let (records, store, source) := fileAll store source now key className rest
      (record :: records, store, source)

/-- Create several records; either all of them are created or none. The class comes into
existence even if there are none. -/
def bulkInsert (store : Store) (source : IdSource) (now : Moment) (className : Json)
    (items : List (List (String × Value) × AccessPolicy)) :
    Except Failure (List Record × Store × IdSource) := do
  let key ← className.key.mapError Failure.host
  let schema ← (prepareAll className 0 (store.schemaOf key) items).mapError Failure.rejected
  let committed := store.commitSchema key className schema
  return committed.fileAll source now key className.display items

/-- Create a class or add fields to it, without writing a record. -/
def declareClass (store : Store) (className : Json) (fields : Schema) :
    Except Failure ((Json × Schema) × Store) := do
  let name ← (checkClassName className).mapError Failure.rejected
  let key ← className.key.mapError Failure.host
  let schema ← ((store.schemaOf key).merge name fields).mapError Failure.rejected
  return ((className, schema), store.commitSchema key className schema)

/-- The fields of a class that point to another class, as texts with the name of the class. -/
def referringFields (schema : ClassSchema) (target : Json) : List String :=
  (schema.fields.filter fun field => field.2.pointsTo target).map fun field =>
    schema.name.display ++ "." ++ field.1

/-- The fields of other classes that point to a class, sorted. -/
def referrers (store : Store) (key : Key) (className : Json) : List String :=
  let others := (Entries.erase store.schemas key).map Prod.snd
  (others.flatMap fun schema => referringFields schema className).mergeSort fun left right =>
    decide (left ≤ right)

/-- The store without the class under a key and without its records. -/
def dropClass (store : Store) (key : Key) : Store :=
  { store with
    schemas := Entries.erase store.schemas key
    tables := Entries.erase store.tables key }

/-- Remove a class with all its records, unless other classes point to it. -/
def purgeClass (store : Store) (className : Json) : Except Failure Store := do
  let key ← className.key.mapError Failure.host
  match store.schemas.lookup key with
  | none => throw (.notFound className .null)
  | some _ =>
      let found := store.referrers key className
      if found.isEmpty then return store.dropClass key
      else throw (.rejected (.referenced className found))

end TypedRecords.Store
