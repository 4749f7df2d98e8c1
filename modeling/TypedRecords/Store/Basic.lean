import TypedRecords.Filter.Predicate
import TypedRecords.Json.Key
import TypedRecords.Schema

/-!
# The store

The store keeps three tables side by side, each by the keys of the classes: the schemas, in the
order in which the classes came into existence; the records, each under its id and in the order
in which they were created; and the ids ever issued for a class, which stay when the class is
gone.

This file has the reading side: looking a class or a record up, and selecting records by
predicates. `TypedRecords.Store.Write` has the operations that change the store.
-/

namespace TypedRecords

/-- The fields of a class. The name is the one by which the class was last written. -/
structure ClassSchema where
  name : Json
  fields : Schema

/-- The schemas and the records of all classes, and the ids issued for each key. -/
structure Store where
  schemas : List (Key × ClassSchema) := []
  tables : List (Key × List (Key × Record)) := []
  issued : List (Key × List String) := []

namespace Store

/-- The fields of the class under a key; a class to come has the fields that every record
has. -/
def schemaOf (store : Store) (key : Key) : Schema :=
  match store.schemas.lookup key with
  | some schema => schema.fields
  | none => Schema.builtin

/-- The records of the class under a key, by their ids. -/
def tableOf (store : Store) (key : Key) : List (Key × Record) :=
  (store.tables.lookup key).getD []

/-- The ids ever issued for a key. -/
def issuedFor (store : Store) (key : Key) : List String :=
  (store.issued.lookup key).getD []

/-- The record of a class under an id. -/
def record? (store : Store) (key objectId : Key) : Option Record :=
  (store.tableOf key).lookup objectId

/-- The part of a list between two positions; a negative position counts from the end. -/
def slice {Item : Type} (items : List Item) (start : Int) (stop : Option Int) : List Item :=
  let position (index : Int) : Nat :=
    if index < 0 then (items.length + index).toNat else index.toNat
  match stop with
  | none => items.drop (position start)
  | some stop => (items.take (position stop)).drop (position start)

/-- The page of a list after the first `skip` items, of at most `limit` items if that is
given. -/
def page {Item : Type} (items : List Item) (limit : Option Int) (skip : Int) : List Item :=
  slice items skip (limit.map (skip + ·))

/-- The records of a class that satisfy all predicates. -/
def select (store : Store) (className : Json) (predicates : List Predicate) :
    Except Failure (List Record) := do
  let key ← className.key.mapError Failure.host
  let known := match store.schemas.lookup key with
    | some schema => Entries.keys schema.fields
    | none => []
  let records := (store.tableOf key).map Prod.snd
  (Predicate.select predicates known records).mapError Failure.rejected

/-- The record of a class under an id, if there is one. -/
def getById (store : Store) (className objectId : Json) : Except Failure (Option Record) := do
  let key ← className.key.mapError Failure.host
  let objectKey ← objectId.key.mapError Failure.host
  return store.record? key objectKey

/-- A page of the records of a class that satisfy all predicates. -/
def query (store : Store) (className : Json) (predicates : List Predicate)
    (limit : Option Int) (skip : Int) : Except Failure (List Record) := do
  let selected ← store.select className predicates
  return page selected limit skip

/-- The number of records of a class that satisfy all predicates. -/
def count (store : Store) (className : Json) (predicates : List Predicate) :
    Except Failure Nat := do
  let selected ← store.select className predicates
  return selected.length

/-- The classes with their schemas, in the order in which they came into existence. -/
def listClasses (store : Store) : List (Json × Schema) :=
  store.schemas.map fun entry => (entry.2.name, entry.2.fields)

/-- The schema of a class, if the class exists. -/
def classFields (store : Store) (className : Json) : Except Failure (Option Schema) := do
  let key ← className.key.mapError Failure.host
  return (store.schemas.lookup key).map (·.fields)

end Store

end TypedRecords
