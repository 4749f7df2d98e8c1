import TypedRecords.Store.Write

/-!
# The backend

A backend is a store at work: the store together with the source of object ids and the clock.
An `Action` is a computation over a backend that may fail; what it did to the backend before it
failed remains.

Calls to a backend can be out of service. An outage makes every such call fail before it
touches anything, with the failure that was set for it.
-/

namespace TypedRecords

/-- The calls that a backend serves. -/
inductive StoreCall where
  | insert
  | getById
  | query
  | update
  | delete
  | bulkInsert
  | count
  | listClasses
  | classFields
  | declareClass
  | purgeClass
deriving DecidableEq

/-- A store with its source of object ids, its clock and its outages. -/
structure Backend where
  name : Json
  now : Moment
  store : Store := {}
  ids : IdSource := {}
  outages : List (StoreCall × Failure) := []

/-- A computation over a backend. -/
abbrev Action := ExceptT Failure (StateM Backend)

namespace Action

variable {Result : Type}

/-- Fail because the input is invalid, unless there is a result. -/
def ofInput (result : Except InvalidInput Result) : Action Result :=
  ExceptT.mk (pure (result.mapError Failure.invalid))

/-- Fail with an error of the environment, unless there is a result. -/
def ofHost (result : Except HostError Result) : Action Result :=
  ExceptT.mk (pure (result.mapError Failure.host))

/-- Show failures under a label. -/
def underLabel (label : Option String) (action : Action Result) : Action Result :=
  ExceptT.mk do
    let result ← action.run
    return result.mapError (Failure.underLabel label)

end Action

namespace Backend

/-- The moment that the clock shows, to the millisecond. -/
def time (backend : Backend) : Moment :=
  backend.now.truncated

/-- The failure of a call that is out of service. -/
def outage? (backend : Backend) (call : StoreCall) : Option Failure :=
  backend.outages.lookup call

/-- Put a call out of service with a failure, in place of any that it had. -/
def setOutage (backend : Backend) (call : StoreCall) (failure : Failure) : Backend :=
  { backend with
    outages := (call, failure) :: backend.outages.filter fun outage => outage.1 != call }

/-- Put a call back into service. -/
def clearOutage (backend : Backend) (call : StoreCall) : Backend :=
  { backend with outages := backend.outages.filter fun outage => outage.1 != call }

/-- The calls that are out of service. -/
def outOfService (backend : Backend) : List StoreCall :=
  backend.outages.map Prod.fst

variable {Result : Type}

/-- A call that only reads the store. -/
def reading (call : StoreCall) (answer : Store → Except Failure Result) : Action Result :=
  ExceptT.mk fun backend =>
    match backend.outage? call with
    | some failure => (.error failure, backend)
    | none => (answer backend.store, backend)

/-- A call that may change the store and draw ids; when it fails nothing changes. -/
def writing (call : StoreCall)
    (change : Backend → Except Failure (Result × Store × IdSource)) : Action Result :=
  ExceptT.mk fun backend =>
    match backend.outage? call with
    | some failure => (.error failure, backend)
    | none =>
        match change backend with
        | .error failure => (.error failure, backend)
        | .ok (result, store, ids) => (.ok result, { backend with store, ids })

/-- The text of the moment that the clock shows. -/
def timestamp : Action Json := do
  let backend ← get
  Action.ofHost (Record.timestamp backend.time)

/-- Insert a record at the time of the backend, under an id from its source. -/
def insert (className : Json) (fields : List (String × Value)) (access : AccessPolicy) :
    Action Record :=
  writing .insert fun backend =>
    backend.store.insert backend.ids backend.time className fields access

/-- Ask the store for the record of a class under an id. -/
def getById (className objectId : Json) : Action (Option Record) :=
  reading .getById fun store => store.getById className objectId

/-- Ask the store for a page of the records that satisfy all predicates. -/
def query (className : Json) (predicates : List Predicate) (limit : Option Int) (skip : Int) :
    Action (List Record) :=
  reading .query fun store => store.query className predicates limit skip

/-- Replace the fields of a record at the time of the backend. -/
def update (className objectId : Json) (fields : List (String × Value)) : Action Record :=
  writing .update fun backend => do
    let (record, store) ← backend.store.update backend.time className objectId fields
    return (record, store, backend.ids)

/-- Drop a record from the store. -/
def delete (className objectId : Json) : Action Unit :=
  writing .delete fun backend => do
    let store ← backend.store.delete className objectId
    return ((), store, backend.ids)

/-- Insert all items or none, at the time of the backend and under ids from its source. -/
def bulkInsert (className : Json) (items : List (List (String × Value) × AccessPolicy)) :
    Action (List Record) :=
  writing .bulkInsert fun backend =>
    backend.store.bulkInsert backend.ids backend.time className items

/-- Ask the store for the number of records that satisfy all predicates. -/
def count (className : Json) (predicates : List Predicate) : Action Nat :=
  reading .count fun store => store.count className predicates

/-- Ask the store for all classes with their schemas. -/
def listClasses : Action (List (Json × Schema)) :=
  reading .listClasses fun store => .ok store.listClasses

/-- Ask the store for the schema of a class. -/
def classFields (className : Json) : Action (Option Schema) :=
  reading .classFields fun store => store.classFields className

/-- Add fields to the schema of a class, which comes into existence if there is none. -/
def declareClass (className : Json) (fields : Schema) : Action (Json × Schema) :=
  writing .declareClass fun backend => do
    let (declared, store) ← backend.store.declareClass className fields
    return (declared, store, backend.ids)

/-- Remove a class with its records and its schema. -/
def purgeClass (className : Json) : Action Unit :=
  writing .purgeClass fun backend => do
    let store ← backend.store.purgeClass className
    return ((), store, backend.ids)

end Backend

end TypedRecords
