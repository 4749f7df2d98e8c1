import TypedRecords.Proofs.StoreWrites
import TypedRecords.Proofs.Writing

/-!
# Writes statement by statement

A call that writes is defined as one change of the store, which a failure does not reach. Here the
calls are taken apart into their statements. A statement looks at the backend as the statements
before it left it, and what was changed before a failure stays changed. On a store in which the
classes with a schema are those with a table, the statements of a call come to the call
(`Write.run_steps`): all that can fail comes before the first change. So whatever a call is given,
when it fails no schema and no record was touched, no id was issued and none was drawn.
-/

namespace TypedRecords

open TypedRecords.Action

namespace Store

/-- From now on the store has a list of the ids issued for a key, if an empty one. -/
def ensureIssued (store : Store) (key : Key) : Store :=
  { store with issued := Entries.set store.issued key (store.issuedFor key) }

theorem issuedFor_ensureIssued (store : Store) (key : Key) :
    (store.ensureIssued key).issuedFor key = store.issuedFor key := by
  rw [issuedFor, ensureIssued, Entries.lookup_set_self]
  rfl

theorem keys_tables_setRecord {store : Store} {key : Key}
    (present : key ∈ Entries.keys store.tables) (objectId : Key) (record : Record) :
    Entries.keys (store.setRecord key objectId record).tables = Entries.keys store.tables := by
  change Entries.keys (Entries.set store.tables _ _) = _
  rw [Entries.keys_set, if_pos present]

/-- Of two records kept under one id the second one stays. -/
theorem setRecord_setRecord (store : Store) (key objectId : Key) (first second : Record) :
    (store.setRecord key objectId first).setRecord key objectId second =
      store.setRecord key objectId second := by
  rw [setRecord, tableOf_setRecord, if_pos rfl, Entries.set_set, setRecord, setTable, setTable,
    Entries.set_set]
  rfl

/-- The table of a class that has a schema is there for its records. -/
theorem mem_tables_commitSchema {store : Store} {key : Key} {className : Json} {schema : Schema}
    (aligned : Entries.keys store.tables = Entries.keys store.schemas) :
    key ∈ Entries.keys (store.commitSchema key className schema).tables := by
  rw [commitSchema]
  by_cases present : (store.schemas.lookup key).isSome
  · rw [if_pos present, aligned]
    exact Entries.lookup_isSome_iff.mp present
  · rw [if_neg present, ← Entries.lookup_isSome_iff, Entries.lookup_set_self]
    rfl

theorem noteIssued_ensureIssued (store : Store) (key : Key) (objectId : String) :
    (store.ensureIssued key).noteIssued key objectId = store.noteIssued key objectId := by
  rw [noteIssued, issuedFor_ensureIssued, ensureIssued, Entries.set_set]
  rfl

end Store

/-! ### The statements -/

namespace Statement

/-- Change the store. -/
def change (update : Store → Store) : Action Unit :=
  modify fun backend => { backend with store := update backend.store }

/-- Fail because the store rejects something, unless there is a result. -/
def check {Result : Type} (result : Except Rejection Result) : Action Result :=
  ExceptT.mk (pure (result.mapError Failure.rejected))

/-- The schema of the class under a key, as the store has it now. -/
def currentSchema (key : Key) : Action Schema := do
  return (← get).store.schemaOf key

/-- Give a class the schema. A class without one is first given a table with no records. -/
def commitSchema (key : Key) (className : Json) (schema : Schema) : Action Unit := do
  unless ((← get).store.schemas.lookup key).isSome do
    change fun store => store.setTable key []
  change fun store =>
    { store with
      schemas := Entries.set store.schemas key { name := className, fields := schema } }

/-- Draw an id that was not issued for the key, and issue it. -/
def newObjectId (key : Key) : Action String := do
  change fun store => store.ensureIssued key
  let backend ← get
  let (objectId, ids) := backend.ids.fresh (backend.store.issuedFor key)
  modify fun backend => { backend with ids }
  change fun store => store.noteIssued key objectId
  return objectId

/-- Keep a record in the table of its class, which must exist. -/
def keepRecord (key objectId : Key) (record : Record) : Action Unit := do
  match (← get).store.tables.lookup key with
  | none => throw (.host (HostError.about .missingKey record.className))
  | some table => change fun store => store.setTable key (Entries.set table objectId record)

/-- File a new record. -/
def fileRecord (now : Moment) (key : Key) (className : String) (fields : List (String × Value))
    (access : AccessPolicy) : Action Record := do
  let objectId ← newObjectId key
  let record : Record :=
    { className, objectId, fields, access, createdAt := now, updatedAt := now }
  keepRecord key (.text objectId) record
  return record

/-- File a new record for each of the items, one after the other. -/
def fileEach (now : Moment) (key : Key) (className : String) :
    List (List (String × Value) × AccessPolicy) → Action (List Record)
  | [] => return []
  | (fields, access) :: rest => do
      let record ← fileRecord now key className fields access
      let records ← fileEach now key className rest
      return record :: records

/-- Take the table out of which a class had its records, and which must be there. -/
def dropTable (key : Key) (className : Json) : Action Unit := do
  match (← get).store.tables.lookup key with
  | none => throw (.host (HostError.about .missingKey className.display))
  | some _ => change fun store => { store with tables := Entries.erase store.tables key }

end Statement

/-! ### The calls as statements in their order -/

namespace Stepwise

open Statement

variable (className objectId : Json) (fields : List (String × Value))

/-- The insertion as steps that each change the backend at once: the check of class and fields, the
commit of the schema, the filing. -/
def insert (access : AccessPolicy) : Action Record := do
  let key ← Action.ofHost className.key
  let current ← currentSchema key
  let schema ← check (Store.prepare className current fields)
  commitSchema key className schema
  let now := (← get).time
  fileRecord now key className.display fields access

/-- The fields are written to the record first, and then the moment. -/
def update : Action Record := do
  let key ← Action.ofHost className.key
  let objectKey ← Action.ofHost objectId.key
  match (← get).store.record? key objectKey with
  | none => throw (.notFound className objectId)
  | some record =>
      let current ← currentSchema key
      let schema ← check (Store.prepare className current fields)
      commitSchema key className schema
      keepRecord key objectKey { record with fields }
      let now := (← get).time
      keepRecord key objectKey { record with fields, updatedAt := now }
      return { record with fields, updatedAt := now }

/-- The deletion as steps: the search for the record, and its removal. -/
def delete : Action Unit := do
  let key ← Action.ofHost className.key
  let objectKey ← Action.ofHost objectId.key
  match (← get).store.record? key objectKey with
  | none => throw (.notFound className objectId)
  | some _ => change fun store => store.dropRecord key objectKey

/-- The insertion of a batch as steps: the check of every item, the commit of the schema, the filing
of one item after the other. -/
def bulkInsert (items : List (List (String × Value) × AccessPolicy)) : Action (List Record) := do
  let key ← Action.ofHost className.key
  let current ← currentSchema key
  let schema ← check (Store.prepareAll className 0 current items)
  commitSchema key className schema
  let now := (← get).time
  fileEach now key className.display items

/-- What is answered is read back from the store. -/
def declareClass (fields : Schema) : Action (Json × Schema) := do
  let name ← check (Store.checkClassName className)
  let key ← Action.ofHost className.key
  let current ← currentSchema key
  let schema ← check (current.merge name fields)
  commitSchema key className schema
  match (← get).store.schemas.lookup key with
  | none => throw (.host (HostError.about .missingKey className.display))
  | some written => return (written.name, written.fields)

/-- The schema goes first, and then the table. -/
def purgeClass : Action Unit := do
  let key ← Action.ofHost className.key
  match (← get).store.schemas.lookup key with
  | none => throw (.notFound className .null)
  | some _ =>
      let found := (← get).store.referrers key className
      if found.isEmpty then
        change fun store => { store with schemas := Entries.erase store.schemas key }
        dropTable key className
      else throw (.rejected (.referenced className found))

end Stepwise

/-- What a call leaves of the backend if it is to make the change that was computed. -/
def Backend.settle {Result : Type} (backend : Backend) :
    Except Failure (Result × Store × IdSource) → Except Failure Result × Backend
  | .error failure => (.error failure, backend)
  | .ok (result, store, ids) => (.ok result, { backend with store, ids })

/-- A check that keeps the backend comes to one of the computation of the change. -/
theorem Action.run_bind_settle {Found Result : Type} {checks : Action Found}
    {rest : Found → Action Result} {backend : Backend} {computed : Except Failure Found}
    {next : Found → Except Failure (Result × Store × IdSource)}
    (checked : checks.run backend = (computed, backend))
    (follows : ∀ found, computed = .ok found →
      (rest found).run backend = backend.settle (next found)) :
    (checks >>= rest).run backend = backend.settle (computed >>= next) := by
  rw [run_bind, checked]
  cases computed with
  | error failure => rfl
  | ok found => exact follows found rfl

namespace Statement

variable {backend : Backend} {key objectId : Key}

theorem run_get : (get : Action Backend).run backend = (.ok backend, backend) :=
  rfl

theorem run_change (update : Store → Store) :
    (change update).run backend = (.ok (), { backend with store := update backend.store }) :=
  rfl

theorem run_check {Result : Type} (result : Except Rejection Result) :
    (check result).run backend = (result.mapError Failure.rejected, backend) :=
  rfl

theorem run_currentSchema :
    (currentSchema key).run backend = (.ok (backend.store.schemaOf key), backend) :=
  rfl

theorem run_commitSchema (className : Json) (schema : Schema) :
    (commitSchema key className schema).run backend =
      (.ok (), { backend with store := backend.store.commitSchema key className schema }) := by
  rw [commitSchema, run_bind_of_ok run_get, Store.commitSchema]
  rcases backend.store.schemas.lookup key with _ | known
  · rfl
  · rfl

theorem run_newObjectId {drawn : String} {ids : IdSource}
    (draws : backend.ids.fresh (backend.store.issuedFor key) = (drawn, ids)) :
    (newObjectId key).run backend =
      (.ok drawn, { backend with store := backend.store.noteIssued key drawn, ids }) := by
  rw [newObjectId, run_bind_of_ok (run_change _), run_bind_of_ok run_get,
    Store.issuedFor_ensureIssued]
  simp only [draws]
  rw [← Store.noteIssued_ensureIssued]
  rfl

theorem run_keepRecord (present : key ∈ Entries.keys backend.store.tables) (record : Record) :
    (keepRecord key objectId record).run backend =
      (.ok (), { backend with store := backend.store.setRecord key objectId record }) := by
  rw [← Entries.lookup_isSome_iff] at present
  rcases Option.isSome_iff_exists.mp present with ⟨table, found⟩
  rw [keepRecord, run_bind_of_ok run_get, found, Store.setRecord, Store.tableOf, found]
  rfl

theorem run_dropTable (present : key ∈ Entries.keys backend.store.tables) (className : Json) :
    (dropTable key className).run backend =
      (.ok (), { backend with store :=
        { backend.store with tables := Entries.erase backend.store.tables key } }) := by
  rw [← Entries.lookup_isSome_iff] at present
  rcases Option.isSome_iff_exists.mp present with ⟨table, found⟩
  rw [dropTable, run_bind_of_ok run_get, found]
  rfl

section Filing

variable {now : Moment} {className : String} {after : Store} {rest : IdSource}

theorem run_fileRecord (present : key ∈ Entries.keys backend.store.tables)
    {fields : List (String × Value)} {access : AccessPolicy} {record : Record}
    (filed : backend.store.file backend.ids now key className fields access =
      (record, after, rest)) :
    (fileRecord now key className fields access).run backend =
      (.ok record, { backend with store := after, ids := rest }) := by
  rcases draws : backend.ids.fresh (backend.store.issuedFor key) with ⟨drawn, ids⟩
  simp only [Store.file, draws, Prod.mk.injEq] at filed
  rcases filed with ⟨rfl, rfl, rfl⟩
  have still : key ∈ Entries.keys (backend.store.noteIssued key drawn).tables := present
  rw [fileRecord, run_bind_of_ok (run_newObjectId draws)]
  exact run_bind_of_ok (@run_keepRecord
    { backend with store := backend.store.noteIssued key drawn, ids } key (.text drawn) still _)

theorem run_fileEach (present : key ∈ Entries.keys backend.store.tables)
    {items : List (List (String × Value) × AccessPolicy)} {records : List Record}
    (filed : backend.store.fileAll backend.ids now key className items =
      (records, after, rest)) :
    (fileEach now key className items).run backend =
      (.ok records, { backend with store := after, ids := rest }) := by
  induction items generalizing backend records with
  | nil =>
      cases filed
      rfl
  | cons item others ih =>
      rcases Store.fileAll_cons_eq filed with ⟨record, middle, ids, later, first, more, rfl⟩
      have still : key ∈ Entries.keys middle.tables := by
        rcases Store.file_eq first with ⟨_, _, rfl⟩
        have known : key ∈ Entries.keys
            (backend.store.noteIssued key record.objectId).tables := present
        rwa [Store.keys_tables_setRecord known]
      rw [fileEach, run_bind_of_ok (run_fileRecord present first),
        run_bind_of_ok (@ih { backend with store := middle, ids } still later more)]
      rfl

end Filing

end Statement

namespace Stepwise

open Statement

variable {backend : Backend} {className objectId : Json}

theorem run_delete :
    (delete className objectId).run backend = backend.settle (do
      let store ← backend.store.delete className objectId
      return ((), store, backend.ids)) := by
  simp only [Store.delete, bind_assoc]
  apply run_bind_settle (run_ofHost _ _)
  intro key _
  apply run_bind_settle (run_ofHost _ _)
  intro objectKey _
  rw [run_bind_of_ok run_get]
  rcases backend.store.record? key objectKey with _ | record
  · rfl
  · rfl

theorem run_declareClass (fields : Schema) :
    (declareClass className fields).run backend = backend.settle (do
      let (declared, store) ← backend.store.declareClass className fields
      return (declared, store, backend.ids)) := by
  simp only [Store.declareClass, bind_assoc]
  apply run_bind_settle (run_check _)
  intro name _
  apply run_bind_settle (run_ofHost _ _)
  intro key _
  rw [run_bind_of_ok run_currentSchema]
  apply run_bind_settle (run_check _)
  intro schema _
  rw [run_bind_of_ok (run_commitSchema _ _), run_bind_of_ok run_get, Store.commitSchema]
  simp only [Entries.lookup_set_self]
  rfl

section Aligned

variable (aligned : Entries.keys backend.store.tables = Entries.keys backend.store.schemas)

include aligned

theorem run_insert (fields : List (String × Value)) (access : AccessPolicy) :
    (insert className fields access).run backend =
      backend.settle (backend.store.insert backend.ids backend.time className fields access) := by
  apply run_bind_settle (run_ofHost _ _)
  intro key _
  rw [run_bind_of_ok run_currentSchema]
  apply run_bind_settle (run_check _)
  intro schema _
  rw [run_bind_of_ok (run_commitSchema _ _), run_bind_of_ok run_get]
  exact run_fileRecord (Store.mem_tables_commitSchema aligned) rfl

theorem run_bulkInsert (items : List (List (String × Value) × AccessPolicy)) :
    (bulkInsert className items).run backend =
      backend.settle (backend.store.bulkInsert backend.ids backend.time className items) := by
  apply run_bind_settle (run_ofHost _ _)
  intro key _
  rw [run_bind_of_ok run_currentSchema]
  apply run_bind_settle (run_check _)
  intro schema _
  rw [run_bind_of_ok (run_commitSchema _ _), run_bind_of_ok run_get]
  exact run_fileEach (Store.mem_tables_commitSchema aligned) rfl

theorem run_update (fields : List (String × Value)) :
    (update className objectId fields).run backend = backend.settle (do
      let (record, store) ← backend.store.update backend.time className objectId fields
      return (record, store, backend.ids)) := by
  simp only [Store.update, bind_assoc]
  apply run_bind_settle (run_ofHost _ _)
  intro key _
  apply run_bind_settle (run_ofHost _ _)
  intro objectKey _
  rw [run_bind_of_ok run_get]
  rcases backend.store.record? key objectKey with _ | record
  · rfl
  · simp only [run_bind_of_ok run_currentSchema, bind_assoc]
    apply run_bind_settle (run_check _)
    intro schema _
    have present := @Store.mem_tables_commitSchema _ key className schema aligned
    have still := present
    rw [← Store.keys_tables_setRecord present objectKey { record with fields }] at still
    have first := @run_keepRecord
      { backend with store := backend.store.commitSchema key className schema } key objectKey
        present { record with fields }
    have second := @run_keepRecord
      { backend with
        store := (backend.store.commitSchema key className schema).setRecord key objectKey
          { record with fields } } key objectKey still
        { record with fields, updatedAt := backend.time }
    rw [Store.setRecord_setRecord] at second
    rw [run_bind_of_ok (run_commitSchema _ _), run_bind_of_ok first, run_bind_of_ok run_get]
    exact run_bind_of_ok second

theorem run_purgeClass :
    (purgeClass className).run backend = backend.settle (do
      let store ← backend.store.purgeClass className
      return ((), store, backend.ids)) := by
  simp only [Store.purgeClass, bind_assoc]
  apply run_bind_settle (run_ofHost _ _)
  intro key _
  rw [run_bind_of_ok run_get]
  rcases known : backend.store.schemas.lookup key with _ | schema
  · rfl
  · simp only [run_bind_of_ok run_get]
    split
    · have present : key ∈ Entries.keys backend.store.tables := by
        rw [aligned, ← Entries.lookup_isSome_iff, known]
        rfl
      rw [run_bind_of_ok (run_change _)]
      exact @run_dropTable { backend with
        store := { backend.store with schemas := Entries.erase backend.store.schemas key } } key
          present className
    · rfl

end Aligned

end Stepwise

/-- A write to a store, whatever it is given. -/
inductive Write where
  | insert (className : Json) (fields : List (String × Value)) (access : AccessPolicy)
  | update (className objectId : Json) (fields : List (String × Value))
  | delete (className objectId : Json)
  | bulkInsert (className : Json) (items : List (List (String × Value) × AccessPolicy))
  | declareClass (className : Json) (fields : Schema)
  | purgeClass (className : Json)

namespace Write

/-- The call that serves the write. -/
def call : Write → StoreCall
  | .insert .. => .insert
  | .update .. => .update
  | .delete .. => .delete
  | .bulkInsert .. => .bulkInsert
  | .declareClass .. => .declareClass
  | .purgeClass .. => .purgeClass

/-- What the write gives if it succeeds. -/
def Result : Write → Type
  | .insert .. => Record
  | .update .. => Record
  | .delete .. => Unit
  | .bulkInsert .. => List Record
  | .declareClass .. => Json × Schema
  | .purgeClass .. => Unit

/-- The call to the backend. -/
def perform : (write : Write) → Action write.Result
  | .insert className fields access => Backend.insert className fields access
  | .update className objectId fields => Backend.update className objectId fields
  | .delete className objectId => Backend.delete className objectId
  | .bulkInsert className items => Backend.bulkInsert className items
  | .declareClass className fields => Backend.declareClass className fields
  | .purgeClass className => Backend.purgeClass className

/-- The same write, statement by statement. -/
def steps : (write : Write) → Action write.Result
  | .insert className fields access => Stepwise.insert className fields access
  | .update className objectId fields => Stepwise.update className objectId fields
  | .delete className objectId => Stepwise.delete className objectId
  | .bulkInsert className items => Stepwise.bulkInsert className items
  | .declareClass className fields => Stepwise.declareClass className fields
  | .purgeClass className => Stepwise.purgeClass className

/-- The change that the call computes before it touches anything. -/
def computed (backend : Backend) :
    (write : Write) → Except Failure (write.Result × Store × IdSource)
  | .insert className fields access =>
      backend.store.insert backend.ids backend.time className fields access
  | .update className objectId fields => do
      let (record, store) ← backend.store.update backend.time className objectId fields
      return (record, store, backend.ids)
  | .delete className objectId => do
      let store ← backend.store.delete className objectId
      return ((), store, backend.ids)
  | .bulkInsert className items =>
      backend.store.bulkInsert backend.ids backend.time className items
  | .declareClass className fields => do
      let (declared, store) ← backend.store.declareClass className fields
      return (declared, store, backend.ids)
  | .purgeClass className => do
      let store ← backend.store.purgeClass className
      return ((), store, backend.ids)

variable {backend : Backend}

theorem run_perform (write : Write) :
    write.perform.run backend =
      match backend.outage? write.call with
      | some failure => (.error failure, backend)
      | none => backend.settle (write.computed backend) := by
  cases write with
  | insert => rfl
  | update => rfl
  | delete => rfl
  | bulkInsert => rfl
  | declareClass => rfl
  | purgeClass => rfl

/-- The statements of a write come to the change that the call computes. -/
theorem run_steps (write : Write)
    (aligned : Entries.keys backend.store.tables = Entries.keys backend.store.schemas) :
    write.steps.run backend = backend.settle (write.computed backend) := by
  cases write with
  | insert className fields access => exact Stepwise.run_insert aligned fields access
  | update className objectId fields => exact Stepwise.run_update aligned fields
  | delete className objectId => exact Stepwise.run_delete
  | bulkInsert className items => exact Stepwise.run_bulkInsert aligned items
  | declareClass className fields => exact Stepwise.run_declareClass fields
  | purgeClass className => exact Stepwise.run_purgeClass aligned

end Write

theorem Backend.eq_of_settle_eq_error {Result : Type} {backend after : Backend}
    {computed : Except Failure (Result × Store × IdSource)} {failure : Failure}
    (settled : backend.settle computed = (.error failure, after)) : after = backend := by
  rcases computed with reason | ⟨result, store, ids⟩
  · cases settled
    rfl
  · cases settled

namespace Write

/-- Every write is atomic. On a store in which the classes with a schema are those with a table,
whatever it is given, its statements come to the call; and when it fails, by a statement or because
it is out of service, the backend is as it was: its schemas, its records, the ids that it issued and
the ids that it is to draw. -/
theorem atomic (write : Write) {backend : Backend}
    (aligned : Entries.keys backend.store.tables = Entries.keys backend.store.schemas) :
    (backend.outage? write.call = none →
      write.perform.run backend = write.steps.run backend) ∧
    (∀ failure after, write.steps.run backend = (.error failure, after) → after = backend) ∧
    ∀ failure after, write.perform.run backend = (.error failure, after) → after = backend := by
  refine ⟨?_, ?_, ?_⟩
  · intro served
    rw [run_perform, served, run_steps write aligned]
  · intro failure after failed
    rw [run_steps write aligned] at failed
    exact Backend.eq_of_settle_eq_error failed
  · intro failure after failed
    rw [run_perform] at failed
    split at failed
    · cases failed
      rfl
    · exact Backend.eq_of_settle_eq_error failed

/-- A batch of three records for a new class. The third one has a set for a field. -/
def unfitBatch : Write :=
  .bulkInsert (.text "A")
    [([("n", .int 1)], AccessPolicy.everyone), ([("n", .int 2)], AccessPolicy.everyone),
      ([("n", .foreign .set)], AccessPolicy.everyone)]

/-- A backend with an empty store. -/
def emptyBackend : Backend :=
  { name := .text "memory", now := { instant := 0, offset := 0 } }

/-- The batch fails, and of its first two records nothing is kept. -/
theorem unfitBatch_keeps_nothing :
    Entries.keys emptyBackend.store.tables = Entries.keys emptyBackend.store.schemas ∧
      ∃ failure, unfitBatch.steps.run emptyBackend = (.error failure, emptyBackend) ∧
        unfitBatch.perform.run emptyBackend = (.error failure, emptyBackend) := by
  have aligned : Entries.keys emptyBackend.store.tables =
      Entries.keys emptyBackend.store.schemas := rfl
  have fails : ∃ failure after, unfitBatch.steps.run emptyBackend = (.error failure, after) :=
    ⟨_, _, rfl⟩
  rcases fails with ⟨failure, after, failed⟩
  rcases atomic unfitBatch aligned with ⟨same, kept, _⟩
  have left := kept failure after failed
  rw [left] at failed
  exact ⟨aligned, failure, failed, (same rfl).trans failed⟩

/-- A backend whose store has the schema of a class, and no table for its records. An insertion
fails there on its way, and the id that it has issued stays issued. -/
def withoutTable : Backend :=
  { name := .text "memory", now := { instant := 0, offset := 0 },
    store := { schemas := [(.text "A", { name := .text "A", fields := Schema.builtin })] },
    ids := { listed := ["x"] } }

example : ((Stepwise.insert (.text "A") [] AccessPolicy.everyone).run withoutTable).1.isOk = false ∧
    ((Stepwise.insert (.text "A") [] AccessPolicy.everyone).run withoutTable).2.store.issuedFor
      (.text "A") = ["x"] := by
  decide

end Write

end TypedRecords
