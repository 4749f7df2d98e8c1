import TypedRecords.Proofs.History

/-!
# What a request does to the store

`Request.Effect` says once what a request can do to the store: nothing, or one successful call of
the store, with arguments that come from the parameters, the clock and the ids of the request. What
a request keeps of a store is then shown by one case for each call, and what every request keeps
holds in every store that a run of requests leads to (`Store.holds_after`).

`Action.LeavesStore` carries this through the composition of actions.
-/

namespace TypedRecords

namespace Action

variable {Result Next : Type}

/-- The store that the action leaves is an allowed one, whether the action fails or not. -/
def LeavesStore (allowed : Store → Prop) (action : Action Result) (backend : Backend) : Prop :=
  allowed (action.run backend).2.store

namespace LeavesStore

variable {allowed : Store → Prop} {action : Action Result} {backend : Backend}

theorem of_keepsBackend (kept : action.KeepsBackend) (same : allowed backend.store) :
    action.LeavesStore allowed backend := by
  rw [LeavesStore, kept backend]
  exact same

theorem after {check : Action Next} {rest : Next → Action Result} (kept : check.KeepsBackend)
    (same : allowed backend.store)
    (leaves : ∀ result, check.run backend = (.ok result, backend) →
      (rest result).LeavesStore allowed backend) :
    (check >>= rest).LeavesStore allowed backend := by
  have unmoved := kept backend
  rw [LeavesStore, run_bind]
  rcases ran : check.run backend with ⟨failure | result, middle⟩
  · rw [ran] at unmoved
    subst unmoved
    exact same
  · rw [ran] at unmoved
    subst unmoved
    exact leaves result ran

/-- What follows an action and keeps the backend leaves the store that the action leaves. -/
theorem before {rest : Result → Action Next} (leaves : action.LeavesStore allowed backend)
    (kept : ∀ result, (rest result).KeepsBackend) :
    (action >>= rest).LeavesStore allowed backend := by
  rw [LeavesStore] at leaves
  rw [LeavesStore, run_bind]
  rcases ran : action.run backend with ⟨failure | result, middle⟩
  · rwa [ran] at leaves
  · rw [ran] at leaves
    simp only [kept result middle]
    exact leaves

theorem writing (call : StoreCall)
    {change : Backend → Except Failure (Result × Store × IdSource)} (same : allowed backend.store)
    (leaves : ∀ result store ids, change backend = .ok (result, store, ids) → allowed store) :
    (Backend.writing call change).LeavesStore allowed backend := by
  rw [LeavesStore, Backend.run_writing]
  rcases backend.outage? call with _ | failure
  · rcases changed : change backend with failure | ⟨result, store, ids⟩
    · exact same
    · exact leaves result store ids changed
  · exact same

end LeavesStore

end Action

open TypedRecords.Action

variable {allowed : Store → Prop} {backend : Backend}

namespace Records

variable {className objectId data records : Json}

theorem isTruthy_of_requireClass {result : Unit} (checked : requireClass className = .ok result) :
    className.isTruthy = true := by
  rw [requireClass] at checked
  split at checked
  · assumption
  · cases checked

theorem leavesStore_create (same : allowed backend.store)
    (leaves : ∀ fields record after rest, decodeData "data" data = .ok fields →
      backend.store.insert backend.ids backend.time className fields AccessPolicy.everyone =
        .ok (record, after, rest) → allowed after) :
    (create className data).LeavesStore allowed backend := by
  apply LeavesStore.after (.ofInput _) same
  intro _ named
  apply LeavesStore.after (.ofInput _) same
  intro _ given
  apply LeavesStore.after (.ofInput _) same
  intro fields decoded
  apply LeavesStore.writing _ same
  intro record after rest done
  exact leaves fields record after rest (of_run_ofInput decoded) done

theorem leavesStore_update (same : allowed backend.store)
    (leaves : ∀ existing patch record after, decodeData "data" data = .ok patch →
      backend.store.getById className objectId = .ok (some existing) →
      backend.store.update backend.time className objectId
        (Entries.merge existing.fields patch) = .ok (record, after) → allowed after) :
    (update className objectId data).LeavesStore allowed backend := by
  apply LeavesStore.after (.ofInput _) same
  intro _ named
  apply LeavesStore.after (.ofInput _) same
  intro _ known
  apply LeavesStore.after (.ofInput _) same
  intro _ given
  apply LeavesStore.after (.ofInput _) same
  intro patch decoded
  rw [mergePatch, LeavesStore, run_bind, run_bind]
  rcases run_find_cases className objectId backend with ⟨failure, ran⟩ | ⟨existing, found, ran⟩
  · rw [ran]
    exact same
  · rw [ran]
    refine LeavesStore.writing .update same ?_
    intro record after rest done
    exact leaves existing patch record after (of_run_ofInput decoded) found
      (Backend.eq_ok_of_result done)

theorem leavesStore_delete (same : allowed backend.store)
    (leaves : ∀ after, backend.store.delete className objectId = .ok after → allowed after) :
    (delete className objectId).LeavesStore allowed backend := by
  apply LeavesStore.after (.ofInput _) same
  intro _ named
  apply LeavesStore.after (.ofInput _) same
  intro _ known
  apply LeavesStore.after (keepsBackend_find className objectId) same
  intro existing found
  apply LeavesStore.writing _ same
  intro result after rest done
  exact leaves after (Backend.eq_ok_of_store done)

theorem leavesStore_createBatch (same : allowed backend.store)
    (leaves : ∀ items batch created after rest, className.isTruthy = true →
      records = .array items → decodeBatch 0 items = .ok batch →
      backend.store.bulkInsert backend.ids backend.time className batch =
        .ok (created, after, rest) → allowed after) :
    (createBatch className records).LeavesStore allowed backend := by
  apply LeavesStore.after (.ofInput _) same
  intro _ named
  have set := isTruthy_of_requireClass (of_run_ofInput named)
  cases records with
  | array items =>
      apply LeavesStore.after (.ofInput _) same
      intro batch decoded
      apply LeavesStore.writing _ same
      intro created after rest done
      exact leaves items batch created after rest set rfl (of_run_ofInput decoded) done
  | null => exact .of_keepsBackend (.throw _) same
  | bool => exact .of_keepsBackend (.throw _) same
  | int => exact .of_keepsBackend (.throw _) same
  | double => exact .of_keepsBackend (.throw _) same
  | text => exact .of_keepsBackend (.throw _) same
  | object => exact .of_keepsBackend (.throw _) same
  | foreign => exact .of_keepsBackend (.throw _) same

end Records

namespace Tables

variable {className samples seed : Json}

theorem leavesStore_create (seedByDefault : Bool) (same : allowed backend.store)
    (seeds : ∀ entries fields record after rest, sampleEntries samples = .ok entries →
      decodeSamples entries = .ok fields →
      backend.store.insert backend.ids backend.time className fields AccessPolicy.everyone =
        .ok (record, after, rest) → allowed after)
    (declares : ∀ entries fields schema declared after, sampleEntries samples = .ok entries →
      decodeSamples entries = .ok fields → sampleSchema fields = .ok schema →
      backend.store.declareClass className schema = .ok (declared, after) → allowed after) :
    (create seedByDefault className samples seed).LeavesStore allowed backend := by
  apply LeavesStore.after (.ofInput _) same
  intro _ named
  apply LeavesStore.after (.ofInput _) same
  intro entries listed
  apply LeavesStore.after (.ofInput _) same
  intro seeding flagged
  apply LeavesStore.after (.ofInput _) same
  intro fields decoded
  split
  · refine LeavesStore.before ?_ fun _ => .pure _
    apply LeavesStore.writing _ same
    intro record after rest done
    exact seeds entries fields record after rest (of_run_ofInput listed) (of_run_ofInput decoded)
      done
  · apply LeavesStore.after (.ofInput _) same
    intro schema sampled
    refine LeavesStore.before ?_ fun _ => .pure _
    apply LeavesStore.writing _ same
    intro declared after rest done
    exact declares entries fields schema declared after (of_run_ofInput listed)
      (of_run_ofInput decoded) (of_run_ofInput sampled) (Backend.eq_ok_of_result done)

theorem leavesStore_delete (same : allowed backend.store)
    (leaves : ∀ after, backend.store.purgeClass className = .ok after → allowed after) :
    (delete className).LeavesStore allowed backend := by
  apply LeavesStore.writing _ same
  intro result after rest done
  exact leaves after (Backend.eq_ok_of_store done)

end Tables

theorem Operation.keepsBackend_recordAnswer (message : String) (record : Record) :
    (recordAnswer message record).KeepsBackend :=
  (keepsBackend_encoded record).bind fun _ => .ofHost _

namespace Request

/-- What a request can do to a store, with the store that it leaves. -/
inductive Effect (request : Request) (store : Store) : Store → Prop where
  | unchanged : Effect request store store
  | created {fields : List (String × Value)} {record : Record} {after : Store} {rest : IdSource}
      (named : request.name = .text "createRecord")
      (decoded : Records.decodeData "data" (request.parameter "data") = .ok fields)
      (done : store.insert request.ids request.now.truncated (request.parameter "className") fields
        AccessPolicy.everyone = .ok (record, after, rest)) : Effect request store after
  | updated {existing record : Record} {patch : List (String × Value)} {after : Store}
      (named : request.name = .text "updateRecord")
      (decoded : Records.decodeData "data" (request.parameter "data") = .ok patch)
      (found : store.getById (request.parameter "className") (request.parameter "objectId") =
        .ok (some existing))
      (done : store.update request.now.truncated (request.parameter "className")
        (request.parameter "objectId") (Entries.merge existing.fields patch) =
          .ok (record, after)) : Effect request store after
  | deleted {after : Store} (named : request.name = .text "deleteRecord")
      (done : store.delete (request.parameter "className") (request.parameter "objectId") =
        .ok after) : Effect request store after
  | batched {items : List Json} {batch : List (List (String × Value) × AccessPolicy)}
      {records : List Record} {after : Store} {rest : IdSource}
      (named : request.name = .text "batchCreateRecords")
      (set : (request.parameter "className").isTruthy = true)
      (listed : request.parameter "records" = .array items)
      (decoded : Records.decodeBatch 0 items = .ok batch)
      (done : store.bulkInsert request.ids request.now.truncated (request.parameter "className")
        batch = .ok (records, after, rest)) : Effect request store after
  | seeded {entries : List (String × Json)} {fields : List (String × Value)} {record : Record}
      {after : Store} {rest : IdSource} (named : request.name = .text "createTable")
      (listed : Tables.sampleEntries (request.parameter "schema") = .ok entries)
      (decoded : Tables.decodeSamples entries = .ok fields)
      (done : store.insert request.ids request.now.truncated (request.parameter "className") fields
        AccessPolicy.everyone = .ok (record, after, rest)) : Effect request store after
  | declared {entries : List (String × Json)} {fields : List (String × Value)} {schema : Schema}
      {declared : Json × Schema} {after : Store} (named : request.name = .text "createTable")
      (listed : Tables.sampleEntries (request.parameter "schema") = .ok entries)
      (decoded : Tables.decodeSamples entries = .ok fields)
      (sampled : Tables.sampleSchema fields = .ok schema)
      (done : store.declareClass (request.parameter "className") schema = .ok (declared, after)) :
      Effect request store after
  | purged {answer : Json} {after : Store} (named : request.name = .text "deleteTable")
      (answered : request.outcome store = .ok answer)
      (done : store.purgeClass (request.parameter "className") = .ok after) :
      Effect request store after

/-- Every request has an effect on the store that its operation allows. The cases follow the order
in which the operations are registered; a class is removed only by a request that succeeds. -/
theorem effect (request : Request) (store : Store) : request.Effect store (request.next store) := by
  rcases run_cases request store with ⟨failure, ran⟩ | ⟨operation, registered, named, ran⟩
  · rw [next, ran]
    exact .unchanged
  · suffices leaves : (operation.answer request.settings request.given).LeavesStore
        (request.Effect store) (request.backend store) by
      rwa [next, ran, run_underLabel]
    simp only [Operation.builtin, List.mem_cons, List.not_mem_nil, or_false] at registered
    rcases registered with rfl | rfl | rfl | rfl | rfl | rfl | rfl | rfl | rfl | rfl | rfl | rfl
    · refine LeavesStore.before ?_ fun _ => .ofHost _
      apply Records.leavesStore_createBatch .unchanged
      intro items batch records after rest set listed decoded done
      exact .batched named set listed decoded done
    · exact .of_keepsBackend (Operation.keepsBackend_countRecords _ _) .unchanged
    · refine LeavesStore.before ?_ (Operation.keepsBackend_recordAnswer _)
      apply Records.leavesStore_create .unchanged
      intro fields record after rest decoded done
      exact .created named decoded done
    · refine LeavesStore.before ?_ fun _ => .ofHost _
      apply Tables.leavesStore_create _ .unchanged
      · intro entries fields record after rest listed decoded done
        exact .seeded named listed decoded done
      · intro entries fields schema declared after listed decoded sampled done
        exact .declared named listed decoded sampled done
    · refine LeavesStore.before ?_ fun _ => .ofHost _
      apply Records.leavesStore_delete .unchanged
      intro after done
      exact .deleted named done
    · rcases Operation.writesOnce_deleteTable request.settings request.given with
        ⟨failure, failed⟩ | ⟨answer, after, rest, records, done, _⟩
      · rw [LeavesStore, failed]
        exact .unchanged
      · have answered : request.outcome store = .ok answer := by
          rw [outcome, ran, run_underLabel, done]
          rfl
        refine LeavesStore.before ?_ fun _ => .ofHost _
        apply Tables.leavesStore_delete .unchanged
        intro after done
        exact .purged named answered done
    · exact .of_keepsBackend (Operation.keepsBackend_getServerInfo _ _) .unchanged
    · exact .of_keepsBackend (Operation.keepsBackend_getTableSchema _ _) .unchanged
    · exact .of_keepsBackend (Operation.keepsBackend_healthCheck _ _) .unchanged
    · exact .of_keepsBackend (Operation.keepsBackend_listTables _ _) .unchanged
    · exact .of_keepsBackend (Operation.keepsBackend_readTable _ _) .unchanged
    · refine LeavesStore.before ?_ (Operation.keepsBackend_recordAnswer _)
      apply Records.leavesStore_update .unchanged
      intro existing patch record after decoded found done
      exact .updated named decoded found done

end Request

/-- What every request keeps of a well-formed store holds after every run. -/
theorem Store.holds_after (holds : Store → Prop)
    (keeps : ∀ (request : Request) (store after : Store), request.Effect store after →
      store.WellFormed → holds store → holds after) {store : Store} (wellFormed : store.WellFormed)
    (start : holds store) (requests : List Request) : holds (store.after requests) := by
  induction requests generalizing store with
  | nil => exact start
  | cons request rest ih =>
      have next := keeps request store _ (request.effect store) wellFormed start
      exact ih (request.wellFormed_next wellFormed) next

end TypedRecords
