import TypedRecords.Proofs.Change
import TypedRecords.Proofs.Decoding
import TypedRecords.Proofs.Writable

/-!
# Actions that write once

Every action on records and tables that writes has one shape: it checks its arguments without
touching the backend, and then makes one call that writes. So it either fails and leaves the
backend as it was, or it succeeds and its whole effect is one `Store.Change`.
`Action.WritesOnce told` says this of an action run on a backend, where `told` relates its result
to the records that it filed.
-/

namespace TypedRecords

namespace Action

variable {Result Next : Type}

/-- On the backend the action fails and changes nothing, or makes one change to the store, filing
records that its result tells of. -/
def WritesOnce (told : Result → List Record → Prop) (action : Action Result)
    (backend : Backend) : Prop :=
  (∃ failure, action.run backend = (.error failure, backend)) ∨
    ∃ result store ids records, action.run backend = (.ok result, { backend with store, ids }) ∧
      backend.store.Change records store ∧ told result records

namespace WritesOnce

variable {told : Result → List Record → Prop} {action : Action Result} {backend : Backend}

theorem throw (failure : Failure) : (throw failure : Action Result).WritesOnce told backend :=
  Or.inl ⟨failure, rfl⟩

theorem after {check : Action Next} {rest : Next → Action Result} (kept : check.KeepsBackend)
    (writes : ∀ result, check.run backend = (.ok result, backend) →
      (rest result).WritesOnce told backend) : (check >>= rest).WritesOnce told backend := by
  have same := kept backend
  rw [WritesOnce, run_bind]
  rcases ran : check.run backend with ⟨failure | result, middle⟩
  · rw [ran] at same
    subst same
    exact Or.inl ⟨failure, rfl⟩
  · rw [ran] at same
    subst same
    exact writes result ran

theorem map {change : Result → Next} {report : Next → List Record → Prop}
    (writes : action.WritesOnce told backend)
    (tells : ∀ result records, told result records → report (change result) records) :
    (action >>= fun result => Pure.pure (change result)).WritesOnce report backend := by
  rw [WritesOnce, run_bind]
  rcases writes with ⟨failure, ran⟩ | ⟨result, store, ids, records, ran, changed, tell⟩
  · rw [ran]
    exact Or.inl ⟨failure, rfl⟩
  · rw [ran]
    exact Or.inr ⟨change result, store, ids, records, rfl, changed, tells result records tell⟩

/-- The answer is built from the result, and building it succeeds. -/
theorem answer {build : Result → Except HostError Next} {report : Next → List Record → Prop}
    (writes : action.WritesOnce told backend)
    (builds : ∀ result records, told result records →
      ∃ final, build result = .ok final ∧ report final records) :
    (action >>= fun result => ofHost (build result)).WritesOnce report backend := by
  rw [WritesOnce, run_bind]
  rcases writes with ⟨failure, ran⟩ | ⟨result, store, ids, records, ran, changed, tell⟩
  · rw [ran]
    exact Or.inl ⟨failure, rfl⟩
  · rw [ran]
    rcases builds result records tell with ⟨final, built, reported⟩
    refine Or.inr ⟨final, store, ids, records, ?_, changed, reported⟩
    simp only [run_ofHost, built]
    rfl

end WritesOnce

end Action

namespace Backend

variable {Result : Type} {backend : Backend}

theorem outage?_eq_none (served : backend.outages = []) (call : StoreCall) :
    backend.outage? call = none := by
  rw [outage?, served]
  rfl

theorem run_reading (call : StoreCall) (answer : Store → Except Failure Result)
    (backend : Backend) :
    (reading call answer).run backend =
      match backend.outage? call with
      | some failure => (.error failure, backend)
      | none => (answer backend.store, backend) :=
  rfl

theorem run_writing (call : StoreCall)
    (change : Backend → Except Failure (Result × Store × IdSource)) (backend : Backend) :
    (writing call change).run backend =
      match backend.outage? call with
      | some failure => (.error failure, backend)
      | none =>
          match change backend with
          | .error failure => (.error failure, backend)
          | .ok (result, store, ids) => (.ok result, { backend with store, ids }) :=
  rfl

theorem keepsBackend_reading (call : StoreCall) (answer : Store → Except Failure Result) :
    (reading call answer).KeepsBackend := by
  intro backend
  rw [run_reading]
  split <;> rfl

theorem run_writing_eq_ok {call : StoreCall}
    {change : Backend → Except Failure (Result × Store × IdSource)} {result : Result}
    {after : Backend} (ran : (writing call change).run backend = (.ok result, after)) :
    change backend = .ok (result, after.store, after.ids) := by
  rw [run_writing] at ran
  split at ran
  · cases ran
  · split at ran
    · cases ran
    · rename_i changed
      cases ran
      exact changed

/-- An update that is served is that of the store. -/
theorem run_update (served : backend.outage? .update = none) (className objectId : Json)
    (fields : List (String × Value)) :
    (update className objectId fields).run backend =
      match backend.store.update backend.time className objectId fields with
      | .error failure => (.error failure, backend)
      | .ok (record, store) => (.ok record, { backend with store }) := by
  simp only [update, run_writing, served]
  rcases backend.store.update backend.time className objectId fields with
    failure | ⟨record, store⟩
  · rfl
  · rfl

/-- A change that draws no ids has the store that it computes. -/
theorem eq_ok_of_result {computed : Except Failure (Result × Store)} {ids rest : IdSource}
    {result : Result} {store : Store}
    (done : (do
      let (result, store) ← computed
      return (result, store, ids)) = .ok (result, store, rest)) :
    computed = .ok (result, store) := by
  simp only [Except.bind_eq_ok_iff, Except.pure_eq_ok_iff, Prod.mk.injEq] at done
  rcases done with ⟨_, done, rfl, rfl, _⟩
  exact done

/-- A change that gives no result either has the store that it computes. -/
theorem eq_ok_of_store {computed : Except Failure Store} {ids rest : IdSource} {result : Unit}
    {store : Store}
    (done : (do
      let store ← computed
      return ((), store, ids)) = .ok (result, store, rest)) : computed = .ok store := by
  simp only [Except.bind_eq_ok_iff, Except.pure_eq_ok_iff, Prod.mk.injEq] at done
  rcases done with ⟨_, done, _, rfl, _⟩
  exact done

/-- A call that writes makes the change that it computes. -/
theorem writesOnce_writing {told : Result → List Record → Prop} (call : StoreCall)
    {change : Backend → Except Failure (Result × Store × IdSource)}
    (changes : ∀ result store ids, change backend = .ok (result, store, ids) →
      ∃ records, backend.store.Change records store ∧
        told result records) : (writing call change).WritesOnce told backend := by
  rw [Action.WritesOnce, run_writing]
  rcases backend.outage? call with _ | failure
  · rcases changed : change backend with failure | ⟨result, store, ids⟩
    · exact Or.inl ⟨failure, rfl⟩
    · rcases changes result store ids changed with ⟨records, step, tell⟩
      exact Or.inr ⟨result, store, ids, records, rfl, step, tell⟩
  · exact Or.inl ⟨failure, rfl⟩

/-- All records belong to the class with the name. -/
def AllOf (className : Json) (records : List Record) : Prop :=
  ∀ record ∈ records, className = .text record.className

theorem writesOnce_insert {className : Json} {fields : List (String × Value)}
    (unreserved : Schema.Unreserved fields) :
    (insert className fields AccessPolicy.everyone).WritesOnce
      (fun record records => records = [record] ∧ AllOf className records) backend := by
  apply writesOnce_writing
  intro record store ids done
  rcases Store.change_of_insert unreserved done with ⟨change, named⟩
  exact ⟨[record], change, rfl, by simpa [AllOf] using named⟩

theorem writesOnce_bulkInsert {className : Json}
    {items : List (List (String × Value) × AccessPolicy)}
    (unreserved : ∀ item ∈ items, Schema.Unreserved item.1 ∧ item.2 = AccessPolicy.everyone) :
    (bulkInsert className items).WritesOnce
      (fun created records => records = created ∧ AllOf className records) backend := by
  apply writesOnce_writing
  intro records store ids done
  rcases Store.change_of_bulkInsert unreserved done with ⟨change, named⟩
  exact ⟨records, change, rfl, named⟩

theorem writesOnce_delete (wellFormed : backend.store.WellFormed) (className objectId : Json) :
    (delete className objectId).WritesOnce
      (fun _ records => records = [] ∧ ∃ known, objectId = .text known) backend := by
  apply writesOnce_writing
  intro result store ids done
  have deleted := eq_ok_of_store done
  refine ⟨[], Store.change_of_delete deleted, rfl, ?_⟩
  rcases Store.delete_eq_ok deleted with ⟨key, objectKey, existing, _, keyed, found, _⟩
  have filed := wellFormed.records key objectKey existing found
  exact ⟨existing.objectId, Json.eq_text_of_key (filed.identified ▸ keyed)⟩

theorem writesOnce_declareClass (className : Json) (fields : Schema) :
    (declareClass className fields).WritesOnce
      (fun _ records => records = [] ∧ ∃ name, className = .text name) backend := by
  apply writesOnce_writing
  intro result store ids done
  have added := eq_ok_of_result done
  rcases Store.declareClass_eq_ok added with ⟨name, _, rfl, _⟩
  exact ⟨[], Store.change_of_declareClass added, rfl, name, rfl⟩

theorem writesOnce_purgeClass (className : Json) :
    (purgeClass className).WritesOnce (fun _ records => records = []) backend := by
  apply writesOnce_writing
  intro result store ids done
  exact ⟨[], Store.change_of_purgeClass (eq_ok_of_store done), rfl⟩

end Backend

namespace Records

theorem unreserved_of_decodeData {label : String} {data : Json} {fields : List (String × Value)}
    (decoded : decodeData label data = .ok fields) : Schema.Unreserved fields := by
  rcases decodeData_eq_ok decoded with ⟨entries, rfl, unreserved, read⟩
  rw [Schema.Unreserved, Json.keys_decodeEntries read]
  exact unreserved

theorem unreserved_of_decodeBatch {items : List Json} {index : Nat}
    {batch : List (List (String × Value) × AccessPolicy)}
    (decoded : decodeBatch index items = .ok batch) :
    ∀ item ∈ batch, Schema.Unreserved item.1 ∧ item.2 = AccessPolicy.everyone := by
  induction items generalizing index batch with
  | nil =>
      cases decoded
      simp
  | cons data rest ih =>
      simp only [decodeBatch, Except.bind_eq_ok_iff, Except.pure_eq_ok_iff] at decoded
      rcases decoded with ⟨fields, first, others, more, rfl⟩
      intro item member
      rcases List.mem_cons.mp member with rfl | later
      · exact ⟨unreserved_of_decodeData first, rfl⟩
      · exact ih more item later

open TypedRecords.Action

variable {backend : Backend}

theorem writesOnce_create (className data : Json) :
    (create className data).WritesOnce
      (fun record records => records = [record] ∧ Backend.AllOf className records) backend := by
  apply WritesOnce.after (.ofInput _)
  intro _ named
  apply WritesOnce.after (.ofInput _)
  intro _ given
  apply WritesOnce.after (.ofInput _)
  intro fields decoded
  exact Backend.writesOnce_insert (unreserved_of_decodeData (of_run_ofInput decoded))

theorem keepsBackend_find (className objectId : Json) : (find className objectId).KeepsBackend := by
  apply KeepsBackend.bind (Backend.keepsBackend_reading .getById _)
  intro found
  cases found with
  | none => exact .throw _
  | some record => exact .pure _

theorem keepsBackend_read (strict : Bool) (className filters limit skip : Json) :
    (read strict className filters limit skip).KeepsBackend := by
  apply KeepsBackend.bind
  · exact .ofInput _
  · intro named
    apply KeepsBackend.bind
    · exact .ofInput _
    · intro checkedLimit
      apply KeepsBackend.bind
      · exact .ofInput _
      · intro checkedSkip
        apply KeepsBackend.bind
        · exact .ofInput _
        · intro predicates
          exact Backend.keepsBackend_reading .query _

theorem keepsBackend_count (strict : Bool) (className filters : Json) :
    (count strict className filters).KeepsBackend := by
  apply KeepsBackend.bind
  · exact .ofInput _
  · intro named
    apply KeepsBackend.bind
    · exact .ofInput _
    · intro predicates
      exact Backend.keepsBackend_reading .count _

theorem writesOnce_delete (wellFormed : backend.store.WellFormed) (className objectId : Json) :
    (delete className objectId).WritesOnce
      (fun _ records => records = [] ∧ ∃ known, objectId = .text known) backend := by
  apply WritesOnce.after (.ofInput _)
  intro _ named
  apply WritesOnce.after (.ofInput _)
  intro _ given
  apply WritesOnce.after (keepsBackend_find className objectId)
  intro record found
  exact Backend.writesOnce_delete wellFormed className objectId

theorem writesOnce_createBatch (className records : Json) :
    (createBatch className records).WritesOnce
      (fun created filed => filed = created ∧ Backend.AllOf className filed) backend := by
  apply WritesOnce.after (.ofInput _)
  intro _ named
  cases records with
  | array items =>
      apply WritesOnce.after (.ofInput _)
      intro batch decoded
      exact Backend.writesOnce_bulkInsert (unreserved_of_decodeBatch (of_run_ofInput decoded))
  | null => exact .throw _
  | bool => exact .throw _
  | int => exact .throw _
  | double => exact .throw _
  | text => exact .throw _
  | object => exact .throw _
  | foreign => exact .throw _

theorem run_find_cases (className objectId : Json) (backend : Backend) :
    (∃ failure, (find className objectId).run backend = (.error failure, backend)) ∨
      ∃ record, backend.store.getById className objectId = .ok (some record) ∧
        (find className objectId).run backend = (.ok record, backend) := by
  rw [find, run_bind, Backend.getById, Backend.run_reading]
  rcases backend.outage? .getById with _ | failure
  · rcases backend.store.getById className objectId with failure | _ | record
    · exact Or.inl ⟨failure, rfl⟩
    · exact Or.inl ⟨.notFound className objectId, rfl⟩
    · exact Or.inr ⟨record, rfl, rfl⟩
  · exact Or.inl ⟨failure, rfl⟩

theorem run_find {className objectId : Json} {existing : Record}
    (served : backend.outage? .getById = none)
    (found : backend.store.getById className objectId = .ok (some existing)) :
    (find className objectId).run backend = (.ok existing, backend) := by
  rw [find, run_bind, Backend.getById, Backend.run_reading, served, found]
  rfl

theorem writesOnce_update (className objectId data : Json) :
    (update className objectId data).WritesOnce (fun _ records => records = []) backend := by
  apply WritesOnce.after (.ofInput _)
  intro _ named
  apply WritesOnce.after (.ofInput _)
  intro _ known
  apply WritesOnce.after (.ofInput _)
  intro _ given
  apply WritesOnce.after (.ofInput _)
  intro patch decoded
  have unreserved := unreserved_of_decodeData (of_run_ofInput decoded)
  rw [mergePatch, WritesOnce, run_bind, run_bind]
  rcases run_find_cases className objectId backend with ⟨failure, ran⟩ | ⟨existing, found, ran⟩
  · rw [ran]
    exact Or.inl ⟨failure, rfl⟩
  · rw [ran]
    refine Backend.writesOnce_writing .update ?_
    intro record store ids done
    exact ⟨[], Store.change_of_update unreserved found (Backend.eq_ok_of_result done), rfl⟩

end Records

namespace Tables

open TypedRecords.Action

variable {backend : Backend}

theorem writesOnce_create (seedByDefault : Bool) (className samples seed : Json) :
    (create seedByDefault className samples seed).WritesOnce
      (fun creation records => records.map (·.objectId) = creation.seedObjectId.toList ∧
        Backend.AllOf className records ∧ ∃ name, className = .text name) backend := by
  apply WritesOnce.after (.ofInput _)
  intro _ named
  apply WritesOnce.after (.ofInput _)
  intro entries listed
  apply WritesOnce.after (.ofInput _)
  intro seeding flagged
  apply WritesOnce.after (.ofInput _)
  intro fields decoded
  have unreserved := (decodeSamples_eq_ok (of_run_ofInput decoded)).1
  split
  · refine (Backend.writesOnce_insert unreserved).map ?_
    rintro record records ⟨rfl, named⟩
    exact ⟨rfl, named, record.className, named record (List.mem_singleton_self record)⟩
  · apply WritesOnce.after (.ofInput _)
    intro schema sampled
    apply (Backend.writesOnce_declareClass _ _).map
    rintro _ _ ⟨rfl, named⟩
    exact ⟨rfl, by simp [Backend.AllOf], named⟩

theorem writesOnce_delete (className : Json) :
    (delete className).WritesOnce (fun _ records => records = []) backend :=
  Backend.writesOnce_purgeClass className

end Tables

end TypedRecords
