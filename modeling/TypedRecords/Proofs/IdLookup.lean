import TypedRecords.Proofs.FailureStages
import TypedRecords.Proofs.History
import TypedRecords.Proofs.Persistence
import TypedRecords.Proofs.ReadBack
import TypedRecords.Proofs.Reuse

/-!
# Looking up an id and filtering by it

A record is filed under its id, and shows the same id as its field `objectId`. So the look-up of an
id and the filter on that field agree: they find the same record, or both find none, whatever the
class is and whatever fields its records have.

An update and a deletion look the id up before they write. Once the record is found, nothing that
follows fails because something does not exist; so these requests do so exactly if a count with the
filter is zero.
-/

namespace TypedRecords

/-- A label does not change whether a failure says that something does not exist. -/
theorem Failure.kind_underLabel_eq_notFound_iff (label : Option String) (failure : Failure) :
    (failure.underLabel label).kind = .notFound ↔ failure.kind = .notFound := by
  cases label with
  | none => rfl
  | some label =>
      rcases foreign : failure.hostError? with _ | error
      · simp only [underLabel, foreign, kind]
      · have host : ¬ failure.IsOwn := by simp [isOwn_iff, foreign]
        simp only [underLabel, foreign, kind, reduceCtorEq, false_iff]
        intro missed
        exact host fun _ => by simp [missed]

namespace Action

variable {Result Next : Type} {backend after : Backend} {action : Action Result}
  {next : Result → Action Next} {result : Result}

/-- The action fails because a class or a record does not exist. -/
def Misses (action : Action Result) (backend : Backend) : Prop :=
  ∃ failure, (action.run backend).1 = .error failure ∧ failure.kind = .notFound

theorem not_misses_of_run_eq_ok (ran : action.run backend = (.ok result, after)) :
    ¬ action.Misses backend := by
  rintro ⟨failure, raised, _⟩
  rw [ran] at raised
  cases raised

theorem not_misses_ofHost (checked : Except HostError Result) (backend : Backend) :
    ¬ (ofHost checked).Misses backend := by
  rintro ⟨failure, raised, missed⟩
  rw [run_ofHost] at raised
  rcases checked with error | result
  · cases raised
    cases missed
  · cases raised

theorem misses_bind_of_ok_iff (ran : action.run backend = (.ok result, after)) :
    (action >>= next).Misses backend ↔ (next result).Misses after := by
  rw [Misses, run_bind_of_ok ran]
  rfl

theorem misses_ofInput_bind_iff {checked : Except InvalidInput Result}
    (passed : checked = .ok result) :
    (ofInput checked >>= next).Misses backend ↔ (next result).Misses backend := by
  apply misses_bind_of_ok_iff
  rw [run_ofInput, passed]
  rfl

/-- If the rest of an action never misses anything, the action does where its first part does. -/
theorem misses_bind_iff (rest : ∀ result after, ¬ (next result).Misses after) :
    (action >>= next).Misses backend ↔ action.Misses backend := by
  rcases ran : action.run backend with ⟨failure | result, after⟩
  · simp [Misses, run_bind, ran]
  · rw [misses_bind_of_ok_iff ran, iff_false_left (rest result after)]
    exact not_misses_of_run_eq_ok ran

theorem misses_underLabel_iff (label : Option String) :
    (action.underLabel label).Misses backend ↔ action.Misses backend := by
  rw [Misses, Misses, run_underLabel]
  rcases (action.run backend).1 with failure | result
  · simp [Failure.kind_underLabel_eq_notFound_iff]
  · simp

end Action

open TypedRecords.Action

namespace Store

variable {store : Store} {className objectId : String} {existing : Record}

/-- An update of a record that exists misses nothing. -/
theorem kind_ne_notFound_of_update {now : Moment} {fields : List (String × Value)}
    {failure : Failure}
    (found : store.record? (.text className) (.text objectId) = some existing)
    (failed : store.update now (.text className) (.text objectId) fields = .error failure) :
    failure.kind ≠ .notFound := by
  rcases prepared : prepare (.text className) (store.schemaOf (.text className)) fields with
    reason | schema
  · simp only [update, Json.key, bind, Except.bind, Except.mapError_ok, found, prepared,
      Except.mapError_error, Except.error.injEq] at failed
    simp [← failed, Failure.kind]
  · simp [update, Json.key, bind, Except.bind, found, prepared, pure, Except.pure] at failed

theorem delete_of_found
    (found : store.record? (.text className) (.text objectId) = some existing) :
    store.delete (.text className) (.text objectId) =
      .ok (store.dropRecord (.text className) (.text objectId)) := by
  simp only [delete, Json.key, Except.mapError_ok, bind, Except.bind, found]
  rfl

end Store

namespace Records

variable {className objectId : String} {backend : Backend}

theorem misses_find_bind_iff {Result : Type} {next : Record → Action Result}
    (served : backend.outages = [])
    (rest : ∀ existing,
      backend.store.record? (.text className) (.text objectId) = some existing →
        ¬ (next existing).Misses backend) :
    (find (.text className) (.text objectId) >>= next).Misses backend ↔
      backend.store.record? (.text className) (.text objectId) = none := by
  have unbroken := Backend.outage?_eq_none served .getById
  rcases found : backend.store.record? (.text className) (.text objectId) with _ | existing
  · have read : backend.store.getById (.text className) (.text objectId) = .ok none :=
      congrArg Except.ok found
    have missed : (find (.text className) (.text objectId)).run backend =
        (.error (.notFound (.text className) (.text objectId)), backend) := by
      rw [find, run_bind, Backend.getById, Backend.run_reading, unbroken, read]
      rfl
    rw [iff_true_right rfl, Misses, run_bind, missed]
    exact ⟨_, rfl, rfl⟩
  · have read : backend.store.getById (.text className) (.text objectId) = .ok (some existing) :=
      congrArg Except.ok found
    rw [misses_bind_of_ok_iff (run_find unbroken read)]
    simp [rest existing found]

theorem requireArgument_text {name text : String} (given : text ≠ "") :
    requireArgument name (.text text) = .ok () := by
  simp [requireArgument, Json.isBlank, given]

/-- An update with proper arguments misses the record that it names, or nothing. -/
theorem misses_update_iff {data : Json} {patch : List (String × Value)}
    (served : backend.outages = []) (set : className ≠ "") (given : objectId ≠ "")
    (decoded : decodeData "data" data = .ok patch) :
    (update (.text className) (.text objectId) data).Misses backend ↔
      backend.store.record? (.text className) (.text objectId) = none := by
  have present : requireArgument "data" data = .ok () := by
    rcases decodeData_eq_ok decoded with ⟨entries, rfl, _⟩
    rfl
  rw [update, misses_ofInput_bind_iff (requireClass_text set),
    misses_ofInput_bind_iff (requireArgument_text given), misses_ofInput_bind_iff present,
    misses_ofInput_bind_iff decoded, mergePatch, bind_assoc]
  apply misses_find_bind_iff served
  intro existing found
  rw [pure_bind]
  rintro ⟨failure, raised, missed⟩
  rw [Backend.run_update (Backend.outage?_eq_none served .update)] at raised
  rcases done : backend.store.update backend.time (.text className) (.text objectId)
    (Entries.merge existing.fields patch) with failed | ⟨record, store⟩
  · rw [done] at raised
    cases raised
    exact Store.kind_ne_notFound_of_update found done missed
  · rw [done] at raised
    cases raised

theorem misses_delete_iff (served : backend.outages = []) (set : className ≠ "")
    (given : objectId ≠ "") :
    (delete (.text className) (.text objectId)).Misses backend ↔
      backend.store.record? (.text className) (.text objectId) = none := by
  have unbroken := Backend.outage?_eq_none served .delete
  rw [delete, misses_ofInput_bind_iff (requireClass_text set),
    misses_ofInput_bind_iff (requireArgument_text given)]
  apply misses_find_bind_iff served
  intro existing found
  have ran : (Backend.delete (.text className) (.text objectId)).run backend =
      (.ok (), { backend with
        store := backend.store.dropRecord (.text className) (.text objectId) }) := by
    rw [Backend.delete, Backend.run_writing, unbroken, Store.delete_of_found found]
    rfl
  exact not_misses_of_run_eq_ok ran

end Records

namespace Operation

variable {settings : ServiceSettings} {parameters : List (String × Json)}
  {className objectId : String} {backend : Backend}

/-- Showing a record fails for no other reason than that it has no wire form. -/
theorem not_misses_recordAnswer (message : String) (record : Record) (backend : Backend) :
    ¬ (recordAnswer message record).Misses backend := by
  rintro ⟨failure, raised, missed⟩
  rw [run_recordAnswer] at raised
  rcases encoded : record.encode with error | entries
  · simp only [encoded] at raised
    cases raised
    cases missed
  · simp only [encoded] at raised
    cases raised

theorem misses_updateRecord_iff {patch : List (String × Value)} (served : backend.outages = [])
    (inClass : Json.entry parameters "className" = .text className) (set : className ≠ "")
    (known : Json.entry parameters "objectId" = .text objectId) (given : objectId ≠ "")
    (decoded : Records.decodeData "data" (Json.entry parameters "data") = .ok patch) :
    (updateRecord.answer settings parameters).Misses backend ↔
      backend.store.record? (.text className) (.text objectId) = none := by
  rw [← Records.misses_update_iff served set given decoded, ← inClass, ← known]
  exact misses_bind_iff fun record after => not_misses_recordAnswer _ record after

theorem misses_deleteRecord_iff (served : backend.outages = [])
    (inClass : Json.entry parameters "className" = .text className) (set : className ≠ "")
    (known : Json.entry parameters "objectId" = .text objectId) (given : objectId ≠ "") :
    (deleteRecord.answer settings parameters).Misses backend ↔
      backend.store.record? (.text className) (.text objectId) = none := by
  rw [← Records.misses_delete_iff served set given, ← inClass, ← known]
  exact misses_bind_iff fun _ after => not_misses_ofHost _ after

end Operation

namespace Request

variable {request counting : Request} {store : Store} {className objectId : String}

/-- The request fails because a class or a record does not exist. -/
def Misses (request : Request) (store : Store) : Prop :=
  ∃ failure, request.outcome store = .error failure ∧ failure.kind = .notFound

/-- An update or a deletion with proper arguments misses the record that it names, or nothing. -/
theorem Names.misses_iff (names : request.Names className objectId) (set : className ≠ "")
    (given : objectId ≠ "")
    (decodable : request.name = .text "updateRecord" →
      ∃ patch, Records.decodeData "data" (request.parameter "data") = .ok patch) (store : Store) :
    request.Misses store ↔ store.record? (.text className) (.text objectId) = none := by
  rcases names with ⟨named, inClass, known⟩
  have served : (request.backend store).outages = [] := rfl
  rcases named with named | named
  · have registered : Operation.updateRecord ∈ Operation.builtin := by simp [Operation.builtin]
    rcases decodable named with ⟨patch, decoded⟩
    rcases Records.decodeData_eq_ok decoded with ⟨entries, object, _⟩
    have present : ∀ name ∈ Operation.updateRecord.required,
        (request.parameter name).isBlank = false := by
      simp [Operation.updateRecord, Operation.declare, inClass, known, object, Json.isBlank, set,
        given]
    rw [Misses, outcome, run_of_present registered named present (by decide)
      (List.forall_mem_nil _)]
    exact (misses_underLabel_iff _).trans
      (Operation.misses_updateRecord_iff served inClass set known given decoded)
  · have registered : Operation.deleteRecord ∈ Operation.builtin := by simp [Operation.builtin]
    have present : ∀ name ∈ Operation.deleteRecord.required,
        (request.parameter name).isBlank = false := by
      simp [Operation.deleteRecord, Operation.declare, inClass, known, Json.isBlank, set, given]
    rw [Misses, outcome, run_of_present registered named present (by decide)
      (List.forall_mem_nil _)]
    exact (misses_underLabel_iff _).trans
      (Operation.misses_deleteRecord_iff served inClass set known given)

/-- The request asks for the number of the records of a class that pass a filter on their id. -/
structure CountsId (request : Request) (className objectId : String) : Prop where
  named : request.name = .text "countRecords"
  inClass : request.parameter "className" = .text className
  filters : request.parameter "filters" = .object [("objectId", .text objectId)]

theorem CountsId.outcome_eq (counts : counting.CountsId className objectId) (set : className ≠ "")
    (wellFormed : store.WellFormed) :
    counting.outcome store = .ok (Answer.counted className
      (store.record? (.text className) (.text objectId)).toList.length) := by
  have asks : counting.AsksCount className [Predicate.hasId objectId] :=
    { named := counts.named
      inClass := counts.inClass
      set
      compiled := by
        rw [Operation.filterOf_object counts.filters]
        rfl }
  rw [outcome, asks.run_eq, Store.matching_hasId wellFormed]

end Request

namespace Store

variable {store : Store}

/-- A query by id gives the record that the look-up of the id gives, if it gives one; and it fails
where the look-up fails, for the name of a class that cannot be one. -/
theorem query_hasId (wellFormed : store.WellFormed) (className : Json) (objectId : String) :
    store.query className [Predicate.hasId objectId] none 0 =
      (store.getById className (.text objectId)).map Option.toList := by
  rcases keyed : className.key with error | key
  · simp [query, select, getById, keyed, bind, Except.bind, Except.map]
  · have supported : ∀ predicate ∈ [Predicate.hasId objectId], predicate.Supported := by
      intro predicate member name
      rw [List.mem_singleton.mp member]
      simp [Predicate.hasId]
    have read : store.getById className (.text objectId) =
        .ok (store.record? key (.text objectId)) := by
      simp only [getById, keyed]
      rfl
    rw [query, select_eq keyed supported, matching_hasId wellFormed, read]
    exact congrArg Except.ok (page_eq _ none 0)

/-- Looking up an id and filtering by it agree in every store that requests lead to. For any class
and id, the look-up gives a record exactly if the query for the id gives this record alone, and
none exactly if the query gives none. So an update with a proper patch and a deletion fail because
something does not exist exactly if the number of records with the id, which is always counted and
at most one, is zero. -/
theorem id_lookup_agrees (requests : List Request) :
    (∀ (className : Json) (objectId : String),
      (∀ record,
        (({} : Store).after requests).getById className (.text objectId) = .ok (some record) ↔
          (({} : Store).after requests).query className [Predicate.hasId objectId] none 0 =
            .ok [record]) ∧
      ((({} : Store).after requests).getById className (.text objectId) = .ok none ↔
        (({} : Store).after requests).query className [Predicate.hasId objectId] none 0 =
          .ok [])) ∧
    ∀ (request counting : Request) (className objectId : String), className ≠ "" →
      objectId ≠ "" → request.Names className objectId →
      (request.name = .text "updateRecord" →
        ∃ patch, Records.decodeData "data" (request.parameter "data") = .ok patch) →
      counting.CountsId className objectId →
        ∃ number ≤ 1, counting.outcome (({} : Store).after requests) =
            .ok (Answer.counted className number) ∧
          (request.Misses (({} : Store).after requests) ↔ number = 0) := by
  have wellFormed := WellFormed.empty.after requests
  generalize ({} : Store).after requests = store at wellFormed
  constructor
  · intro className objectId
    rw [query_hasId wellFormed]
    rcases store.getById className (.text objectId) with failure | _ | found
    · simp [Except.map]
    · simp [Except.map]
    · simp [Except.map]
  · intro request counting className objectId set given names decodable counts
    refine ⟨_, ?_, counts.outcome_eq set wellFormed, ?_⟩
    · cases store.record? (.text className) (.text objectId) <;> simp
    · rw [names.misses_iff set given decodable]
      simp

/-- The request for the number of records under the id `x`. -/
def countingX : Request :=
  .call "countRecords" [("className", .text "A"), ("filters", .object [("objectId", .text "x")])] []

/-- A record is found by an update until it is removed, and is missed by the next one. -/
theorem removed_id_missed :
    setting.Names "A" "x" ∧ countingX.CountsId "A" "x" ∧
      ¬ setting.Misses (({} : Store).after [filing [("n", .int 1)] "x"]) ∧
      setting.Misses (({} : Store).after [filing [("n", .int 1)] "x", removing]) := by
  have names : setting.Names "A" "x" := ⟨Or.inl rfl, rfl, rfl⟩
  have counts : countingX.CountsId "A" "x" := ⟨rfl, rfl, rfl⟩
  have looked := fun requests => (id_lookup_agrees requests).2 setting countingX "A" "x"
    (by decide) (by decide) names (fun _ => ⟨[("n", .int 2)], rfl⟩) counts
  refine ⟨names, counts, ?_, ?_⟩
  · rcases looked [filing [("n", .int 1)] "x"] with ⟨number, _, answered, misses⟩
    have one : countingX.outcome (({} : Store).after [filing [("n", .int 1)] "x"]) =
        .ok (Answer.counted "A" 1) := rfl
    rw [one] at answered
    cases answered
    simp [misses]
  · rcases looked [filing [("n", .int 1)] "x", removing] with ⟨number, _, answered, misses⟩
    have none : countingX.outcome (({} : Store).after [filing [("n", .int 1)] "x", removing]) =
        .ok (Answer.counted "A" 0) := rfl
    rw [none] at answered
    cases answered
    exact misses.mpr rfl

end Store

end TypedRecords
