import TypedRecords.Proofs.History

/-!
# Ids are never used again

The ids that are issued for a class are distinct, and they stay issued when their records or the
whole class are removed. So in a run of requests no id is told twice for a class, and an id that
was removed gets no record again.
-/

namespace TypedRecords

open TypedRecords.Action

theorem Records.delete_of_run_eq_ok {className objectId : Json} {backend after : Backend}
    {result : Unit} (ran : (delete className objectId).run backend = (.ok result, after)) :
    backend.store.delete className objectId = .ok after.store := by
  rcases KeepsBackend.bind_eq_ok (.ofInput _) ran with ⟨_, _, ran⟩
  rcases KeepsBackend.bind_eq_ok (.ofInput _) ran with ⟨_, _, ran⟩
  rcases KeepsBackend.bind_eq_ok (keepsBackend_find className objectId) ran with ⟨_, _, ran⟩
  exact Backend.eq_ok_of_store (Backend.run_writing_eq_ok ran)

theorem Tables.purgeClass_of_run_eq_ok {className : Json} {backend after : Backend}
    {result : Unit} (ran : (delete className).run backend = (.ok result, after)) :
    backend.store.purgeClass className = .ok after.store :=
  Backend.eq_ok_of_store (Backend.run_writing_eq_ok ran)

namespace Store

variable {store after : Store} {className objectId : String}

/-- A deletion finds a record and leaves none in its place. -/
theorem live_of_delete (done : store.delete (.text className) (.text objectId) = .ok after) :
    store.Live (.text className) objectId ∧ ¬ after.Live (.text className) objectId := by
  rcases delete_eq_ok done with ⟨key, objectKey, existing, keyed, objectKeyed, found, left⟩
  cases keyed
  cases objectKeyed
  refine ⟨⟨existing, found⟩, ?_⟩
  rintro ⟨record, stays⟩
  rw [left, record?_dropRecord] at stays
  simp at stays

end Store

namespace Request

variable {request : Request} {store : Store} {answer : Json} {className objectId : String}

theorem delete_of_deleteRecord (named : request.name = .text "deleteRecord")
    (answered : request.outcome store = .ok answer) :
    store.delete (request.parameter "className") (request.parameter "objectId") =
      .ok (request.next store) := by
  have registered : Operation.deleteRecord ∈ Operation.builtin := by simp [Operation.builtin]
  rcases answer_run_of_ok registered named answered with ⟨after, ran, left⟩
  rcases run_eq_ok_of_keepsBackend (fun _ => .ofHost _) ran with ⟨_, deleted⟩
  rw [← left]
  exact Records.delete_of_run_eq_ok deleted

theorem purgeClass_of_deleteTable (named : request.name = .text "deleteTable")
    (answered : request.outcome store = .ok answer) :
    store.purgeClass (request.parameter "className") = .ok (request.next store) := by
  have registered : Operation.deleteTable ∈ Operation.builtin := by simp [Operation.builtin]
  rcases answer_run_of_ok registered named answered with ⟨after, ran, left⟩
  rcases run_eq_ok_of_keepsBackend (fun _ => .ofHost _) ran with ⟨_, purged⟩
  rw [← left]
  exact Tables.purgeClass_of_run_eq_ok purged

/-- The request succeeds in removing the record of a class under an id: alone, or with the class
and all its records. -/
def Removes (request : Request) (store : Store) (className objectId : String) : Prop :=
  (∃ answer, request.outcome store = .ok answer) ∧
    request.parameter "className" = .text className ∧
    (request.name = .text "deleteRecord" ∧ request.parameter "objectId" = .text objectId ∨
      request.name = .text "deleteTable" ∧ store.Live (.text className) objectId)

theorem Removes.live (removes : request.Removes store className objectId) :
    store.Live (.text className) objectId := by
  rcases removes with ⟨⟨answer, answered⟩, inClass, ⟨named, known⟩ | ⟨_, live⟩⟩
  · have deleted := delete_of_deleteRecord named answered
    rw [inClass, known] at deleted
    exact (Store.live_of_delete deleted).1
  · exact live

theorem Removes.not_live (removes : request.Removes store className objectId) :
    ¬ (request.next store).Live (.text className) objectId := by
  rcases removes with ⟨⟨answer, answered⟩, inClass, ⟨named, known⟩ | ⟨named, _⟩⟩
  · have deleted := delete_of_deleteRecord named answered
    rw [inClass, known] at deleted
    exact (Store.live_of_delete deleted).2
  · rintro ⟨record, found⟩
    have purged := purgeClass_of_deleteTable named answered
    rw [inClass] at purged
    rcases Store.purgeClass_eq_ok purged with ⟨key, schema, keyed, _, _, left⟩
    cases keyed
    rw [left, Store.record?_dropClass] at found
    simp at found

end Request

namespace Store

theorem nodup_idsTold {store : Store} (wellFormed : store.WellFormed) (className : String)
    (requests : List Request) : (store.idsTold className requests).Nodup := by
  rcases change_after wellFormed requests with ⟨records, change, told⟩
  have distinct := (change.wellFormed wellFormed).issuedOnce (.text className)
  rw [change.issuedFor_eq] at distinct
  exact (List.nodup_append.mp distinct).2.1.sublist (told className)

/-- In a run of requests from the empty store no id is told twice for a class, and once a request
has removed the record under an id, no record stands there again. The id was issued when its record
was filed, and the removal leaves it issued. -/
theorem ids_never_reused (className : String) (requests : List Request) :
    (idsTold {} className requests).Nodup ∧
      ∀ earlier request later objectId, requests = earlier ++ request :: later →
        request.Removes (({} : Store).after earlier) className objectId →
          ¬ (({} : Store).after requests).Live (.text className) objectId := by
  refine ⟨nodup_idsTold .empty className requests, ?_⟩
  rintro earlier request later objectId rfl removes
  have before := WellFormed.empty.after earlier
  rcases removes.live with ⟨record, found⟩
  have filed := before.records _ _ record found
  have same : record.objectId = objectId := by
    have identified := filed.identified
    cases identified
    rfl
  rcases request.change before with ⟨_, removal, _⟩
  have issued : objectId ∈ (request.next (({} : Store).after earlier)).issuedFor
      (.text className) := by
    rw [removal.issuedFor_eq]
    exact List.mem_append_left _ (same ▸ filed.objectId)
  have next := request.wellFormed_next before
  rcases change_after next later with ⟨_, change, _⟩
  rw [after_append]
  exact change.not_live next issued removes.not_live

/-- A request for a new record, with the ids that are drawn for it. -/
def creating (draws : List String) : Request :=
  .call "createRecord" [("className", .text "A"), ("data", .object [("n", .int 1)])] draws

/-- A request to remove the record under the id `x`. -/
def removing : Request :=
  .call "deleteRecord" [("className", .text "A"), ("objectId", .text "x")] []

/-- The id of a record that was removed is drawn again, and the draw is passed over. -/
theorem removed_id_passed_over :
    removing.Removes (({} : Store).after [creating ["x"]]) "A" "x" ∧
      idsTold {} "A" [creating ["x"], removing, creating ["x", "y"]] = ["x", "y"] ∧
      ¬ (({} : Store).after [creating ["x"], removing, creating ["x", "y"]]).Live
        (.text "A") "x" := by
  have removes : removing.Removes (({} : Store).after [creating ["x"]]) "A" "x" :=
    ⟨⟨_, rfl⟩, rfl, Or.inl ⟨rfl, rfl⟩⟩
  have reused := ids_never_reused "A" [creating ["x"], removing, creating ["x", "y"]]
  refine ⟨removes, by decide +kernel, ?_⟩
  exact reused.2 [creating ["x"]] removing [creating ["x", "y"]] "x" rfl removes

end Store

end TypedRecords
