import TypedRecords.Proofs.Request

/-!
# Runs of requests

A store goes from one request to the next, whether these succeed or fail. Every request makes a
change of the store, so a run of requests is one change as well, and the ids that the answers of
the run tell are among those that the change issues. In particular every store that a run leads to
from the empty one is well-formed.
-/

namespace TypedRecords

namespace Request

variable {store : Store}

/-- The ids of new records of a class that the answer of the request tells. -/
def idsTold (request : Request) (className : String) (store : Store) : List String :=
  match request.parameter "className", request.outcome store with
  | .text written, .ok answer => if written = className then request.idsIn answer else []
  | _, _ => []

theorem idsTold_of_error {request : Request} {failure : Failure}
    (failed : request.outcome store = .error failure) (className : String) :
    request.idsTold className store = [] := by
  rw [idsTold, failed]
  split
  · simp_all
  · rfl

theorem idsTold_of_untold {request : Request}
    (untold : ∀ answer, request.outcome store = .ok answer → request.idsIn answer = [])
    (className : String) : request.idsTold className store = [] := by
  rw [idsTold]
  split
  · rename_i answered
    rw [untold _ answered, ite_self]
  · rfl

/-- An answer tells the ids of the records that are filed. -/
theorem idsTold_of_ok {request : Request} {answer : Json} {records : List Record}
    (answered : request.outcome store = .ok answer)
    (told : request.idsIn answer = records.map (·.objectId))
    (named : Backend.AllOf (request.parameter "className") records) (className : String) :
    (request.idsTold className store).Sublist (Store.idsFor (.text className) records) := by
  rw [idsTold, answered]
  split
  · rename_i written _ same known
    split
    · rename_i here
      have all : ∀ record ∈ records, Key.text record.className = .text className := by
        intro record member
        have text := named record member
        rw [same] at text
        cases text
        exact congrArg Key.text here
      cases known
      rw [told, Store.idsFor, List.filter_eq_self.mpr (by simpa using all)]
    · exact List.nil_sublist _
  · exact List.nil_sublist _

/-- What a request does to a well-formed store is a change, and its answer tells of no other
records than the change files. -/
theorem change (request : Request) (wellFormed : store.WellFormed) :
    ∃ records, store.Change records (request.next store) ∧ ∀ className,
      (request.idsTold className store).Sublist (Store.idsFor (.text className) records) := by
  have ran := request.runs wellFormed
  rcases left : request.run store with ⟨outcome, backend⟩
  have same : request.outcome store = outcome := by rw [Request.outcome, left]
  rw [next, left]
  rw [left] at ran
  cases ran with
  | silent untold =>
      refine ⟨[], .none, fun className => ?_⟩
      rw [idsTold_of_untold (by rwa [same])]
      exact List.nil_sublist _
  | answered change told named => exact ⟨_, change, idsTold_of_ok same told named⟩
  | unshown change _ _ _ =>
      refine ⟨_, change, fun className => ?_⟩
      rw [idsTold_of_error same]
      exact List.nil_sublist _

theorem wellFormed_next (request : Request) (wellFormed : store.WellFormed) :
    (request.next store).WellFormed := by
  rcases request.change wellFormed with ⟨records, change, _⟩
  exact change.wellFormed wellFormed

end Request

namespace Store

variable {store : Store}

/-- The store after some requests, each of which runs on the store that the one before leaves. -/
def after (store : Store) : List Request → Store
  | [] => store
  | request :: rest => (request.next store).after rest

/-- The ids of new records of a class that the answers of some requests tell. -/
def idsTold (store : Store) (className : String) : List Request → List String
  | [] => []
  | request :: rest =>
      request.idsTold className store ++ (request.next store).idsTold className rest

theorem after_append (store : Store) (first rest : List Request) :
    store.after (first ++ rest) = (store.after first).after rest := by
  induction first generalizing store with
  | nil => rfl
  | cons request _ ih => exact ih (request.next store)

theorem change_after (wellFormed : store.WellFormed) (requests : List Request) :
    ∃ records, store.Change records (store.after requests) ∧ ∀ className,
      (store.idsTold className requests).Sublist (idsFor (.text className) records) := by
  induction requests generalizing store with
  | nil => exact ⟨[], .none, fun _ => List.nil_sublist _⟩
  | cons request rest ih =>
      rcases request.change wellFormed with ⟨first, earlier, told⟩
      rcases ih (request.wellFormed_next wellFormed) with ⟨more, later, toldLater⟩
      refine ⟨first ++ more, earlier.trans later, fun className => ?_⟩
      rw [idsFor_append]
      exact (told className).append (toldLater className)

theorem WellFormed.after (wellFormed : store.WellFormed) (requests : List Request) :
    (store.after requests).WellFormed := by
  rcases change_after wellFormed requests with ⟨records, change, _⟩
  exact change.wellFormed wellFormed

end Store

end TypedRecords
