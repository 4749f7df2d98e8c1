import TypedRecords.Proofs.History
import TypedRecords.Proofs.Selection

/-!
# The order of creation

The ids of a class are listed in the order in which they were issued, and a new record is filed
after all others. So the records of a class stand in its table in the order of their creation, and
every selection of them is in that order.
-/

namespace TypedRecords.Store

variable {before after store : Store} {records : List Record} {key : Key}

/-- Writing a record in its place leaves the ids of all tables where they stand. -/
theorem WellFormed.keys_tableOf_setRecord (wellFormed : store.WellFormed) {objectId other : Key}
    {existing : Record} (found : store.record? key objectId = some existing) (className : Json)
    (schema : Schema) (record : Record) :
    Entries.keys (((store.commitSchema key className schema).setRecord key objectId
      record).tableOf other) = Entries.keys (store.tableOf other) := by
  have stands := Entries.lookup_isSome_iff.mp (Option.isSome_of_eq_some found)
  simp only [tableOf_setRecord, wellFormed.tableOf_commitSchema]
  split
  · rename_i same
    rw [Entries.keys_set, if_pos stands, same]
  · rfl

/-- The records of every class stand in the order in which their ids were issued. -/
def InOrder (store : Store) : Prop :=
  ∀ key, (Entries.keys (store.tableOf key)).Sublist ((store.issuedFor key).map Key.text)

theorem inOrder_empty : ({} : Store).InOrder :=
  fun _ => List.nil_sublist _

/-- A step keeps every class in the order of its ids: the id of a record that is filed comes last
both among the records and among the issued ids. -/
theorem Step.inOrder (step : before.Step records after) (wellFormed : before.WellFormed)
    (ordered : before.InOrder) : after.InOrder := by
  intro other
  cases step with
  | committed named grown =>
      rw [wellFormed.tableOf_commitSchema, issuedFor_commitSchema]
      exact ordered other
  | filed present unreserved covered done =>
      rcases file_eq done with ⟨_, _, rfl⟩
      rw [tableOf_setRecord, issuedFor_setRecord, issuedFor_noteIssued]
      split
      · rw [Entries.keys_set, List.map_append]
        split
        · exact (ordered _).trans (List.sublist_append_left _ _)
        · exact (ordered _).append (List.Sublist.refl _)
      · exact ordered other
  | updated found named grown unreserved covered =>
      rw [wellFormed.keys_tableOf_setRecord found, issuedFor_setRecord, issuedFor_commitSchema]
      exact ordered other
  | removed found =>
      rw [tableOf_dropRecord, issuedFor_dropRecord]
      split
      · rename_i same
        rw [Entries.keys_erase, same]
        exact List.filter_sublist.trans (ordered _)
      · exact ordered other
  | purged =>
      rw [tableOf_dropClass, issuedFor_dropClass]
      split
      · exact List.nil_sublist _
      · exact ordered other

theorem Change.inOrder (change : before.Change records after) (wellFormed : before.WellFormed)
    (ordered : before.InOrder) : after.InOrder := by
  induction change with
  | none => exact ordered
  | step earlier _ ih =>
      exact ih (earlier.wellFormed wellFormed) (earlier.inOrder wellFormed ordered)

theorem inOrder_after (requests : List Request) : (({} : Store).after requests).InOrder := by
  rcases change_after .empty requests with ⟨records, change, _⟩
  exact change.inOrder .empty inOrder_empty

/-- The ids of the records of a class are the keys of its table. -/
theorem WellFormed.map_text_objectIds (wellFormed : store.WellFormed) (key : Key) :
    ((store.recordsOf key).map (·.objectId)).map Key.text = Entries.keys (store.tableOf key) := by
  rw [recordsOf, List.map_map, List.map_map, Entries.keys]
  apply List.map_congr_left
  rintro ⟨objectId, record⟩ member
  have found := Entries.lookup_of_mem (wellFormed.filedOnce key) member
  exact (wellFormed.records key objectId record found).identified.symm

theorem sublist_of_map_text {part whole : List String}
    (sublist : (part.map Key.text).Sublist (whole.map Key.text)) : part.Sublist whole := by
  rcases List.sublist_map_iff.mp sublist with ⟨objectIds, inside, same⟩
  rwa [List.map_injective_iff.mpr (fun _ _ => Key.text.inj) same]

theorem InOrder.objectIds_recordsOf (ordered : store.InOrder) (wellFormed : store.WellFormed) :
    ((store.recordsOf key).map (·.objectId)).Sublist (store.issuedFor key) := by
  have listed := ordered key
  rw [← wellFormed.map_text_objectIds key] at listed
  exact sublist_of_map_text listed

/-- The records are those of a class that satisfy all predicates, each once, in the order of their
creation. -/
structure Selects (store : Store) (key : Key) (predicates : List Predicate)
    (records : List Record) : Prop where
  complete : ∀ record, record ∈ records ↔
    (∃ objectId, store.record? key objectId = some record) ∧
      ∀ predicate ∈ predicates, predicate.holds record (store.knownFields key) = .ok true
  once : (records.map (·.objectId)).Nodup
  ordered : (records.map (·.objectId)).Sublist (store.issuedFor key)

theorem selects_matching (wellFormed : store.WellFormed) (ordered : store.InOrder) (key : Key)
    (predicates : List Predicate) :
    store.Selects key predicates (store.matching key predicates) := by
  have listed : ((store.matching key predicates).map (·.objectId)).Sublist (store.issuedFor key) :=
    (List.filter_sublist.map _).trans (ordered.objectIds_recordsOf wellFormed)
  refine ⟨?_, (wellFormed.issuedOnce key).sublist listed, listed⟩
  intro record
  rw [matching, List.mem_filter, mem_recordsOf_iff (wellFormed.filedOnce key)]
  simp only [List.all_eq_true, Predicate.accepts_eq_true_iff]

end TypedRecords.Store
