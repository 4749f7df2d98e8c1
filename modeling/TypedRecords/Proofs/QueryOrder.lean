import TypedRecords.Proofs.BulkInsert
import TypedRecords.Proofs.CreationOrder
import TypedRecords.Proofs.FieldNames
import TypedRecords.Proofs.Reuse

/-!
# The order of query results

A query lists the records of a class in the order in which they were created, whatever was done to
them since. `Store.issuedSince` tells from the history of a run which ids were issued for a class
since it last came into existence; a query gives those of them whose records still exist and pass
its filter, in that order. The ids of a batch are issued in the order of its items.
-/

/-- A part of a list without repetitions is what the list has of it, in the same order. -/
theorem List.Sublist.eq_filter_mem {Item : Type} [DecidableEq Item] {part whole : List Item}
    (sublist : part.Sublist whole) (distinct : whole.Nodup) :
    part = whole.filter (· ∈ part) := by
  induction sublist with
  | slnil => rfl
  | @cons part whole item inside ih =>
      rcases List.nodup_cons.mp distinct with ⟨absent, others⟩
      have outside : item ∉ part := fun member => absent (inside.subset member)
      rw [List.filter_cons_of_neg (by simpa using outside)]
      exact ih others
  | @cons_cons part whole item inside ih =>
      rcases List.nodup_cons.mp distinct with ⟨absent, others⟩
      have same : whole.filter (· ∈ item :: part) = whole.filter (· ∈ part) := by
        apply List.filter_congr
        intro other member
        have different : other ≠ item := by
          rintro rfl
          exact absent member
        simp [different]
      rw [List.filter_cons_of_pos (by simp), same, ← ih others]

namespace TypedRecords

open TypedRecords.Action

namespace Store

variable {before after store : Store} {key : Key} {records : List Record}

/-- The ids of the records of a class, in the order of its table. -/
def objectIdsOf (store : Store) (key : Key) : List String :=
  (store.recordsOf key).map (·.objectId)

/-- The class has a record under the id, and all predicates accept it. -/
def Passes (store : Store) (key : Key) (predicates : List Predicate) (objectId : String) : Bool :=
  (store.record? key (.text objectId)).any fun record =>
    predicates.all (·.accepts (store.knownFields key) record)

theorem passes_eq_true_iff {predicates : List Predicate} {objectId : String} :
    store.Passes key predicates objectId = true ↔
      ∃ record, store.record? key (.text objectId) = some record ∧
        predicates.all (·.accepts (store.knownFields key) record) = true := by
  simp [Passes, Option.any_eq_true]

theorem mem_objectIds_matching_iff (wellFormed : store.WellFormed) {predicates : List Predicate}
    {objectId : String} :
    objectId ∈ (store.matching key predicates).map (·.objectId) ↔
      store.Passes key predicates objectId = true := by
  simp only [List.mem_map, matching, List.mem_filter, passes_eq_true_iff,
    mem_recordsOf_iff (wellFormed.filedOnce key)]
  constructor
  · rintro ⟨record, ⟨⟨filedUnder, found⟩, accepted⟩, rfl⟩
    rw [(wellFormed.records _ _ record found).identified] at found
    exact ⟨record, found, accepted⟩
  · rintro ⟨record, found, accepted⟩
    have identified := (wellFormed.records _ _ record found).identified
    exact ⟨record, ⟨⟨_, found⟩, accepted⟩, (Key.text.inj identified).symm⟩

/-- What passes a filter stands in the order in which the ids were issued. -/
theorem objectIds_matching (wellFormed : store.WellFormed) (ordered : store.InOrder)
    (predicates : List Predicate) :
    (store.matching key predicates).map (·.objectId) =
      (store.issuedFor key).filter (store.Passes key predicates) := by
  have listed := (selects_matching wellFormed ordered key predicates).ordered
  rw [listed.eq_filter_mem (wellFormed.issuedOnce key)]
  apply List.filter_congr
  intro objectId _
  rw [Bool.eq_iff_iff, decide_eq_true_iff]
  exact mem_objectIds_matching_iff wellFormed

/-- What a change issues for a class are the ids of the records that it files there. -/
theorem Change.filter_issuedFor (change : before.Change records after)
    (wellFormed : before.WellFormed) (key : Key) :
    (after.issuedFor key).filter (· ∉ before.issuedFor key) = idsFor key records := by
  have distinct := (change.wellFormed wellFormed).issuedOnce key
  rw [change.issuedFor_eq, List.nodup_append] at distinct
  have old : (before.issuedFor key).filter (· ∉ before.issuedFor key) = [] := by
    rw [List.filter_eq_nil_iff]
    intro objectId issued
    simpa using issued
  have new : (idsFor key records).filter (· ∉ before.issuedFor key) = idsFor key records := by
    rw [List.filter_eq_self]
    intro objectId filed
    have fresh : objectId ∉ before.issuedFor key :=
      fun issued => distinct.2.2 objectId issued objectId filed rfl
    simpa using fresh
  rw [change.issuedFor_eq, List.filter_append, old, new, List.nil_append]

end Store

namespace Request

variable {request : Request} {store after : Store} {key : Key}

/-- The ids that the request issues for the class under a key. -/
def issues (request : Request) (store : Store) (key : Key) : List String :=
  ((request.next store).issuedFor key).filter (· ∉ store.issuedFor key)

theorem issuedFor_next (wellFormed : store.WellFormed) (key : Key) :
    (request.next store).issuedFor key = store.issuedFor key ++ request.issues store key := by
  rcases request.change wellFormed with ⟨records, change, _⟩
  rw [issues, change.filter_issuedFor wellFormed, change.issuedFor_eq]

/-- The ids of a batch are issued in the order of its items. -/
theorem issues_of_batch (wellFormed : store.WellFormed) {items : List Json}
    {batch : List (List (String × Value) × AccessPolicy)} {answer : Json}
    (named : request.name = .text "batchCreateRecords")
    (keyed : (request.parameter "className").key = .ok key)
    (listed : request.parameter "records" = .array items)
    (decoded : Records.decodeBatch 0 items = .ok batch)
    (answered : request.outcome store = .ok answer) :
    List.Forall₂ (fun item objectId => ∃ record,
      (request.next store).record? key (.text objectId) = some record ∧ record.fields = item.1)
      batch (request.issues store key) := by
  have registered : Operation.batchCreateRecords ∈ Operation.builtin := by
    simp [Operation.builtin]
  rcases answer_run_of_ok registered named answered with ⟨left, ran, same⟩
  rcases run_eq_ok_of_keepsBackend (fun _ => .ofHost _) ran with ⟨records, created⟩
  change (Records.createBatch (request.parameter "className")
    (request.parameter "records")).run (request.backend store) = _ at created
  rw [listed] at created
  rcases Records.createBatch_eq_ok created with ⟨read, decodedAgain, done⟩
  rw [decoded] at decodedAgain
  cases decodedAgain
  rw [same] at done
  rcases Store.change_of_bulkInsert (Records.unreserved_of_decodeBatch decoded) done with
    ⟨change, inClass⟩
  rcases Store.bulkInsert_eq_ok done with ⟨written, schema, keyedAgain, _, _, _, filed⟩
  have sameKey : written = key := by
    rw [keyed] at keyedAgain
    exact (Except.ok.inj keyedAgain).symm
  have all : ∀ record ∈ records, Key.text record.className = key := by
    intro record member
    rw [inClass record member] at keyed
    exact Except.ok.inj keyed
  have issued : request.issues store key = Store.idsFor key records :=
    change.filter_issuedFor wellFormed key
  rw [issued, Store.idsFor, List.filter_eq_self.mpr (by simpa using all),
    List.forall₂_map_right_iff]
  apply (Store.holds_of_fileAll filed).imp
  rintro item record ⟨fields, _, found⟩
  exact ⟨record, sameKey ▸ found, fields⟩

/-- An update moves no record of any class. -/
theorem Effect.objectIdsOf_of_update (effect : request.Effect store after)
    (wellFormed : store.WellFormed) (updated : after.WellFormed)
    (named : request.name = .text "updateRecord") (key : Key) :
    after.objectIdsOf key = store.objectIdsOf key := by
  suffices same : Entries.keys (after.tableOf key) = Entries.keys (store.tableOf key) by
    rw [← wellFormed.map_text_objectIds, ← updated.map_text_objectIds] at same
    exact List.map_injective_iff.mpr (fun _ _ => Key.text.inj) same
  cases effect with
  | unchanged => rfl
  | updated _ _ _ done =>
      rcases Store.update_eq_ok done with ⟨name, objectKey, existing, schema, _, _, found, _, _,
        rfl⟩
      exact wellFormed.keys_tableOf_setRecord found _ _ _
  | created other => simp [named] at other
  | deleted other => simp [named] at other
  | batched other => simp [named] at other
  | seeded other => simp [named] at other
  | declared other => simp [named] at other
  | purged other => simp [named] at other

/-- A deletion leaves the other records in their order. -/
theorem Effect.objectIdsOf_of_delete (effect : request.Effect store after)
    (wellFormed : store.WellFormed) (updated : after.WellFormed)
    (named : request.name = .text "deleteRecord") (key : Key) :
    (after.objectIdsOf key).Sublist (store.objectIdsOf key) := by
  suffices inside : (Entries.keys (after.tableOf key)).Sublist
      (Entries.keys (store.tableOf key)) by
    rw [← wellFormed.map_text_objectIds, ← updated.map_text_objectIds] at inside
    exact Store.sublist_of_map_text inside
  cases effect with
  | unchanged => exact List.Sublist.refl _
  | deleted _ done =>
      rcases Store.delete_eq_ok done with ⟨classKey, objectKey, existing, _, _, _, rfl⟩
      rw [Store.tableOf_dropRecord]
      split
      · rename_i same
        rw [Entries.keys_erase, same]
        exact List.filter_sublist
      · exact List.Sublist.refl _
  | created other => simp [named] at other
  | updated other => simp [named] at other
  | batched other => simp [named] at other
  | seeded other => simp [named] at other
  | declared other => simp [named] at other
  | purged other => simp [named] at other

end Request

namespace Store

variable {store : Store} {key : Key}

/-- The ids issued for the class under a key since it last came into existence, in the order in
which they were issued: those that are given, and then those that some requests issue. Where a
request leaves the store without the class, the list starts anew. -/
def issuedSince (key : Key) (store : Store) (ids : List String) : List Request → List String
  | [] => ids
  | request :: rest =>
      let next := request.next store
      issuedSince key next
        (if key ∈ Entries.keys next.schemas then ids ++ request.issues store key else []) rest

/-- Whatever was issued before the class last came into existence has no record any more, nor has
any id while there is no class. -/
theorem exists_issuedFor_eq {requests : List Request} {gone ids : List String}
    (wellFormed : store.WellFormed) (issued : store.issuedFor key = gone ++ ids)
    (dead : ∀ objectId ∈ gone, ¬ store.Live key objectId) :
    ∃ earlier,
      (store.after requests).issuedFor key = earlier ++ issuedSince key store ids requests ∧
      ∀ objectId ∈ earlier, ¬ (store.after requests).Live key objectId := by
  induction requests generalizing store gone ids with
  | nil => exact ⟨gone, issued, dead⟩
  | cons request rest ih =>
      have next := request.wellFormed_next wellFormed
      rcases request.change wellFormed with ⟨records, change, _⟩
      rw [issuedSince]
      by_cases present : key ∈ Entries.keys (request.next store).schemas
      · rw [if_pos present]
        apply ih next
        · rw [Request.issuedFor_next wellFormed, issued, List.append_assoc]
        · intro objectId old
          have among : objectId ∈ store.issuedFor key := by
            rw [issued]
            exact List.mem_append_left _ old
          exact change.not_live wellFormed among (dead objectId old)
      · rw [if_neg present]
        apply ih next (List.append_nil _).symm
        rintro objectId _ ⟨record, found⟩
        exact present (next.mem_schemas_of_record? found)

/-- After any run of requests a query of all records of a class that pass a filter gives those of
the ids issued for the class since it last came into existence whose records still exist and pass
the filter, in the order of their creation. The ids of a batch are issued in the order of its items;
an update moves no record; and a deletion leaves the other records in their order. -/
theorem read_in_creation_order (requests : List Request) {className : Json} {key : Key}
    (set : className.isTruthy = true) (keyed : className.key = .ok key) {strict : Bool}
    {filters : Json} {predicates : List Predicate}
    (compiled : Filter.compile strict filters = .ok predicates) {backend : Backend}
    (stored : backend.store = ({} : Store).after requests) (served : backend.outages = []) :
    (∃ records,
      (Records.read strict className filters .null (.int 0)).run backend = (.ok records, backend) ∧
      records.map (·.objectId) =
        (issuedSince key {} [] requests).filter (backend.store.Passes key predicates)) ∧
    (∀ (request : Request) items batch answer, request.name = .text "batchCreateRecords" →
      (request.parameter "className").key = .ok key →
      request.parameter "records" = .array items → Records.decodeBatch 0 items = .ok batch →
      request.outcome backend.store = .ok answer →
        List.Forall₂ (fun item objectId => ∃ record,
          (request.next backend.store).record? key (.text objectId) = some record ∧
            record.fields = item.1) batch (request.issues backend.store key)) ∧
    (∀ request : Request, request.name = .text "updateRecord" →
      (request.next backend.store).objectIdsOf key = backend.store.objectIdsOf key) ∧
    ∀ request : Request, request.name = .text "deleteRecord" →
      ((request.next backend.store).objectIdsOf key).Sublist (backend.store.objectIdsOf key) := by
  have wellFormed := WellFormed.empty.after requests
  have ordered := inOrder_after requests
  rcases @exists_issuedFor_eq {} key requests [] [] .empty rfl (by simp) with
    ⟨earlier, issued, dead⟩
  rw [← stored] at wellFormed ordered issued dead
  refine ⟨?_, ?_, ?_, ?_⟩
  · refine ⟨_, Records.run_read (Records.requireClass_of_isTruthy set) keyed rfl rfl compiled
      served, ?_⟩
    have none : earlier.filter (backend.store.Passes key predicates) = [] := by
      rw [List.filter_eq_nil_iff]
      intro objectId old passes
      rcases passes_eq_true_iff.mp passes with ⟨record, found, _⟩
      exact dead objectId old ⟨record, found⟩
    rw [page_eq, List.drop_zero, objectIds_matching wellFormed ordered, issued,
      List.filter_append, none, List.nil_append]
  · intro request items batch answer named inClass listed decoded answered
    exact Request.issues_of_batch wellFormed named inClass listed decoded answered
  · intro request named
    exact (request.effect backend.store).objectIdsOf_of_update wellFormed
      (request.wellFormed_next wellFormed) named key
  · intro request named
    exact (request.effect backend.store).objectIdsOf_of_delete wellFormed
      (request.wellFormed_next wellFormed) named key

/-- A class is purged, is filled with a batch, and then loses one record while another is
updated. -/
def refilled : List Request :=
  let item (number : Int) : Json := .object [("n", .int number)]
  [creating ["v"],
    .call "deleteTable" [("className", .text "A")] [],
    .call "batchCreateRecords"
      [("className", .text "A"), ("records", .array [item 2, item 1, item 1])] ["x", "y", "z"],
    .call "updateRecord"
      [("className", .text "A"), ("objectId", .text "x"), ("data", item 1)] [],
    .call "deleteRecord" [("className", .text "A"), ("objectId", .text "y")] [],
    creating ["v", "w"]]

/-- A backend on which these requests were answered. -/
def onRefilled : Backend :=
  { name := .text "memory", now := { instant := 0, offset := 0 },
    store := ({} : Store).after refilled }

/-- The records that are left stand in the order of the batch, before the one that was created
last, whose id is not that of the purged record. -/
theorem refilled_in_order :
    (Json.text "A").isTruthy = true ∧
      Filter.compile false (.object [("n", .int 1)]) =
        .ok [{ field := "n", operator := .eq, operand := .int 1 }] ∧
      ∃ records,
        (Records.read false (.text "A") (.object [("n", .int 1)]) .null (.int 0)).run onRefilled =
          (.ok records, onRefilled) ∧
        records.map (·.objectId) = ["x", "z", "w"] := by
  have set : (Json.text "A").isTruthy = true := rfl
  have compiled : Filter.compile false (.object [("n", .int 1)]) =
      .ok [{ field := "n", operator := .eq, operand := .int 1 }] := rfl
  have keyed : (Json.text "A").key = .ok (.text "A") := rfl
  have stored : onRefilled.store = ({} : Store).after refilled := by rw [onRefilled]
  have served : onRefilled.outages = [] := rfl
  rcases read_in_creation_order refilled set keyed compiled stored served with
    ⟨⟨records, ran, listed⟩, _⟩
  refine ⟨set, compiled, records, ran, ?_⟩
  rw [listed]
  decide +kernel

end Store

end TypedRecords
