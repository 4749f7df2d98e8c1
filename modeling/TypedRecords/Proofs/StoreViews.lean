import TypedRecords.Proofs.Freshness
import TypedRecords.Proofs.MergedEntries
import TypedRecords.Store.Write

/-!
# What writes do to the views of a store

A store is seen through the schema of a class, through the record of a class under an id, and
through the ids issued for a class. The lemmas below say what each part of a write does to the
three views, and to the keys under which the store keeps its tables.
-/

namespace TypedRecords

theorem Json.eq_text_of_key {value : Json} {written : String}
    (keyed : value.key = .ok (.text written)) : value = .text written := by
  cases value with
  | text value =>
      cases keyed
      rfl
  | null => simp [Json.key] at keyed
  | bool => simp [Json.key] at keyed
  | int => simp [Json.key] at keyed
  | double value =>
      rw [Json.key] at keyed
      split at keyed <;> simp at keyed
  | array => simp [Json.key] at keyed
  | object => simp [Json.key] at keyed
  | foreign kind => cases kind <;> simp [Json.key] at keyed

namespace Store

variable {store : Store} {key other objectId otherId : Key}

theorem tableOf_setTable (table : List (Key × Record)) :
    (store.setTable key table).tableOf other =
      if other = key then table else store.tableOf other := by
  rw [tableOf, setTable, Entries.lookup_set]
  split <;> rfl

theorem tableOf_of_not_mem (absent : key ∉ Entries.keys store.tables) : store.tableOf key = [] := by
  rw [← Entries.lookup_isSome_iff, Option.not_isSome_iff_eq_none] at absent
  rw [tableOf, absent]
  rfl

theorem schemaOf_commitSchema (className : Json) (schema : Schema) :
    (store.commitSchema key className schema).schemaOf other =
      if other = key then schema else store.schemaOf other := by
  rw [schemaOf, commitSchema, Entries.lookup_set]
  by_cases same : other = key
  · rw [if_pos same, if_pos same]
  · rw [if_neg same, if_neg same, schemaOf]

/-- Committing a schema clears the table of a class that had no schema. -/
theorem tableOf_commitSchema (className : Json) (schema : Schema) :
    (store.commitSchema key className schema).tableOf other =
      if other = key ∧ key ∉ Entries.keys store.schemas then [] else store.tableOf other := by
  simp only [tableOf, commitSchema, Entries.lookup_isSome_iff]
  by_cases present : key ∈ Entries.keys store.schemas
  · simp [present]
  · by_cases same : other = key
    · simp [present, same]
    · simp [present, same, Entries.lookup_set]

@[simp]
theorem issuedFor_commitSchema (className : Json) (schema : Schema) :
    (store.commitSchema key className schema).issuedFor other = store.issuedFor other :=
  rfl

theorem mem_schemas_commitSchema (className : Json) (schema : Schema) :
    key ∈ Entries.keys (store.commitSchema key className schema).schemas := by
  rw [← Entries.lookup_isSome_iff, commitSchema, Entries.lookup_set_self]
  rfl

theorem tableOf_setRecord (record : Record) :
    (store.setRecord key objectId record).tableOf other =
      if other = key then Entries.set (store.tableOf key) objectId record
      else store.tableOf other :=
  tableOf_setTable _

theorem record?_setRecord (record : Record) :
    (store.setRecord key objectId record).record? other otherId =
      if other = key ∧ otherId = objectId then some record else store.record? other otherId := by
  rw [record?, tableOf_setRecord, record?]
  by_cases same : other = key
  · simp [same, Entries.lookup_set]
  · simp [same]

@[simp]
theorem issuedFor_setRecord (record : Record) :
    (store.setRecord key objectId record).issuedFor other = store.issuedFor other :=
  rfl

theorem setRecord_eq_self {record : Record} (found : store.record? key objectId = some record) :
    store.setRecord key objectId record = store := by
  rw [record?] at found
  rw [setRecord, setTable, Entries.set_eq_self found, tableOf]
  rw [tableOf] at found
  rcases stored : store.tables.lookup key with _ | table
  · rw [stored] at found
    cases found
  · rw [Option.getD_some, Entries.set_eq_self stored]

theorem tableOf_dropRecord :
    (store.dropRecord key objectId).tableOf other =
      if other = key then Entries.erase (store.tableOf key) objectId else store.tableOf other :=
  tableOf_setTable _

theorem record?_dropRecord :
    (store.dropRecord key objectId).record? other otherId =
      if other = key ∧ otherId = objectId then none else store.record? other otherId := by
  rw [record?, tableOf_dropRecord, record?]
  by_cases same : other = key
  · simp [same, Entries.lookup_erase]
  · simp [same]

@[simp]
theorem issuedFor_dropRecord :
    (store.dropRecord key objectId).issuedFor other = store.issuedFor other :=
  rfl

theorem schemaOf_dropClass :
    (store.dropClass key).schemaOf other =
      if other = key then Schema.builtin else store.schemaOf other := by
  rw [schemaOf, dropClass, Entries.lookup_erase]
  by_cases same : other = key
  · rw [if_pos same, if_pos same]
  · rw [if_neg same, if_neg same, schemaOf]

theorem tableOf_dropClass :
    (store.dropClass key).tableOf other = if other = key then [] else store.tableOf other := by
  rw [tableOf, dropClass, Entries.lookup_erase]
  split <;> rfl

theorem record?_dropClass :
    (store.dropClass key).record? other objectId =
      if other = key then none else store.record? other objectId := by
  rw [record?, tableOf_dropClass, record?]
  split <;> rfl

@[simp]
theorem issuedFor_dropClass : (store.dropClass key).issuedFor other = store.issuedFor other :=
  rfl

section Filing

variable {source rest : IdSource} {now : Moment} {className : String}
  {fields : List (String × Value)} {access : AccessPolicy} {record : Record} {after : Store}

/-- The record that is filed, and the store that has it under an id never issued before. -/
theorem file_eq (done : store.file source now key className fields access = (record, after, rest)) :
    record.objectId ∉ store.issuedFor key ∧
      record =
        { className, objectId := record.objectId, fields, access, createdAt := now,
          updatedAt := now } ∧
      after = (store.noteIssued key record.objectId).setRecord key (.text record.objectId)
        record := by
  have fresh := source.fresh_not_mem (store.issuedFor key)
  simp only [file, Prod.mk.injEq] at done
  rcases done with ⟨rfl, rfl, _⟩
  exact ⟨fresh, rfl, rfl⟩

/-- A batch is filed by filing its first item and then the others. -/
theorem fileAll_cons_eq {item : List (String × Value) × AccessPolicy}
    {others : List (List (String × Value) × AccessPolicy)} {records : List Record}
    (done : store.fileAll source now key className (item :: others) = (records, after, rest)) :
    ∃ record middle left later,
      store.file source now key className item.1 item.2 = (record, middle, left) ∧
        middle.fileAll left now key className others = (later, after, rest) ∧
        records = record :: later := by
  rcases item with ⟨fields, access⟩
  rcases filed : store.file source now key className fields access with ⟨record, middle, left⟩
  rcases more : middle.fileAll left now key className others with ⟨later, last, final⟩
  simp only [fileAll, filed, more, Prod.mk.injEq] at done
  rcases done with ⟨rfl, rfl, rfl⟩
  exact ⟨record, middle, left, later, rfl, more, rfl⟩

theorem issuedFor_noteIssued (issued : String) :
    (store.noteIssued key issued).issuedFor other =
      if other = key then store.issuedFor key ++ [issued] else store.issuedFor other := by
  rw [issuedFor, noteIssued, Entries.lookup_set]
  split <;> rfl

end Filing

end Store

end TypedRecords
