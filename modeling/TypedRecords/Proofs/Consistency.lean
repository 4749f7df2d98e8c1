import TypedRecords.Proofs.History

/-!
# The tables of a store fit together

What well-formedness means for the tables as they are kept: for every entry of every table, in
every store that a run of requests leads to.
-/

namespace TypedRecords.Store

/-- The three tables of a store fit together. -/
structure Consistent (store : Store) : Prop where
  sameClasses : Entries.keys store.tables = Entries.keys store.schemas
  distinctClasses : (Entries.keys store.schemas).Nodup
  distinctIds : ∀ key table, (key, table) ∈ store.tables → (Entries.keys table).Nodup
  /-- Every schema begins with the fields that every record has, in their order, and the names of
  its further fields are accepted names. -/
  schemas : ∀ key schema, (key, schema) ∈ store.schemas → ∃ further : Schema,
    schema.fields = Schema.builtin ++ further ∧ ∀ field ∈ further, isName field.1 = true
  /-- Every record is filed under its own class and its own id, and the id was issued. -/
  filed : ∀ key table, (key, table) ∈ store.tables → ∀ objectId record,
    (objectId, record) ∈ table →
      key = .text record.className ∧ objectId = .text record.objectId ∧
        record.objectId ∈ store.issuedFor key
  unreserved : ∀ key table, (key, table) ∈ store.tables → ∀ objectId record,
    (objectId, record) ∈ table → ∀ name ∈ Schema.reservedNames,
      name ∉ Entries.keys record.fields
  /-- Every field of a record that is not null is in the schema of its class, with the descriptor
  of its value. -/
  covered : ∀ key table, (key, table) ∈ store.tables → ∀ objectId record,
    (objectId, record) ∈ table → ∃ schema, (key, schema) ∈ store.schemas ∧
      ∀ field ∈ record.fields, field.2.isNull = false → ∃ descriptor,
        field.2.descriptor? = .ok (some descriptor) ∧
          schema.fields.lookup field.1 = some descriptor

namespace WellFormed

variable {store : Store} {key objectId : Key} {table : List (Key × Record)} {record : Record}

theorem tableOf_of_mem (wellFormed : store.WellFormed) (member : (key, table) ∈ store.tables) :
    store.tableOf key = table := by
  have distinct := wellFormed.distinct
  rw [← wellFormed.aligned] at distinct
  rw [tableOf, Entries.lookup_of_mem distinct member]
  rfl

theorem of_mem_table (wellFormed : store.WellFormed) (member : (key, table) ∈ store.tables)
    (inTable : (objectId, record) ∈ table) :
    record.WellFormed key objectId (store.schemaOf key) (store.issuedFor key) := by
  apply wellFormed.records
  have distinct := wellFormed.filedOnce key
  rw [wellFormed.tableOf_of_mem member] at distinct
  rw [record?, wellFormed.tableOf_of_mem member]
  exact Entries.lookup_of_mem distinct inTable

theorem exists_schema (wellFormed : store.WellFormed) (member : (key, table) ∈ store.tables) :
    ∃ schema, (key, schema) ∈ store.schemas ∧ store.schemaOf key = schema.fields := by
  have present : key ∈ Entries.keys store.schemas := by
    rw [← wellFormed.aligned]
    exact List.mem_map_of_mem member
  rcases List.mem_map.mp present with ⟨⟨_, schema⟩, known, rfl⟩
  refine ⟨schema, known, ?_⟩
  rw [schemaOf, Entries.lookup_of_mem wellFormed.distinct known]

end WellFormed

/-- In every store that a run of requests leads to from the empty store, whether its requests
succeed or fail, the tables fit together. -/
theorem consistent_after (requests : List Request) :
    (({} : Store).after requests).Consistent := by
  have wellFormed := WellFormed.empty.after requests
  refine {
    sameClasses := wellFormed.aligned
    distinctClasses := wellFormed.distinct
    distinctIds := ?_
    schemas := ?_
    filed := ?_
    unreserved := ?_
    covered := ?_ }
  · intro key table member
    rw [← wellFormed.tableOf_of_mem member]
    exact wellFormed.filedOnce key
  · intro key schema member
    have known := (wellFormed.schemas key).begins
    rwa [schemaOf, Entries.lookup_of_mem wellFormed.distinct member] at known
  · intro key table member objectId record inTable
    have filed := wellFormed.of_mem_table member inTable
    exact ⟨filed.className, filed.identified, filed.objectId⟩
  · intro key table member objectId record inTable
    exact (wellFormed.of_mem_table member inTable).unreserved
  · intro key table member objectId record inTable
    rcases wellFormed.exists_schema member with ⟨schema, known, same⟩
    have covered := (wellFormed.of_mem_table member inTable).covered
    rw [same] at covered
    exact ⟨schema, known, covered⟩

end TypedRecords.Store
