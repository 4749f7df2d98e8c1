import TypedRecords.Proofs.SchemaGrowth
import TypedRecords.Proofs.StoreViews

/-!
# Well-formed stores

In a well-formed store the classes that have a schema are those that have a table of records.
Every schema begins with the fields that all records have, and every record is filed under its own
class and id, has no reserved field, and is covered by the schema of its class. Each part of a
write keeps this.
-/

namespace TypedRecords

namespace Schema

variable {Content : Type}

/-- None of the keys is the name of a field that every record has. -/
def Unreserved (entries : List (String × Content)) : Prop :=
  ∀ name ∈ reservedNames, name ∉ Entries.keys entries

theorem reservedAmong_eq_nil_iff {entries : List (String × Content)} :
    reservedAmong entries = [] ↔ Unreserved entries := by
  simp [reservedAmong, Unreserved, Entries.hasKey]

theorem Unreserved.merge {entries patch : List (String × Content)} (first : Unreserved entries)
    (second : Unreserved patch) : Unreserved (Entries.merge entries patch) := by
  rw [Entries.merge]
  induction patch generalizing entries with
  | nil => exact first
  | cons entry rest ih =>
      apply ih
      · intro name reserved
        rw [Entries.keys_set]
        have other : name ≠ entry.1 := by
          rintro rfl
          exact second entry.1 reserved List.mem_cons_self
        split
        · exact first name reserved
        · simpa [other] using first name reserved
      · intro name reserved present
        exact second name reserved (List.mem_cons_of_mem _ present)

end Schema

/-- The record is filed under its own class and id: the id is issued there, none of its fields is
reserved, and the schema of the class covers it. -/
structure Record.WellFormed (key objectId : Key) (schema : Schema) (issued : List String)
    (record : Record) : Prop where
  className : key = .text record.className
  identified : objectId = .text record.objectId
  objectId : record.objectId ∈ issued
  unreserved : Schema.Unreserved record.fields
  covered : schema.Covers record.fields
  access : record.access = AccessPolicy.everyone

/-- The invariant of a store: every class has one schema and one table, its key is that of its name,
no id is issued or filed twice, and every record fits its class, its id and its schema. -/
structure Store.WellFormed (store : Store) : Prop where
  aligned : Entries.keys store.tables = Entries.keys store.schemas
  distinct : (Entries.keys store.schemas).Nodup
  named : ∀ key schema, store.schemas.lookup key = some schema → schema.name.key = .ok key
  schemas : ∀ key, (store.schemaOf key).WellFormed
  filedOnce : ∀ key, (Entries.keys (store.tableOf key)).Nodup
  issuedOnce : ∀ key, (store.issuedFor key).Nodup
  records : ∀ key objectId record, store.record? key objectId = some record →
    record.WellFormed key objectId (store.schemaOf key) (store.issuedFor key)

namespace Record.WellFormed

variable {key objectId : Key} {schema larger : Schema} {issued more : List String}
  {record : Record}

theorem mono (filed : record.WellFormed key objectId schema issued)
    (grown : schema.Extends larger) (kept : issued ⊆ more) :
    record.WellFormed key objectId larger more where
  className := filed.className
  identified := filed.identified
  objectId := kept filed.objectId
  unreserved := filed.unreserved
  covered := grown.covers filed.covered
  access := filed.access

end Record.WellFormed

namespace Store.WellFormed

variable {store : Store} {key objectId : Key} {schema : Schema} {className : Json}

theorem empty : ({} : Store).WellFormed where
  aligned := rfl
  distinct := List.nodup_nil
  named _ _ known := by simp at known
  schemas _ := Schema.wellFormed_builtin
  filedOnce _ := List.nodup_nil
  issuedOnce _ := List.nodup_nil
  records _ _ _ found := by simp [record?, tableOf] at found

/-- In a well-formed store committing a schema touches no records. -/
theorem tableOf_commitSchema (wellFormed : store.WellFormed) (other : Key) :
    (store.commitSchema key className schema).tableOf other = store.tableOf other := by
  rw [Store.tableOf_commitSchema]
  split
  · rename_i fresh
    rcases fresh with ⟨rfl, absent⟩
    exact (tableOf_of_not_mem (wellFormed.aligned ▸ absent)).symm
  · rfl

theorem commitSchema (wellFormed : store.WellFormed) (named : className.key = .ok key)
    (grown : (store.schemaOf key).Extends schema) :
    (store.commitSchema key className schema).WellFormed where
  aligned := by
    simp only [Store.commitSchema, Entries.lookup_isSome_iff, Entries.keys_set,
      ← wellFormed.aligned]
    split
    · rfl
    · rw [Entries.keys_set, if_neg ‹_›]
  distinct := Entries.nodup_keys_set wellFormed.distinct _ _
  named other known found := by
    rw [Store.commitSchema, Entries.lookup_set] at found
    split at found
    · rename_i same
      cases found
      rw [same, named]
    · exact wellFormed.named other known found
  schemas other := by
    rw [schemaOf_commitSchema]
    split
    · exact grown.wellFormed (wellFormed.schemas key)
    · exact wellFormed.schemas other
  filedOnce other := by
    rw [wellFormed.tableOf_commitSchema]
    exact wellFormed.filedOnce other
  issuedOnce := wellFormed.issuedOnce
  records other otherId record found := by
    rw [record?, wellFormed.tableOf_commitSchema] at found
    have filed := wellFormed.records other otherId record found
    rw [schemaOf_commitSchema, issuedFor_commitSchema]
    split
    · rename_i same
      subst same
      exact filed.mono grown (List.Subset.refl _)
    · exact filed

/-- A well-formed record may take the place under its class and id. -/
theorem setRecord (wellFormed : store.WellFormed) {record : Record}
    (present : key ∈ Entries.keys store.schemas)
    (filed : record.WellFormed key objectId (store.schemaOf key) (store.issuedFor key)) :
    (store.setRecord key objectId record).WellFormed where
  aligned := by
    rw [Store.setRecord, setTable, Entries.keys_set, wellFormed.aligned, if_pos present]
  distinct := wellFormed.distinct
  named := wellFormed.named
  schemas := wellFormed.schemas
  filedOnce other := by
    rw [tableOf_setRecord]
    split
    · exact Entries.nodup_keys_set (wellFormed.filedOnce key) _ _
    · exact wellFormed.filedOnce other
  issuedOnce := wellFormed.issuedOnce
  records other otherId stored found := by
    rw [record?_setRecord] at found
    split at found
    · rename_i same
      rcases same with ⟨rfl, rfl⟩
      cases found
      exact filed
    · exact wellFormed.records other otherId stored found

theorem noteIssued (wellFormed : store.WellFormed) {issued : String}
    (fresh : issued ∉ store.issuedFor key) : (store.noteIssued key issued).WellFormed where
  aligned := wellFormed.aligned
  distinct := wellFormed.distinct
  named := wellFormed.named
  schemas := wellFormed.schemas
  filedOnce := wellFormed.filedOnce
  issuedOnce other := by
    rw [issuedFor_noteIssued]
    split
    · exact List.Nodup.append (wellFormed.issuedOnce key) (List.nodup_singleton _)
        (by simpa using fresh)
    · exact wellFormed.issuedOnce other
  records other otherId record found := by
    refine (wellFormed.records other otherId record found).mono .refl ?_
    rw [issuedFor_noteIssued]
    split
    · rename_i same
      subst same
      exact List.subset_append_left _ _
    · exact List.Subset.refl _

theorem dropRecord (wellFormed : store.WellFormed) (key objectId : Key)
    (present : key ∈ Entries.keys store.schemas) : (store.dropRecord key objectId).WellFormed where
  aligned := by
    rw [Store.dropRecord, setTable, Entries.keys_set, wellFormed.aligned, if_pos present]
  distinct := wellFormed.distinct
  named := wellFormed.named
  schemas := wellFormed.schemas
  filedOnce other := by
    rw [tableOf_dropRecord]
    split
    · exact Entries.nodup_keys_erase (wellFormed.filedOnce key) _
    · exact wellFormed.filedOnce other
  issuedOnce := wellFormed.issuedOnce
  records other otherId record found := by
    rw [record?_dropRecord] at found
    split at found
    · cases found
    · exact wellFormed.records other otherId record found

theorem dropClass (wellFormed : store.WellFormed) (key : Key) :
    (store.dropClass key).WellFormed where
  aligned := by
    rw [Store.dropClass, Entries.keys_erase, Entries.keys_erase, wellFormed.aligned]
  distinct := Entries.nodup_keys_erase wellFormed.distinct _
  named other known found := by
    rw [Store.dropClass, Entries.lookup_erase] at found
    split at found
    · cases found
    · exact wellFormed.named other known found
  schemas other := by
    rw [schemaOf_dropClass]
    split
    · exact Schema.wellFormed_builtin
    · exact wellFormed.schemas other
  filedOnce other := by
    rw [tableOf_dropClass]
    split
    · exact List.nodup_nil
    · exact wellFormed.filedOnce other
  issuedOnce := wellFormed.issuedOnce
  records other otherId record found := by
    rw [record?_dropClass] at found
    split at found
    · cases found
    · rename_i different
      rw [schemaOf_dropClass, if_neg different]
      exact wellFormed.records other otherId record found

/-- Committing the schema that a class has changes nothing. -/
theorem commitSchema_eq_self (wellFormed : store.WellFormed) {name : String}
    (present : .text name ∈ Entries.keys store.schemas) :
    store.commitSchema (.text name) (.text name) (store.schemaOf (.text name)) = store := by
  rcases Option.isSome_iff_exists.mp (Entries.lookup_isSome_iff.mpr present) with ⟨known, found⟩
  have named := Json.eq_text_of_key (wellFormed.named _ known found)
  have same : ({ name := .text name, fields := store.schemaOf (.text name) } : ClassSchema) =
      known := by
    rw [schemaOf, found, ← named]
  rw [Store.commitSchema, same, Entries.set_eq_self found, found]
  rfl

/-- A class that has a record has a schema. -/
theorem mem_schemas_of_record? (wellFormed : store.WellFormed) {record : Record}
    (found : store.record? key objectId = some record) : key ∈ Entries.keys store.schemas := by
  by_contra absent
  rw [record?, tableOf_of_not_mem (wellFormed.aligned ▸ absent)] at found
  cases found

end Store.WellFormed

end TypedRecords
