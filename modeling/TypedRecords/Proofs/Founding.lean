import TypedRecords.Proofs.ClassListing
import TypedRecords.Proofs.Seeding

/-!
# How classes come into existence

`Request.SchemaEffect` says once what a request can do to the schemas: nothing, let one class learn
the types of the fields that it writes, bring a class into existence by a batch without records, or
remove one. So a class that is not there stays away until a request creates it by name, and then it
begins with the fields that every record has and gets those that this request sets, no others.
-/

namespace TypedRecords

theorem Schema.exists_append_of_merge {className : String} {schema incoming larger : Schema}
    (merged : schema.merge className incoming = .ok larger) :
    ∃ further, larger = schema ++ further ∧ further ⊆ incoming := by
  induction incoming generalizing schema with
  | nil =>
      cases merged
      exact ⟨[], by simp, List.nil_subset _⟩
  | cons entry rest ih =>
      rw [merge_cons, Except.bind_eq_ok_iff] at merged
      rcases merged with ⟨middle, added, merged⟩
      rcases ih merged with ⟨further, rfl, among⟩
      rcases (add_eq_ok_iff.mp added).2 with ⟨_, rfl⟩ | ⟨_, rfl⟩
      · refine ⟨entry :: further, by simp, ?_⟩
        exact List.cons_subset_cons entry among
      · exact ⟨further, rfl, fun _ member => List.mem_cons_of_mem _ (among member)⟩

namespace Store

variable {store after : Store} {name : String} {fields : List (String × Value)}
  {source rest : IdSource} {now : Moment}

/-- The class has learnt the types of the fields, and no other class has another schema. -/
structure Learns (before after : Store) (name : String) (fields : List (String × Value)) :
    Prop where
  named : isName name = true
  merged : ∃ inferred schema, Schema.infer fields = .ok inferred ∧
    (before.schemaOf (.text name)).merge name inferred = .ok schema ∧
    after.schemas = (before.commitSchema (.text name) (.text name) schema).schemas

theorem learns_of_insert {className : Json} {access : AccessPolicy} {record : Record}
    (done : store.insert source now className fields access = .ok (record, after, rest)) :
    ∃ name, className = .text name ∧ store.Learns after name fields := by
  rcases insert_eq_ok done with ⟨name, _, rfl, named, _⟩
  refine ⟨name, rfl, named, ?_⟩
  rw [insert_text] at done
  split at done
  · cases done
  · rename_i schema prepared
    rcases (prepare_eq_ok_iff named).mp prepared with ⟨inferred, inferredAll, merged⟩
    exact ⟨inferred, schema, inferredAll, merged, schemas_of_file (Except.ok.inj done)⟩

theorem learns_of_update {className objectId : Json} {record : Record}
    (done : store.update now className objectId fields = .ok (record, after)) :
    ∃ name, className = .text name ∧ store.Learns after name fields := by
  rcases update_eq_ok done with ⟨name, _, _, schema, rfl, _, _, prepared, _, rfl⟩
  rcases prepare_eq_ok prepared with ⟨_, text, named, _⟩
  cases text
  rcases (prepare_eq_ok_iff named).mp prepared with ⟨inferred, inferredAll, merged⟩
  exact ⟨name, rfl, named, inferred, schema, inferredAll, merged, rfl⟩

theorem learns_of_bulkInsert {items : List (List (String × Value) × AccessPolicy)}
    {records : List Record} (named : isName name = true)
    (done : store.bulkInsert source now (.text name) items = .ok (records, after, rest)) :
    store.Learns after name (items.flatMap Prod.fst) := by
  refine ⟨named, ?_⟩
  rw [bulkInsert_text] at done
  split at done
  · cases done
  · rename_i schema prepared
    rcases (prepareAll_eq_ok_iff named).mp prepared with ⟨inferred, inferredAll, merged⟩
    exact ⟨inferred, schema, inferredAll, merged, schemas_of_fileAll (Except.ok.inj done)⟩

theorem learns_of_declareClass {className : Json} {inferred : Schema} {declared : Json × Schema}
    (inferredAll : Schema.infer fields = .ok inferred)
    (done : store.declareClass className inferred = .ok (declared, after)) :
    ∃ name, className = .text name ∧ store.Learns after name fields := by
  rcases declareClass_eq_ok done with ⟨name, schema, rfl, named, merged, rfl⟩
  exact ⟨name, rfl, named, inferred, schema, inferredAll, merged, rfl⟩

/-- What the schemas say after a class has learnt. -/
theorem Learns.schemaOf (learns : store.Learns after name fields) (key : Key) :
    ∃ further, after.schemaOf key = store.schemaOf key ++ further ∧
      ∀ field descriptor, (field, descriptor) ∈ further → key = .text name ∧
        ∃ value, (field, value) ∈ fields ∧ value.descriptor? = .ok (some descriptor) := by
  rcases learns.merged with ⟨inferred, schema, inferredAll, merged, same⟩
  have seen : after.schemaOf key = if key = .text name then schema else store.schemaOf key := by
    rw [Store.schemaOf, same, ← Store.schemaOf, schemaOf_commitSchema]
  by_cases here : key = .text name
  · subst here
    rcases Schema.exists_append_of_merge merged with ⟨further, rfl, among⟩
    rw [if_pos rfl] at seen
    refine ⟨further, seen, ?_⟩
    intro field descriptor member
    exact ⟨rfl, (Schema.mem_infer_iff inferredAll).mp (among member)⟩
  · rw [if_neg here] at seen
    exact ⟨[], by simp [seen], by simp⟩

theorem Learns.mem_schemas_iff (learns : store.Learns after name fields) {key : Key} :
    key ∈ Entries.keys after.schemas ↔ key ∈ Entries.keys store.schemas ∨ key = .text name := by
  rcases learns.merged with ⟨_, _, _, _, same⟩
  rw [same, mem_schemas_commitSchema_iff]

end Store

namespace Request

variable {request : Request} {store after : Store} {name : String}

/-- The request creates records of the class, or the class itself. -/
structure Founds (request : Request) (name : String) : Prop where
  creates : request.name = .text "createRecord" ∨ request.name = .text "batchCreateRecords" ∨
    request.name = .text "createTable"
  names : request.parameter "className" = .text name

/-- Each of the fields is set by the request. -/
def SetsAll (request : Request) (fields : List (String × Value)) : Prop :=
  ∀ field value, (field, value) ∈ fields →
    ∃ content, request.Sets field content ∧ content.decode = .ok value

/-- What a request can do to the schemas. -/
inductive SchemaEffect (request : Request) (store after : Store) : Prop where
  | kept (same : after.schemas = store.schemas)
  | created {name : String} {fields : List (String × Value)} (founds : request.Founds name)
      (sets : request.SetsAll fields) (learns : store.Learns after name fields)
  | updated {name : String} {fields : List (String × Value)}
      (known : .text name ∈ Entries.keys store.schemas) (learns : store.Learns after name fields)
  | batchedNothing {key : Key} (nothing : request.BatchesNothing key)
      (committed : after = store.commitSchema key (request.parameter "className")
        (store.schemaOf key))
  | dropped (key : Key) (gone : after = store.dropClass key)

theorem setsAll_of_samples {entries : List (String × Json)} {fields : List (String × Value)}
    (named : request.name = .text "createTable")
    (listed : Tables.sampleEntries (request.parameter "schema") = .ok entries)
    (decoded : Tables.decodeSamples entries = .ok fields) : request.SetsAll fields := by
  intro field value member
  rcases Json.exists_of_mem_decoded (Tables.decodeSamples_eq_ok decoded).2 member with
    ⟨content, present, same⟩
  rcases Tables.sampleEntries_eq_ok listed with rfl | given
  · cases present
  · exact ⟨content, .tabled named given present, same⟩

theorem Effect.schemaEffect (effect : request.Effect store after) (wellFormed : store.WellFormed) :
    request.SchemaEffect store after := by
  cases effect with
  | unchanged => exact .kept rfl
  | created named decoded done =>
      rcases Store.learns_of_insert done with ⟨name, text, learns⟩
      rcases Records.decodeData_eq_ok decoded with ⟨entries, given, _, read⟩
      refine .created ⟨Or.inl named, text⟩ ?_ learns
      intro field value member
      rcases Json.exists_of_mem_decoded read member with ⟨content, present, same⟩
      exact ⟨content, .created named given present, same⟩
  | updated named decoded found done =>
      rcases Store.learns_of_update done with ⟨name, text, learns⟩
      rcases Store.getById_eq_ok found with ⟨key, objectKey, keyed, _, stands⟩
      rw [text] at keyed
      cases keyed
      exact .updated (wellFormed.mem_schemas_of_record? stands) learns
  | deleted named done =>
      rcases Store.delete_eq_ok done with ⟨_, _, _, _, _, _, rfl⟩
      exact .kept rfl
  | @batched items batch _ _ _ named set listed decoded done =>
      rcases Store.bulkInsert_eq_ok done with ⟨key, _, keyed, none | ⟨name, text, accepted⟩, _⟩
      · subst none
        cases Records.eq_nil_of_decodeBatch decoded
        rw [Store.bulkInsert_nil _ _ keyed] at done
        cases done
        exact .batchedNothing ⟨named, listed, set, keyed⟩ rfl
      · rw [text] at done
        refine .created ⟨Or.inr (Or.inl named), text⟩ ?_ (Store.learns_of_bulkInsert accepted done)
        intro field value member
        rcases List.mem_flatMap.mp member with ⟨item, among, held⟩
        rcases Records.exists_of_mem_decodedBatch decoded among with ⟨label, data, present, read⟩
        rcases Records.decodeData_eq_ok read with ⟨entries, rfl, _, readEntries⟩
        rcases Json.exists_of_mem_decoded readEntries held with ⟨content, given, same⟩
        exact ⟨content, .batched named listed present given, same⟩
  | seeded named listed decoded done =>
      rcases Store.learns_of_insert done with ⟨name, text, learns⟩
      exact .created ⟨Or.inr (Or.inr named), text⟩ (setsAll_of_samples named listed decoded) learns
  | declared named listed decoded sampled done =>
      rcases Store.learns_of_declareClass (Tables.infer_of_sampleSchema sampled) done with
        ⟨name, text, learns⟩
      exact .created ⟨Or.inr (Or.inr named), text⟩ (setsAll_of_samples named listed decoded) learns
  | purged named answered done =>
      rcases Store.purgeClass_eq_ok done with ⟨key, _, _, _, _, gone⟩
      exact .dropped key gone

/-- Each of the fields has the type of a value that the request sets it to. -/
def SetsTypes (request : Request) (fields : Schema) : Prop :=
  ∀ field descriptor, (field, descriptor) ∈ fields → ∃ content value,
    request.Sets field content ∧ content.decode = .ok value ∧
      value.descriptor? = .ok (some descriptor)

/-- The request brings the class into existence anew: it begins with the fields that every record
has, its other fields are set by the request, and its records have ids that were never issued for
the class before. -/
structure Restarts (request : Request) (store : Store) (name : String) : Prop where
  founds : request.Founds name
  fields : ∃ further, (request.next store).schemaOf (.text name) = Schema.builtin ++ further ∧
    request.SetsTypes further
  records : ∀ objectId record, (request.next store).record? (.text name) objectId = some record →
    record.objectId ∉ store.issuedFor (.text name)

/-- A request after which a class is there that was not there before has founded it; an update
cannot, as it needs a record of the class. -/
theorem SchemaEffect.founds (effect : request.SchemaEffect store after)
    (absent : .text name ∉ Entries.keys store.schemas)
    (present : .text name ∈ Entries.keys after.schemas) :
    request.Founds name ∧ ∃ further, after.schemaOf (.text name) = Schema.builtin ++ further ∧
      request.SetsTypes further := by
  have unknown : store.schemaOf (.text name) = Schema.builtin := by
    rw [← Entries.lookup_isSome_iff, Option.not_isSome_iff_eq_none] at absent
    rw [Store.schemaOf, absent]
  cases effect with
  | kept same =>
      rw [same] at present
      exact absurd present absent
  | created founds sets learns =>
      rcases learns.mem_schemas_iff.mp present with old | same
      · exact absurd old absent
      · cases same
        rcases learns.schemaOf (.text name) with ⟨further, grown, typed⟩
        rw [unknown] at grown
        refine ⟨founds, further, grown, ?_⟩
        intro field descriptor member
        rcases typed field descriptor member with ⟨_, value, held, described⟩
        rcases sets field value held with ⟨content, given, decoded⟩
        exact ⟨content, value, given, decoded, described⟩
  | updated known learns =>
      rcases learns.mem_schemas_iff.mp present with old | same
      · exact absurd old absent
      · cases same
        exact absurd known absent
  | batchedNothing nothing committed =>
      rw [committed, Store.mem_schemas_commitSchema_iff] at present
      rcases present with old | same
      · exact absurd old absent
      · cases same
        refine ⟨⟨Or.inr (Or.inl nothing.named), Json.eq_text_of_key nothing.keyed⟩, [], ?_, ?_⟩
        · rw [committed, Store.schemaOf_commitSchema, if_pos rfl, unknown, List.append_nil]
        · intro field descriptor impossible
          cases impossible
  | dropped key gone =>
      rw [gone, Store.dropClass, Entries.keys_erase] at present
      exact absurd (List.mem_of_mem_filter present) absent

/-- A class that a request founds restarts: an id that was issued before has no record then, and no
request gives it one again. -/
theorem restarts (wellFormed : store.WellFormed) (absent : .text name ∉ Entries.keys store.schemas)
    (present : .text name ∈ Entries.keys (request.next store).schemas) :
    request.Restarts store name := by
  have effect := (request.effect store).schemaEffect wellFormed
  rcases effect.founds absent present with ⟨founds, fields⟩
  refine ⟨founds, fields, ?_⟩
  intro objectId record found issued
  rcases request.change wellFormed with ⟨records, change, _⟩
  have filed := (request.wellFormed_next wellFormed).records _ _ _ found
  have gone : ¬ store.Live (.text name) record.objectId := by
    rintro ⟨old, stood⟩
    exact absent (wellFormed.mem_schemas_of_record? stood)
  exact change.not_live wellFormed issued gone ⟨record, filed.identified ▸ found⟩

end Request

/-- A class that is not there stays away as long as no request founds it. -/
theorem Store.absent_after {store : Store} {name : String} {requests : List Request}
    (wellFormed : store.WellFormed) (absent : .text name ∉ Entries.keys store.schemas)
    (others : ∀ request ∈ requests, ¬ request.Founds name) :
    .text name ∉ Entries.keys (store.after requests).schemas := by
  induction requests generalizing store with
  | nil => exact absent
  | cons request rest ih =>
      apply ih (request.wellFormed_next wellFormed)
      · intro present
        exact others request List.mem_cons_self (request.restarts wellFormed absent present).founds
      · exact fun other member => others other (List.mem_cons_of_mem _ member)

end TypedRecords
