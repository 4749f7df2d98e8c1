import TypedRecords.Proofs.Evolution
import TypedRecords.Proofs.MergeOrder

/-!
# Creating tables with and without a seed record

A new table is declared from the descriptors of its sample values, or it is created by a first
record that holds them. The two ways infer and merge the descriptors in different places, but on
values that have a wire form they come to the same: they accept the same tables, fail with the same
failure and leave the same schemas. Seeding adds the one record, and nothing else.
-/

namespace TypedRecords

namespace Store

variable {store : Store} {name : String} {fields : List (String × Value)} {inferred : Schema}

/-- Declaring inferred descriptors checks them as writing the fields would. -/
theorem declareClass_of_infer (done : Schema.infer fields = .ok inferred) :
    store.declareClass (.text name) inferred =
      match prepare (.text name) (store.schemaOf (.text name)) fields with
      | .error reason => .error (.rejected reason)
      | .ok schema =>
          .ok ((.text name, schema), store.commitSchema (.text name) (.text name) schema) := by
  simp only [declareClass, prepare, done, Json.key, Except.mapError_ok, bind, Except.bind]
  rcases checkClassName (.text name) with reason | checked
  · rfl
  · simp only [Except.mapError_ok]
    rcases (store.schemaOf (.text name)).merge checked inferred with reason | schema
    · rfl
    · rfl

/-- The store has one more record, under an id that was not issued before, and nothing else is
different. -/
structure GainsRecord (before after : Store) (key : Key) (record : Record) : Prop where
  fresh : record.objectId ∉ before.issuedFor key
  schemas : after.schemas = before.schemas
  tables : ∀ other, after.tableOf other =
    before.tableOf other ++ if other = key then [(.text record.objectId, record)] else []
  issued : ∀ other, after.issuedFor other =
    before.issuedFor other ++ if other = key then [record.objectId] else []

/-- Filing a record in a well-formed store adds it. -/
theorem gainsRecord_of_file (wellFormed : store.WellFormed) {source rest : IdSource} {now : Moment}
    {key : Key} {access : AccessPolicy} {record : Record} {after : Store}
    (filed : store.file source now key name fields access = (record, after, rest)) :
    store.GainsRecord after key record := by
  rcases file_eq filed with ⟨fresh, _, stored⟩
  have absent : (.text record.objectId : Key) ∉ Entries.keys (store.tableOf key) := by
    intro present
    rcases Option.isSome_iff_exists.mp (Entries.lookup_isSome_iff.mpr present) with ⟨old, found⟩
    exact fresh (wellFormed.issued_of_live ⟨old, found⟩)
  refine ⟨fresh, schemas_of_file filed, ?_, ?_⟩
  · intro other
    rw [stored, tableOf_setRecord]
    by_cases same : other = key
    · rw [if_pos same, if_pos same, same]
      exact Entries.set_of_not_mem absent record
    · rw [if_neg same, if_neg same, List.append_nil]
      rfl
  · intro other
    rw [stored, issuedFor_setRecord, issuedFor_noteIssued]
    by_cases same : other = key
    · subst same
      simp
    · simp [same]

end Store

theorem Backend.run_declareClass {backend : Backend}
    (served : backend.outage? .declareClass = none) (name : String) {fields : List (String × Value)}
    {inferred : Schema} (done : Schema.infer fields = .ok inferred) :
    (declareClass (.text name) inferred).run backend =
      match Store.prepare (.text name) (backend.store.schemaOf (.text name)) fields with
      | .error reason => (.error (.rejected reason), backend)
      | .ok schema => (.ok (.text name, schema), { backend with
          store := backend.store.commitSchema (.text name) (.text name) schema }) := by
  simp only [declareClass, run_writing, served, Store.declareClass_of_infer done]
  rcases Store.prepare (.text name) (backend.store.schemaOf (.text name)) fields with
    reason | schema
  · rfl
  · rfl

namespace Tables

open TypedRecords.Action

variable {backend : Backend} {name : String} {entries : List (String × Json)}
  {fields : List (String × Value)} {inferred : Schema}

/-- Without a seed the table is declared, if a record with the sample values could be written. -/
theorem run_create_declaring (seedByDefault : Bool) {seed : Bool}
    (served : backend.outage? .declareClass = none) (set : name ≠ "")
    (decoded : decodeSamples entries = .ok fields) (sampled : sampleSchema fields = .ok inferred)
    (declaring : (seed && !fields.isEmpty) = false) :
    (create seedByDefault (.text name) (.object entries) (.bool seed)).run backend =
      match Store.prepare (.text name) (backend.store.schemaOf (.text name)) fields with
      | .error reason => (.error (.rejected reason), backend)
      | .ok schema => (.ok { className := .text name }, { backend with
          store := backend.store.commitSchema (.text name) (.text name) schema }) := by
  have declared := Backend.run_declareClass served name (infer_of_sampleSchema sampled)
  simp only [create, run_bind, run_ofInput, Records.requireClass_text set, sampleEntries, checkSeed,
    decoded, declaring, sampled, Except.mapError_ok, declare, Bool.false_eq_true, if_false,
    declared]
  rcases Store.prepare (.text name) (backend.store.schemaOf (.text name)) fields with
    reason | schema
  · rfl
  · rfl

/-- With a seed and some fields the table is created by inserting a record. -/
theorem run_create_seeding (seedByDefault : Bool) (served : backend.outage? .insert = none)
    (set : name ≠ "") (decoded : decodeSamples entries = .ok fields) (some : fields ≠ []) :
    (create seedByDefault (.text name) (.object entries) (.bool true)).run backend =
      match Store.prepare (.text name) (backend.store.schemaOf (.text name)) fields with
      | .error reason => (.error (.rejected reason), backend)
      | .ok schema =>
          let (record, store, ids) := (backend.store.commitSchema (.text name) (.text name)
            schema).file backend.ids backend.time (.text name) name fields AccessPolicy.everyone
          (.ok { className := .text name, seedObjectId := record.objectId },
            { backend with store, ids }) := by
  have seeding : (true && !fields.isEmpty) = true := by simp [some]
  simp only [create, run_bind, run_ofInput, Records.requireClass_text set, sampleEntries, checkSeed,
    decoded, seeding, Except.mapError_ok, if_true, Backend.run_insert served]
  rcases Store.prepare (.text name) (backend.store.schemaOf (.text name)) fields with
    reason | schema
  · rfl
  · rfl

/-- In a store that a run of requests leads to, a table with a name and sample values of the wire is
created with a seed record exactly if it is created without one; if not, both ways fail with the
same failure and change nothing. The schemas afterwards are the same. If there are sample values,
seeding leaves one more record, which holds them and whose id is told; otherwise there is no
difference at all. -/
theorem seeding_adds_one_record (requests : List Request)
    (stored : backend.store = ({} : Store).after requests)
    (insertServed : backend.outage? .insert = none)
    (declareServed : backend.outage? .declareClass = none) (seedByDefault : Bool) (set : name ≠ "")
    (plain : ∀ entry ∈ entries, ∀ kind, entry.2 ≠ .foreign kind) :
    (∃ failure, ∀ seed : Bool,
        (create seedByDefault (.text name) (.object entries) (.bool seed)).run backend =
          (.error failure, backend)) ∨
      ∃ fields declared creation seeded, decodeSamples entries = .ok fields ∧
        (create seedByDefault (.text name) (.object entries) (.bool false)).run backend =
          (.ok { className := .text name }, declared) ∧
        (create seedByDefault (.text name) (.object entries) (.bool true)).run backend =
          (.ok creation, seeded) ∧
        (entries = [] → creation = { className := .text name } ∧ seeded = declared) ∧
        (entries ≠ [] → ∃ record,
          creation = { className := .text name, seedObjectId := some record.objectId } ∧
          record.className = name ∧ record.fields = fields ∧
          declared.store.GainsRecord seeded.store (.text name) record) := by
  rcases decoded : decodeSamples entries with reason | fields
  · refine Or.inl ⟨.invalid reason, fun seed => ?_⟩
    simp only [create, run_bind, run_ofInput, Records.requireClass_text set, sampleEntries,
      checkSeed, decoded, Except.mapError_ok, Except.mapError_error]
  · rcases exists_sampleSchema plain (decodeSamples_eq_ok decoded).2 with
      ⟨sampled, sampledAll⟩
    have declares := run_create_declaring seedByDefault declareServed set decoded sampledAll
      (rfl : (false && !fields.isEmpty) = false)
    by_cases none : fields = []
    · have seeds := run_create_declaring seedByDefault declareServed set decoded sampledAll
        (by simp [none] : (true && !fields.isEmpty) = false)
      rcases prepared : Store.prepare (.text name) (backend.store.schemaOf (.text name)) fields with
        reason | schema
      · rw [prepared] at declares seeds
        exact Or.inl ⟨_, Bool.forall_bool.mpr ⟨declares, seeds⟩⟩
      · rw [prepared] at declares seeds
        have empty := (eq_nil_iff_of_decodeSamples decoded).mp none
        exact Or.inr ⟨fields, _, _, _, rfl, declares, seeds, fun _ => ⟨rfl, rfl⟩,
          fun given => absurd empty given⟩
    · have seeds := run_create_seeding seedByDefault insertServed set decoded none
      rcases prepared : Store.prepare (.text name) (backend.store.schemaOf (.text name)) fields with
        reason | schema
      · rw [prepared] at declares seeds
        exact Or.inl ⟨_, Bool.forall_bool.mpr ⟨declares, seeds⟩⟩
      · rcases filed : (backend.store.commitSchema (.text name) (.text name) schema).file
          backend.ids backend.time (.text name) name fields AccessPolicy.everyone with
          ⟨record, after, ids⟩
        rw [prepared] at declares seeds
        simp only [filed] at seeds
        have wellFormed : backend.store.WellFormed := stored ▸ Store.WellFormed.empty.after requests
        rcases Store.prepare_eq_ok prepared with ⟨_, _, _, grown, _⟩
        have gains := Store.gainsRecord_of_file (wellFormed.commitSchema rfl grown) filed
        rcases Store.file_eq filed with ⟨_, new, _⟩
        refine Or.inr ⟨fields, _, _, _, rfl, declares, seeds, ?_, fun _ => ?_⟩
        · intro empty
          exact absurd ((eq_nil_iff_of_decodeSamples decoded).mpr empty) none
        · exact ⟨record, rfl, by rw [new], by rw [new], gains⟩

/-- Sample values for a number and for a field without a type. -/
def numberAndNull : List (String × Json) :=
  [("k", .int 1), ("m", .null)]

/-- A class that has records already gets the new field either way. -/
theorem numberAndNull_seeded :
    "A" ≠ "" ∧ (∀ entry ∈ numberAndNull, ∀ kind, entry.2 ≠ .foreign kind) ∧
      ∃ declared creation seeded record,
        (create true (.text "A") (.object numberAndNull) (.bool false)).run Store.onLaterField =
          (.ok { className := .text "A" }, declared) ∧
        (create true (.text "A") (.object numberAndNull) (.bool true)).run Store.onLaterField =
          (.ok creation, seeded) ∧
        creation.seedObjectId = some record.objectId ∧
        record.fields = [("k", .int 1), ("m", .null)] ∧
        declared.store.GainsRecord seeded.store (.text "A") record := by
  have set : "A" ≠ "" := by decide
  have plain : ∀ entry ∈ numberAndNull, ∀ kind, entry.2 ≠ .foreign kind := by
    simp [numberAndNull]
  have stored : Store.onLaterField.store = ({} : Store).after Store.laterField := by
    rw [Store.onLaterField]
  refine ⟨set, plain, ?_⟩
  rcases seeding_adds_one_record Store.laterField stored rfl rfl true set plain with
    ⟨failure, failed⟩ | ⟨fields, declared, creation, seeded, decoded, declares, seeds, _, gains⟩
  · have created : ((create true (.text "A") (.object numberAndNull)
        (.bool true)).run Store.onLaterField).1.isOk = true := by decide +kernel
    rw [failed true] at created
    cases created
  · rcases gains (by simp [numberAndNull]) with ⟨record, told, _, held, gained⟩
    cases decoded
    exact ⟨declared, creation, seeded, record, declares, seeds, by rw [told], held, gained⟩

end Tables

end TypedRecords
