import TypedRecords.Operation.Builtin
import TypedRecords.Proofs.Writing

/-!
# What the operations do

Six operations only read. Four write once and then build an answer that always succeeds. Creating
and updating a record write once too, but their answer shows the record, and a record that holds a
date outside the calendar cannot be shown: then the operation fails although it has written.
-/

namespace TypedRecords

namespace Json

/-- The texts that a value is or lists. -/
def texts : Json → List String
  | .text value => [value]
  | .array items => items.filterMap fun
      | .text value => some value
      | _ => none
  | _ => []

/-- The texts in an entry of an answer. -/
def textsAt (answer : Json) (key : String) : List String :=
  match answer with
  | .object entries => (entry entries key).texts
  | _ => []

end Json

namespace Answer

theorem all_map_ok {Item Result : Type} (items : List Item) (value : Item → Result) :
    Checked.all (items.map fun item => (.ok (value item) : Checked Result)) =
      .ok (items.map value) := by
  induction items with
  | nil => rfl
  | cons item rest ih =>
      rw [List.map_cons, Checked.all, ih]
      rfl

/-- An array is sent with each of its values in the form in which the shape sends it. -/
theorem listOf_eq_map {shape : Shape} {items : List Json} {form : Json → Json}
    (shaped : ∀ item ∈ items, shape item = .ok (form item)) :
    Shape.listOf shape (.array items) = .ok (.array (items.map form)) := by
  have checked : (items.zipIdx.map fun entry : Json × Nat =>
      (shape entry.1).under (toString entry.2)) =
        items.zipIdx.map fun entry => (.ok (form entry.1) : Checked Json) := by
    apply List.map_congr_left
    intro entry member
    rw [shaped entry.1 (List.fst_mem_of_mem_zipIdx member)]
    rfl
  have formed : (items.zipIdx.map fun entry : Json × Nat => form entry.1) = items.map form := by
    change items.zipIdx.map (form ∘ Prod.fst) = items.map form
    rw [← List.map_map, List.zipIdx_map_fst]
  change (Checked.all (items.zipIdx.map fun entry : Json × Nat =>
    (shape entry.1).under (toString entry.2))).map Json.array = _
  rw [checked, all_map_ok, formed]
  rfl

/-- An array of values that have a shape as they stand is sent as it is. -/
theorem listOf_eq_self {shape : Shape} {items : List Json}
    (shaped : ∀ item ∈ items, shape item = .ok item) :
    Shape.listOf shape (.array items) = .ok (.array items) := by
  have sent : ∀ item ∈ items, shape item = .ok (id item) := shaped
  simpa using listOf_eq_map sent

theorem build_batchCreated (message : String) (count : Int) (ids : List String) :
    batchCreated.build [("message", .text message), ("count", .int count),
        ("object_ids", .array (ids.map .text))] =
      .ok (.object [("success", .bool true), ("message", .text message), ("count", .int count),
        ("objectIds", .array (ids.map .text))]) := by
  have listed : Shape.listOf .text (.array (ids.map Json.text)) = .ok (.array (ids.map .text)) := by
    apply listOf_eq_self
    intro item member
    rcases List.mem_map.mp member with ⟨id, _, rfl⟩
    rfl
  simp [Model.build, Model.check, batchCreated, commonFields, countField, listField,
    ModelField.check, ModelField.given?, Checked.all, Checked.both, Checked.under, listed,
    Shape.optionalText, Shape.text, Shape.count, checkCount, Model.checkSurplus, Model.surplus,
    Entries.keys, Except.map, Except.mapError_ok, List.lookup_cons, Json.isNull]

end Answer

namespace Operation

open TypedRecords.Action TypedRecords.Answer

theorem keepsBackend_timestamp : Backend.timestamp.KeepsBackend :=
  fun _ => rfl

theorem keepsBackend_listTables (settings : ServiceSettings)
    (parameters : List (String × Json)) :
    (listTables.answer settings parameters).KeepsBackend := by
  apply KeepsBackend.bind
  · exact Backend.keepsBackend_reading .listClasses _
  · intro tables
    apply KeepsBackend.bind
    · exact .ofHost _
    · intro summaries
      exact .ofHost _

theorem keepsBackend_getTableSchema (settings : ServiceSettings)
    (parameters : List (String × Json)) :
    (getTableSchema.answer settings parameters).KeepsBackend := by
  apply KeepsBackend.bind
  · apply KeepsBackend.bind
    · exact Backend.keepsBackend_reading .classFields _
    · intro found
      cases found with
      | none => exact .throw _
      | some schema => exact .pure _
  · intro schema
    exact .ofHost _

theorem keepsBackend_encoded (record : Record) : (encoded record).KeepsBackend := by
  apply KeepsBackend.bind
  · exact .ofHost _
  · intro entries
    exact .pure _

theorem keepsBackend_readTable (settings : ServiceSettings)
    (parameters : List (String × Json)) :
    (readTable.answer settings parameters).KeepsBackend := by
  apply KeepsBackend.bind
  · exact .ofHost _
  · intro limit
    apply KeepsBackend.bind
    · exact Records.keepsBackend_read _ _ _ _ _
    · intro records
      apply KeepsBackend.bind
      · exact .mapM keepsBackend_encoded records
      · intro encoded
        exact .ofHost _

theorem keepsBackend_countRecords (settings : ServiceSettings)
    (parameters : List (String × Json)) :
    (countRecords.answer settings parameters).KeepsBackend := by
  apply KeepsBackend.bind
  · exact Records.keepsBackend_count _ _ _
  · intro count
    exact .ofHost _

theorem keepsBackend_getServerInfo (settings : ServiceSettings)
    (parameters : List (String × Json)) :
    (getServerInfo.answer settings parameters).KeepsBackend := by
  apply KeepsBackend.bind keepsBackend_timestamp
  intro timestamp
  exact .ofHost _

theorem keepsBackend_healthCheck (settings : ServiceSettings)
    (parameters : List (String × Json)) :
    (healthCheck.answer settings parameters).KeepsBackend := by
  apply KeepsBackend.bind keepsBackend_timestamp
  intro timestamp
  exact .ofHost _

variable {backend : Backend}

theorem writesOnce_createTable (settings : ServiceSettings) (parameters : List (String × Json)) :
    (createTable.answer settings parameters).WritesOnce
      (fun answer records => answer.textsAt "seedObjectId" = records.map (·.objectId) ∧
        Backend.AllOf (Json.entry parameters "className") records) backend := by
  refine (Tables.writesOnce_create _ _ _ _).answer ?_
  rintro creation records ⟨filed, named, className, text⟩
  rw [text]
  rw [text] at named
  rcases seeded : creation.seedObjectId with _ | objectId
  · refine ⟨_, rfl, ?_, named⟩
    rw [filed, seeded]
    rfl
  · refine ⟨_, rfl, ?_, named⟩
    rw [filed, seeded]
    rfl

theorem writesOnce_deleteTable (settings : ServiceSettings) (parameters : List (String × Json)) :
    (deleteTable.answer settings parameters).WritesOnce (fun _ records => records = []) backend :=
  (Tables.writesOnce_delete _).answer fun _ _ none => ⟨_, rfl, none⟩

theorem writesOnce_deleteRecord (wellFormed : backend.store.WellFormed)
    (settings : ServiceSettings) (parameters : List (String × Json)) :
    (deleteRecord.answer settings parameters).WritesOnce (fun _ records => records = [])
      backend := by
  refine (Records.writesOnce_delete wellFormed _ _).answer ?_
  rintro _ records ⟨none, known, text⟩
  rw [text]
  exact ⟨_, rfl, none⟩

theorem writesOnce_batchCreateRecords (settings : ServiceSettings)
    (parameters : List (String × Json)) :
    (batchCreateRecords.answer settings parameters).WritesOnce
      (fun answer records => answer.textsAt "objectIds" = records.map (·.objectId) ∧
        Backend.AllOf (Json.entry parameters "className") records) backend := by
  refine (Records.writesOnce_createBatch _ _).answer ?_
  rintro created records ⟨rfl, named⟩
  have built := build_batchCreated (toString records.length ++ " records created successfully")
    records.length (records.map (·.objectId))
  rw [List.map_map] at built
  exact ⟨_, built, by simp [Json.textsAt, Json.entry, List.lookup_cons, Json.texts], named⟩

/-- The answer that shows a record, given its wire form. -/
def recordShown (message : String) (record : Record) (entries : List (String × Json)) : Json :=
  .object [("success", .bool true), ("message", .text message),
    ("objectId", .text record.objectId), ("data", .object (sendableEntries entries))]

theorem run_recordAnswer (message : String) (record : Record) (backend : Backend) :
    (recordAnswer message record).run backend =
      (match record.encode with
        | .ok entries => .ok (recordShown message record entries)
        | .error error => .error (.host error), backend) := by
  rw [recordAnswer, run_bind, encoded, run_bind, run_ofHost]
  rcases record.encode with error | entries
  · rfl
  · rfl

section Complaints

variable {operation : Operation} {parameters : List (String × Json)}

theorem missing_eq_nil_iff :
    operation.missing parameters = [] ↔
      (∀ name ∈ operation.required, (Json.entry parameters name).isBlank = false) ∧
        ∀ name ∈ operation.arrays, (Json.entry parameters name).isArray = true := by
  simp [missing]

theorem complaint?_of_missing_eq_nil (complete : operation.missing parameters = []) :
    operation.complaint? parameters = .ok none := by
  rw [complaint?, complete]
  rfl

/-- Parameters none of which is missing raise no complaint. -/
theorem complaint?_eq_none
    (present : ∀ name ∈ operation.required, (Json.entry parameters name).isBlank = false)
    (listed : ∀ name ∈ operation.arrays, (Json.entry parameters name).isArray = true) :
    operation.complaint? parameters = .ok none :=
  complaint?_of_missing_eq_nil (missing_eq_nil_iff.mpr ⟨present, listed⟩)

/-- If a parameter is missing, then the names of all required ones are the complaint. There is one,
as the arrays are required as well. -/
theorem complaint?_of_missing_ne_nil (required : operation.arrays ⊆ operation.required)
    (missing : operation.missing parameters ≠ []) :
    operation.requiredNames ≠ [] ∧
      operation.complaint? parameters = .ok (some operation.requiredNames) := by
  have incomplete : (operation.missing parameters).isEmpty = false := by simpa using missing
  have named : operation.requiredNames ≠ [] := by
    intro none
    have nothing : operation.required = [] := List.map_eq_nil_iff.mp none
    have arrays : operation.arrays = [] := List.subset_nil.mp (nothing ▸ required)
    apply missing
    simp [Operation.missing, nothing, arrays]
  refine ⟨named, ?_⟩
  rw [complaint?, incomplete]
  rcases names : operation.requiredNames with _ | ⟨first, rest⟩
  · exact absurd names named
  · rfl

end Complaints

theorem run_eq (operation : Operation) (settings : ServiceSettings)
    (parameters : List (String × Json)) (backend : Backend) :
    (operation.run settings parameters).run backend =
      match operation.complaint? parameters with
      | .error error => (.error (.host error), backend)
      | .ok (some names) => (.error (.invalid (.missingParameters names)), backend)
      | .ok none =>
          ((operation.answer settings parameters).underLabel operation.label).run backend := by
  rw [run, run_bind, check, run_bind, run_ofHost]
  rcases operation.complaint? parameters with error | _ | names
  · rfl
  · rfl
  · rfl

end Operation

end TypedRecords
