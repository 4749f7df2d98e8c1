import TypedRecords.Proofs.History
import TypedRecords.Proofs.Writable

/-!
# Failed requests

A request that fails leaves the store as it was, with one exception. Creating and updating a record
write first and show the record afterwards, and a record with a date outside the calendar cannot be
shown. Then the request fails although it has written, and the store keeps the record.
-/

namespace TypedRecords

namespace Store

variable {store after : Store} {ids rest : IdSource} {now : Moment} {className objectId : Json}
  {fields : List (String × Value)} {record : Record}

/-- A new record stands in the store where there was none: the id of a record that stands there was
issued and so is not fresh. -/
theorem record?_of_insert (wellFormed : store.WellFormed)
    (done : store.insert ids now className fields AccessPolicy.everyone =
      .ok (record, after, rest)) :
    after.record? (.text record.className) (.text record.objectId) = some record ∧
      store.record? (.text record.className) (.text record.objectId) = none := by
  rcases insert_eq_ok done with ⟨name, schema, rfl, _, _, _, filed⟩
  rcases file_eq filed with ⟨fresh, new, rfl⟩
  have inClass : record.className = name := by rw [new]
  rw [inClass, record?_setRecord, if_pos ⟨rfl, rfl⟩]
  refine ⟨rfl, Option.eq_none_iff_forall_ne_some.mpr ?_⟩
  intro present found
  have old := wellFormed.records _ _ present found
  have same : record.objectId = present.objectId := Key.text.inj old.identified
  exact fresh (same ▸ old.objectId)

theorem record?_of_update (wellFormed : store.WellFormed)
    (done : store.update now className objectId fields = .ok (record, after)) :
    after.record? (.text record.className) (.text record.objectId) = some record := by
  rcases update_eq_ok done with ⟨name, key, existing, schema, rfl, _, found, _, same, rfl⟩
  have old := wellFormed.records _ _ existing found
  have inClass : Key.text record.className = .text name := by rw [same, old.className]
  have identified : Key.text record.objectId = key := by rw [same, old.identified]
  rw [inClass, identified, record?_setRecord, if_pos ⟨rfl, rfl⟩]

/-- An update that leaves the record as it was leaves the store as it was, whose schema covers the
record already and does not grow. -/
theorem eq_of_update (wellFormed : store.WellFormed)
    (done : store.update now className objectId fields = .ok (record, after))
    (present : store.record? (.text record.className) (.text record.objectId) = some record) :
    after = store := by
  rcases update_eq_ok done with ⟨name, key, existing, schema, rfl, _, found, prepared, same, rfl⟩
  have old := wellFormed.records _ _ existing found
  have inClass : Key.text record.className = .text name := by rw [same, old.className]
  have identified : Key.text record.objectId = key := by rw [same, old.identified]
  rw [inClass, identified, found] at present
  cases present
  have covered : (store.schemaOf (.text name)).Covers fields := by
    have unchanged : record.fields = fields := congrArg Record.fields same
    exact unchanged ▸ old.covered
  rw [eq_of_prepare covered prepared,
    wellFormed.commitSchema_eq_self (wellFormed.mem_schemas_of_record? found)]
  exact setRecord_eq_self found

end Store

namespace Records

open TypedRecords.Action

variable {className objectId data : Json} {backend after : Backend} {record : Record}

theorem requireClass_eq_ok {result : Unit} (checked : requireClass className = .ok result) :
    className.isBlank = false := by
  cases className <;> simp_all [requireClass, Json.isTruthy, Json.isBlank]

theorem requireArgument_eq_ok {name : String} {value : Json} {result : Unit}
    (checked : requireArgument name value = .ok result) : value.isBlank = false := by
  rw [requireArgument] at checked
  split at checked
  · cases checked
  · simp_all

theorem create_eq_ok (ran : (create className data).run backend = (.ok record, after)) :
    className.isBlank = false ∧ data.isBlank = false ∧
      ∃ fields, decodeData "data" data = .ok fields ∧
        backend.store.insert backend.ids backend.time className fields AccessPolicy.everyone =
          .ok (record, after.store, after.ids) := by
  rcases KeepsBackend.bind_eq_ok (.ofInput _) ran with ⟨_, named, ran⟩
  rcases KeepsBackend.bind_eq_ok (.ofInput _) ran with ⟨_, given, ran⟩
  rcases KeepsBackend.bind_eq_ok (.ofInput _) ran with ⟨fields, decoded, ran⟩
  exact ⟨requireClass_eq_ok (of_run_ofInput named), requireArgument_eq_ok (of_run_ofInput given),
    fields, of_run_ofInput decoded, Backend.run_writing_eq_ok ran⟩

theorem update_eq_ok (ran : (update className objectId data).run backend = (.ok record, after)) :
    className.isBlank = false ∧ objectId.isBlank = false ∧ data.isBlank = false ∧
      ∃ (existing : Record) (patch : List (String × Value)),
        decodeData "data" data = .ok patch ∧
        backend.store.update backend.time className objectId
          (Entries.merge existing.fields patch) = .ok (record, after.store) := by
  rcases KeepsBackend.bind_eq_ok (.ofInput _) ran with ⟨_, named, ran⟩
  rcases KeepsBackend.bind_eq_ok (.ofInput _) ran with ⟨_, known, ran⟩
  rcases KeepsBackend.bind_eq_ok (.ofInput _) ran with ⟨_, given, ran⟩
  rcases KeepsBackend.bind_eq_ok (.ofInput _) ran with ⟨patch, decoded, ran⟩
  have merging : (mergePatch className objectId patch).KeepsBackend :=
    (keepsBackend_find className objectId).bind fun _ => .pure _
  rcases merging.bind_eq_ok ran with ⟨fields, merged, ran⟩
  rcases (keepsBackend_find className objectId).bind_eq_ok merged with ⟨existing, _, same⟩
  cases same
  have written := Backend.eq_ok_of_result (Backend.run_writing_eq_ok ran)
  exact ⟨requireClass_eq_ok (of_run_ofInput named), requireArgument_eq_ok (of_run_ofInput known),
    requireArgument_eq_ok (of_run_ofInput given), existing, patch, of_run_ofInput decoded, written⟩

end Records

namespace Request

variable {request : Request} {store : Store}

/-- A request that gets as far as writing a record then shows it. The record stands in the store,
and if it stood there before, nothing has changed. -/
theorem run_of_recordWrite (wellFormed : store.WellFormed) {write : Action Record}
    {record : Record} {after : Backend} (writes : request.recordWrite? = some write)
    (written : write.run (request.backend store) = (.ok record, after)) :
    (∃ message label, request.run store =
      ((Operation.recordAnswer message record).underLabel (some label)).run after) ∧
      after.store.record? (.text record.className) (.text record.objectId) = some record ∧
      (store.record? (.text record.className) (.text record.objectId) = some record →
        after.store = store) := by
  rw [recordWrite?] at writes
  split at writes
  · rename_i named
    cases writes
    have registered : Operation.createRecord ∈ Operation.builtin := by simp [Operation.builtin]
    rcases Records.create_eq_ok written with ⟨inClass, given, fields, _, done⟩
    have stands := Store.record?_of_insert wellFormed done
    refine ⟨⟨"Record created successfully", "Failed to create record", ?_⟩, stands.1, ?_⟩
    · have step : (Operation.createRecord.answer request.settings request.given).run
          (request.backend store) = (Operation.recordAnswer _ record).run after :=
        Action.run_bind_of_ok written
      rw [run_of_present registered named
        (by simp [Operation.createRecord, Operation.declare, inClass, given]) (by decide)
        (List.forall_mem_nil _),
        Action.run_underLabel, step]
      rfl
    · intro present
      rw [stands.2] at present
      cases present
  · rename_i named
    cases writes
    have registered : Operation.updateRecord ∈ Operation.builtin := by simp [Operation.builtin]
    rcases Records.update_eq_ok written with ⟨inClass, known, given, _, _, _, done⟩
    refine ⟨⟨"Record updated successfully", "Failed to update record", ?_⟩,
      Store.record?_of_update wellFormed done, Store.eq_of_update wellFormed done⟩
    have step : (Operation.updateRecord.answer request.settings request.given).run
        (request.backend store) = (Operation.recordAnswer _ record).run after :=
      Action.run_bind_of_ok written
    rw [run_of_present registered named
      (by simp [Operation.updateRecord, Operation.declare, inClass, known, given]) (by decide)
      (List.forall_mem_nil _), Action.run_underLabel, step]
    rfl
  · cases writes

theorem change_of_recordWrite (wellFormed : store.WellFormed) {write : Action Record}
    {record : Record} {after : Backend} (writes : request.recordWrite? = some write)
    (written : write.run (request.backend store) = (.ok record, after)) :
    after.store = request.next store := by
  rcases run_of_recordWrite wellFormed writes written with ⟨⟨message, label, ran⟩, _⟩
  rw [next, ran, Action.run_underLabel, Operation.run_recordAnswer]

/-- The request writes a record that cannot be shown, because a date in it lies outside the
calendar, and that did not stand in the store before. -/
def WritesUnshown (request : Request) (store : Store) : Prop :=
  ∃ write record after, request.recordWrite? = some write ∧
    write.run (request.backend store) = (.ok record, after) ∧ record.isWritable = false ∧
    store.record? (.text record.className) (.text record.objectId) ≠ some record

theorem exists_encode_iff_of_recordWrite (wellFormed : store.WellFormed) {write : Action Record}
    {record : Record} {after : Backend} (writes : request.recordWrite? = some write)
    (written : write.run (request.backend store) = (.ok record, after)) :
    (∃ entries, record.encode = .ok entries) ↔ record.isWritable = true := by
  have stands := (run_of_recordWrite wellFormed writes written).2.1
  have left := change_of_recordWrite wellFormed writes written
  have reached := request.wellFormed_next wellFormed
  rw [← left] at reached
  exact Record.exists_encode_iff (reached.records _ _ record stands).access

theorem failed_of_writesUnshown (wellFormed : store.WellFormed)
    (unshown : request.WritesUnshown store) :
    (∃ failure, request.outcome store = .error failure) ∧ request.next store ≠ store := by
  rcases unshown with ⟨write, record, after, writes, written, unwritable, new⟩
  have left := change_of_recordWrite wellFormed writes written
  rcases run_of_recordWrite wellFormed writes written with ⟨⟨message, label, ran⟩, stands, _⟩
  constructor
  · rw [outcome, ran, Action.run_underLabel, Operation.run_recordAnswer]
    rcases encoded : record.encode with error | entries
    · exact ⟨_, rfl⟩
    · have writable := (exists_encode_iff_of_recordWrite wellFormed writes written).mp
        ⟨entries, encoded⟩
      rw [unwritable] at writable
      cases writable
  · intro same
    rw [left, same] at stands
    exact new stands

theorem writesUnshown_of_failed (wellFormed : store.WellFormed) {failure : Failure}
    (failed : request.outcome store = .error failure) (changed : request.next store ≠ store) :
    request.WritesUnshown store := by
  have ran := request.runs wellFormed
  rcases left : request.run store with ⟨result, backend⟩
  rw [outcome, left] at failed
  rw [left] at ran
  have reached : request.next store = backend.store := by rw [next, left]
  cases ran with
  | silent _ => exact absurd reached changed
  | answered _ _ _ => cases failed
  | @unshown write record error _ after rest _ change writes written unencodable =>
      refine ⟨write, record, _, writes, written, ?_, ?_⟩
      · rw [← Bool.not_eq_true, ← exists_encode_iff_of_recordWrite wellFormed writes written,
          unencodable]
        rintro ⟨entries, encoded⟩
        cases encoded
      · intro present
        have kept := (run_of_recordWrite wellFormed writes written).2.2 present
        exact changed (reached.trans kept)

/-- A request changes the store and fails nevertheless exactly if it writes a record that cannot be
shown, and that did not stand in the store before. -/
theorem failed_and_changed_iff (requests : List Request) (request : Request) :
    ((∃ failure, request.outcome (({} : Store).after requests) = .error failure) ∧
      request.next (({} : Store).after requests) ≠ ({} : Store).after requests) ↔
        request.WritesUnshown (({} : Store).after requests) := by
  have wellFormed := Store.WellFormed.empty.after requests
  constructor
  · rintro ⟨⟨failure, failed⟩, changed⟩
    exact writesUnshown_of_failed wellFormed failed changed
  · exact failed_of_writesUnshown wellFormed

/-- Midnight at the beginning of the calendar, one hour east of universal time, lies before the
calendar. A record with this date is created, and the request fails. -/
theorem not_forall_failed_unchanged :
    ¬ ∀ (requests : List Request) (request : Request) (failure : Failure),
      request.outcome (({} : Store).after requests) = .error failure →
        request.next (({} : Store).after requests) = ({} : Store).after requests := by
  intro unchanged
  have kept := unchanged []
    (call "createRecord" [("className", .text "Event"), ("data", .object [("at", .object
      [("__type", .text "Date"), ("iso", .text "0001-01-01T00:00:00+01:00")])])] ["a"])
    (.labelled "Failed to create record" (.rejected (.hostError .dateOutOfRange))) rfl
  exact absurd (congrArg (fun store => store.schemas.length) kept) (by decide)

end Request

end TypedRecords
