import TypedRecords.Proofs.ReadBack

/-!
# When a class can be read

A page of a class is shown exactly if the class is named by a text and no record in the window has
a date outside the calendar. A class of another name comes from a batch without records. A record
with such a date comes from a request that does not show what it writes, a batch or a new table, or
from one that fails on showing it.
-/

namespace TypedRecords

namespace Answer

theorem Checked.exists_of_all {Result : Type} {checks : List (Checked Result)}
    {results : List Result} (checked : Checked.all checks = .ok results) :
    ∀ check ∈ checks, ∃ result, check = .ok result := by
  induction checks generalizing results with
  | nil => simp
  | cons first rest ih =>
      rcases first with issues | result
      · rcases others : Checked.all rest with more | results
        · simp [Checked.all, Checked.both, others, Except.map] at checked
        · simp [Checked.all, Checked.both, others, Except.map] at checked
      · rcases others : Checked.all rest with more | results
        · simp [Checked.all, Checked.both, others, Except.map] at checked
        · intro check member
          rcases List.mem_cons.mp member with rfl | later
          · exact ⟨result, rfl⟩
          · exact ih others check later

/-- Every field of an answer that is built has passed its check. -/
theorem Model.exists_check_of_build {model : Model} {values : List (String × Json)} {answer : Json}
    (built : model.build values = .ok answer) {field : ModelField} (member : field ∈ model.fields) :
    ∃ entry, field.check values = .ok entry := by
  rcases checked : Checked.all (model.fields.map (·.check values)) with issues | entries
  · rw [build, check, checked] at built
    rcases surplus : model.checkSurplus values with more | _
    · rw [surplus] at built
      cases built
    · rw [surplus] at built
      cases built
  · exact Checked.exists_of_all checked _ (List.mem_map_of_mem member)

/-- An answer that has the name of a class is built for a class that is named by a text. -/
theorem Model.exists_text_of_build {model : Model} (member : classNameField ∈ model.fields)
    {values : List (String × Json)} {className answer : Json}
    (given : classNameField.given? values = some ("class_name", className))
    (built : model.build values = .ok answer) : ∃ name, className = .text name := by
  rcases Model.exists_check_of_build built member with ⟨entry, checked⟩
  rw [ModelField.check, given] at checked
  change ((Shape.text className).under "class_name").map _ = .ok entry at checked
  cases className with
  | text name => exact ⟨name, rfl⟩
  | null => cases checked
  | bool => cases checked
  | int => cases checked
  | double => cases checked
  | array => cases checked
  | object => cases checked
  | foreign => cases checked

end Answer

namespace Request

open TypedRecords.Action

variable {request : Request} {store : Store} {key objectId : Key} {record stored : Record}

/-- A request that writes a record leaves all others. -/
theorem record?_of_recordWrite (wellFormed : store.WellFormed) {write : Action Record}
    {after : Backend} (writes : request.recordWrite? = some write)
    (written : write.run (request.backend store) = (.ok record, after)) (key objectKey : Key) :
    after.store.record? key objectKey =
      if key = .text record.className ∧ objectKey = .text record.objectId then some record
      else store.record? key objectKey := by
  rw [recordWrite?] at writes
  split at writes
  · cases writes
    rcases Records.create_eq_ok written with ⟨_, _, fields, _, done⟩
    exact Store.record?_insert wellFormed done objectKey
  · cases writes
    rcases Records.update_eq_ok written with ⟨_, _, _, _, _, _, done⟩
    exact Store.record?_update wellFormed done objectKey
  · cases writes

/-- A record that comes into the store by a request that shows it can be shown. -/
theorem isWritable_of_recordWrite (wellFormed : store.WellFormed) {answer : Json}
    (named : request.name = .text "createRecord" ∨ request.name = .text "updateRecord")
    (answered : request.outcome store = .ok answer)
    (found : (request.next store).record? key objectId = some stored)
    (new : store.record? key objectId ≠ some stored) : stored.isWritable = true := by
  rcases exists_recordWrite_of_ok named answered with
    ⟨write, message, record, after, entries, writes, written, encoded, _⟩
  rw [← change_of_recordWrite wellFormed writes written,
    record?_of_recordWrite wellFormed writes written] at found
  split at found
  · cases found
    exact (exists_encode_iff_of_recordWrite wellFormed writes written).mp ⟨entries, encoded⟩
  · exact absurd found new

/-- The request writes records and does not show them: it fails on showing one, or it succeeds, and
its answer shows none. -/
def WritesWithoutShowing (request : Request) (store : Store) : Prop :=
  request.WritesUnshown store ∨
    (request.name = .text "batchCreateRecords" ∨ request.name = .text "createTable") ∧
      ∃ answer, request.outcome store = .ok answer

/-- A record that cannot be shown comes from a request that does not show what it writes. -/
theorem writesWithoutShowing_of_not_isWritable (wellFormed : store.WellFormed)
    (found : (request.next store).record? key objectId = some stored)
    (new : store.record? key objectId ≠ some stored) (unwritable : stored.isWritable = false) :
    request.WritesWithoutShowing store := by
  rcases answered : request.outcome store with failure | answer
  · left
    apply writesUnshown_of_failed wellFormed answered
    intro same
    rw [same] at found
    exact new found
  · refine Or.inr ⟨?_, answer, answered⟩
    have shown : ¬ (request.name = .text "createRecord" ∨ request.name = .text "updateRecord") := by
      intro named
      rw [isWritable_of_recordWrite wellFormed named answered found new] at unwritable
      cases unwritable
    have effect := request.effect store
    generalize request.next store = after at effect found
    cases effect with
    | unchanged => exact absurd found new
    | created named _ _ => exact absurd (Or.inl named) shown
    | updated named _ _ _ => exact absurd (Or.inr named) shown
    | deleted _ done =>
        rcases Store.delete_eq_ok done with ⟨_, _, _, _, _, _, rfl⟩
        rw [Store.record?_dropRecord] at found
        split at found
        · cases found
        · exact absurd found new
    | batched named _ _ _ _ => exact Or.inl named
    | seeded named _ _ _ => exact Or.inr named
    | declared named _ _ _ _ => exact Or.inr named
    | purged _ _ done =>
        rcases Store.purgeClass_eq_ok done with ⟨_, _, _, _, _, rfl⟩
        rw [Store.record?_dropClass] at found
        split at found
        · cases found
        · exact absurd found new

/-- A class that is read is named by a text. -/
theorem exists_text_of_readTable (named : request.name = .text "readTable") {answer : Json}
    (answered : request.outcome store = .ok answer) :
    ∃ name, request.parameter "className" = .text name := by
  have registered : Operation.readTable ∈ Operation.builtin := by simp [Operation.builtin]
  rcases answer_run_of_ok registered named answered with ⟨after, ran, _⟩
  rcases KeepsBackend.bind_eq_ok (.ofHost _) ran with ⟨limit, _, ran⟩
  rcases KeepsBackend.bind_eq_ok (Records.keepsBackend_read _ _ _ _ _) ran with ⟨records, _, ran⟩
  rcases KeepsBackend.bind_eq_ok (.mapM Operation.keepsBackend_encoded records) ran with
    ⟨data, _, ran⟩
  rw [run_ofHost, Prod.mk.injEq, Except.mapError_eq_ok_iff] at ran
  exact Answer.Model.exists_text_of_build (by simp [Answer.recordPage]) rfl ran.1

/-- A class whose records are counted is named by a text. -/
theorem exists_text_of_countRecords (named : request.name = .text "countRecords") {answer : Json}
    (answered : request.outcome store = .ok answer) :
    ∃ name, request.parameter "className" = .text name := by
  have registered : Operation.countRecords ∈ Operation.builtin := by simp [Operation.builtin]
  rcases answer_run_of_ok registered named answered with ⟨after, ran, _⟩
  rcases KeepsBackend.bind_eq_ok (Records.keepsBackend_count _ _ _) ran with ⟨number, _, ran⟩
  rw [run_ofHost, Prod.mk.injEq, Except.mapError_eq_ok_iff] at ran
  exact Answer.Model.exists_text_of_build (by simp [Answer.recordCount]) rfl ran.1

/-- A request for the records of a class, or for their number. -/
def Reads (request : Request) (className : Json) : Prop :=
  (request.name = .text "readTable" ∨ request.name = .text "countRecords") ∧
    request.parameter "className" = className

/-- A class that is read or counted with success is named by a text. -/
theorem Reads.exists_text {className answer : Json} (reads : request.Reads className)
    (answered : request.outcome store = .ok answer) : ∃ name, className = .text name := by
  rcases reads with ⟨reading | counting, rfl⟩
  · exact exists_text_of_readTable reading answered
  · exact exists_text_of_countRecords counting answered

/-- A page is shown exactly if each record in it has a wire form. -/
theorem AsksPage.exists_answer_iff {className : String} {predicates : List Predicate}
    {size : Option Nat} {start : Nat} (asks : request.AsksPage className predicates size start) :
    (∃ answer, request.outcome store = .ok answer) ↔
      ∀ record ∈ Store.page (store.matching (.text className) predicates) (size.map Int.ofNat)
        start, ∃ entries, record.encode = .ok entries := by
  rw [outcome, asks.run_eq]
  simp only [← Record.exists_sent_iff, ← Except.exists_mapM_iff]
  generalize List.mapM Record.sent _ = sent
  rcases sent with error | data
  · simp [Except.map]
  · simp [Except.map]

/-- A page of records that all have a wire form is shown. -/
theorem AsksPage.exists_page {className : String} {predicates : List Predicate}
    {size : Option Nat} {start : Nat} (asks : request.AsksPage className predicates size start)
    (encodable : ∀ record ∈ store.recordsOf (.text className),
      ∃ entries, record.encode = .ok entries) :
    ∃ data, (Store.page (store.matching (.text className) predicates) (size.map Int.ofNat)
        start).mapM Record.sent = .ok data ∧
      request.outcome store = .ok (Answer.page className data) := by
  have sendable : ∀ record ∈ Store.page (store.matching (.text className) predicates)
      (size.map Int.ofNat) start, ∃ wire, record.sent = .ok wire := by
    intro record member
    rw [Record.exists_sent_iff]
    exact encodable record (Store.mem_recordsOf_of_mem_page member)
  rcases Except.exists_mapM_iff.mpr sendable with ⟨data, sent⟩
  refine ⟨data, sent, ?_⟩
  rw [outcome, asks.run_eq, sent]
  rfl

end Request

namespace Store

/-- What comes to hold in a run of requests comes to hold by one of them. -/
theorem exists_request_of_after (holds : Store → Prop) {store : Store} {requests : List Request}
    (start : ¬ holds store) (reached : holds (store.after requests)) :
    ∃ earlier request later, requests = earlier ++ request :: later ∧
      ¬ holds (store.after earlier) ∧ holds (request.next (store.after earlier)) := by
  induction requests generalizing store with
  | nil => exact absurd reached start
  | cons request rest ih =>
      by_cases next : holds (request.next store)
      · exact ⟨[], request, rest, rfl, start, next⟩
      · rcases ih next reached with ⟨earlier, first, later, rfl, before, after⟩
        exact ⟨request :: earlier, first, later, rfl, before, after⟩

/-- A request for the records of a class in a window. -/
def reading (settings : ServiceSettings) (now : Moment) (ids : IdSource) (className : Json)
    (limit skip : Nat) : Request :=
  .asking settings now ids "readTable"
    [("className", className), ("limit", .int limit), ("skip", .int skip)]

theorem exists_answer_reading_iff {store : Store} (wellFormed : store.WellFormed)
    {settings : ServiceSettings} (unbounded : settings.maxLimit = .null) (now : Moment)
    (ids : IdSource) {className : String} (set : className ≠ "") (limit skip : Nat) :
    (∃ answer, (reading settings now ids (.text className) limit skip).outcome store =
      .ok answer) ↔
        ∀ record ∈ ((store.recordsOf (.text className)).drop skip).take limit,
          record.isWritable = true := by
  have size : settings.pageSize limit = limit := by rw [ServiceSettings.pageSize, unbounded]
  have asks : (reading settings now ids (.text className) limit skip).AsksPage className []
      (some (settings.pageSize limit)) skip :=
    Request.asksPage_asking (Or.inl unbounded) rfl set rfl rfl rfl
  rw [asks.exists_answer_iff, page_eq, matching_nil, size]
  apply forall₂_congr
  intro record member
  have inClass := List.mem_of_mem_drop (List.mem_of_mem_take member)
  exact exists_encode_iff_of_mem_recordsOf wellFormed inClass

/-- In a store that a run of requests leads to, the records of a class in a window are shown
exactly if the class is named by a text and each of them has all its dates in the calendar; and a
record that has not was written by a request that did not show it. -/
theorem readable_iff (requests : List Request) {className : Json} {key : Key}
    (keyed : className.key = .ok key)
    (present : key ∈ Entries.keys (({} : Store).after requests).schemas)
    {settings : ServiceSettings} (unbounded : settings.maxLimit = .null) (now : Moment)
    (ids : IdSource) (limit skip : Nat) :
    ((∃ answer, (reading settings now ids className limit skip).outcome
        (({} : Store).after requests) = .ok answer) ↔
      (∃ name, className = .text name) ∧
        ∀ record ∈ (((({} : Store).after requests).recordsOf key).drop skip).take limit,
          record.isWritable = true) ∧
      ∀ objectId record, (({} : Store).after requests).record? key objectId = some record →
        record.isWritable = false → ∃ earlier request later,
          requests = earlier ++ request :: later ∧
          request.WritesWithoutShowing (({} : Store).after earlier) ∧
          (({} : Store).after earlier).record? key objectId ≠ some record ∧
          (request.next (({} : Store).after earlier)).record? key objectId = some record := by
  have wellFormed := WellFormed.empty.after requests
  have readable : ∀ name, className = .text name →
      ((∃ answer, (reading settings now ids className limit skip).outcome
        (({} : Store).after requests) = .ok answer) ↔
          ∀ record ∈ (((({} : Store).after requests).recordsOf key).drop skip).take limit,
            record.isWritable = true) := by
    rintro name rfl
    cases keyed
    have set := ne_empty_of_mem_schemas present
    exact exists_answer_reading_iff wellFormed unbounded now ids set limit skip
  constructor
  · constructor
    · rintro ⟨answer, answered⟩
      rcases Request.exists_text_of_readTable rfl answered with ⟨name, named⟩
      rw [reading, Request.parameter, Request.given_asking] at named
      exact ⟨⟨name, named⟩, (readable name named).mp ⟨answer, answered⟩⟩
    · rintro ⟨⟨name, named⟩, writable⟩
      exact (readable name named).mpr writable
  · intro objectId record found unwritable
    have absent : ({} : Store).record? key objectId ≠ some record := by
      intro stands
      cases stands
    rcases exists_request_of_after (fun store => store.record? key objectId = some record) absent
      found with ⟨earlier, request, later, rfl, new, filed⟩
    have before := WellFormed.empty.after earlier
    exact ⟨earlier, request, later, rfl,
      Request.writesWithoutShowing_of_not_isWritable before filed new unwritable, new, filed⟩

/-- A request for a batch of events with the given dates. -/
def batching (dates : List String) : Request :=
  .call "batchCreateRecords" [("className", .text "Event"),
    ("records", .array (dates.map fun date =>
      .object [("at", .object [("__type", .text "Date"), ("iso", .text date)])]))] []

/-- A request for two events, one in the calendar and one before it: midnight at its beginning, one
hour east of universal time. -/
def twoEvents : Request :=
  batching ["2024-02-29T12:00:00Z", "0001-01-01T00:00:00+01:00"]

/-- The first of the two events is read alone, but not together with the second. -/
theorem first_event_readable :
    (Json.text "Event").key = .ok (.text "Event") ∧
      .text "Event" ∈ Entries.keys (({} : Store).after [twoEvents]).schemas ∧
      ({} : ServiceSettings).maxLimit = .null ∧
      (∃ answer, (reading {} { instant := 0, offset := 0 } {} (.text "Event") 1 0).outcome
        (({} : Store).after [twoEvents]) = .ok answer) ∧
      ¬ ∃ answer, (reading {} { instant := 0, offset := 0 } {} (.text "Event") 2 0).outcome
        (({} : Store).after [twoEvents]) = .ok answer := by
  have present : .text "Event" ∈ Entries.keys (({} : Store).after [twoEvents]).schemas := by
    decide +kernel
  have writable : ((({} : Store).after [twoEvents]).recordsOf (.text "Event")).map
      Record.isWritable = [true, false] := by
    decide +kernel
  have keyed : (Json.text "Event").key = .ok (.text "Event") := rfl
  have unbounded : ({} : ServiceSettings).maxLimit = .null := rfl
  have alone := (readable_iff [twoEvents] keyed present unbounded { instant := 0, offset := 0 } {}
    1 0).1
  have both := (readable_iff [twoEvents] keyed present unbounded { instant := 0, offset := 0 } {}
    2 0).1
  generalize (({} : Store).after [twoEvents]).recordsOf (.text "Event") = events at *
  rcases List.map_eq_cons_iff.mp writable with ⟨first, rest, rfl, shown, others⟩
  rcases List.map_eq_singleton_iff.mp others with ⟨second, rfl, unshown⟩
  refine ⟨keyed, present, unbounded, alone.mpr ⟨⟨_, rfl⟩, ?_⟩, ?_⟩
  · simpa using shown
  · intro readable
    have written := (both.mp readable).2 second (by simp)
    rw [unshown] at written
    cases written

/-- A batch of one event that lies before the calendar is accepted, and its class cannot be read. -/
theorem not_forall_readable :
    ¬ ∀ (requests : List Request) (className : Json) (key : Key) (settings : ServiceSettings)
      (now : Moment) (ids : IdSource) (limit skip : Nat), className.key = .ok key →
        key ∈ Entries.keys (({} : Store).after requests).schemas → settings.maxLimit = .null →
          ∃ answer, (reading settings now ids className limit skip).outcome
            (({} : Store).after requests) = .ok answer := by
  intro readable
  have unwritable : ((({} : Store).after
      [batching ["0001-01-01T00:00:00+01:00"]]).recordsOf (.text "Event")).map
        Record.isWritable = [false] := by
    decide +kernel
  rcases List.map_eq_singleton_iff.mp unwritable with ⟨event, alone, unshown⟩
  have unbounded : ({} : ServiceSettings).maxLimit = .null := rfl
  have answered := readable [batching ["0001-01-01T00:00:00+01:00"]] (.text "Event")
    (.text "Event") {} { instant := 0, offset := 0 } {} 10 0 rfl (by decide +kernel) unbounded
  have shown := (exists_answer_reading_iff (WellFormed.empty.after _) unbounded _ _ (by decide) 10
    0).mp answered event (by rw [alone]; simp)
  rw [unshown] at shown
  cases shown

end Store

end TypedRecords
