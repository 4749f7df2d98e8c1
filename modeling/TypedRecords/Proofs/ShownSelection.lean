import TypedRecords.Proofs.Paging
import TypedRecords.Proofs.ReadBack
import TypedRecords.Proofs.StoredValues
import TypedRecords.Proofs.UnknownFields

/-!
# Filtering by what an answer shows

What an answer shows of a field can be put into a filter on the field, unless it is an object: that
would be read as an object of operators. The filter compiles to one predicate of equality, and the
record that was shown satisfies it exactly if nothing of the value was lost when it was shown.
-/

namespace TypedRecords

/-- Whether the value is an object. -/
def Value.isObject : Value → Bool
  | .object _ => true
  | _ => false

namespace Filter

/-- What is shown of a value that is no object is no object of operators. -/
theorem isOperatorObject_sendable {value : Value} {wire : Json}
    (plain : value.isObject = false) (encoded : value.encode = .ok wire) :
    isOperatorObject (Answer.sendable wire) = false := by
  cases value with
  | object => cases plain
  | date moment =>
      rw [Value.encode, Value.encodeDate] at encoded
      split at encoded
      · cases encoded
        rfl
      · cases encoded
  | array items =>
      simp only [Value.encode, Except.bind_eq_ok_iff, Except.pure_eq_ok_iff] at encoded
      rcases encoded with ⟨wires, _, rfl⟩
      rfl
  | double value =>
      cases encoded
      rw [Answer.sendable]
      split
      · rfl
      · rfl
  | null => cases encoded; rfl
  | bool => cases encoded; rfl
  | int => cases encoded; rfl
  | text => cases encoded; rfl
  | pointer => cases encoded; rfl
  | foreign => cases encoded; rfl

end Filter

/-- An answer shows a field that callers set under its own name. -/
theorem Record.lookup_of_sent {record : Record} {entries : List (String × Json)}
    (sent : record.sent = .ok (.object entries)) {field : String}
    (free : field ∉ Schema.reservedNames) {value : Value}
    (held : record.fields.lookup field = some value) :
    ∃ wire, value.encode = .ok wire ∧ entries.lookup field = some (Answer.sendable wire) := by
  rw [Record.sent] at sent
  rcases encoded : record.encode with error | merged
  · rw [encoded] at sent
    cases sent
  · rw [encoded] at sent
    cases sent
    simp only [encode, Except.bind_eq_ok_iff, Except.pure_eq_ok_iff] at encoded
    rcases encoded with ⟨fields, written, createdAt, _, updatedAt, _, access, _, rfl⟩
    rcases Value.lookup_encodeEntries written held with ⟨wire, found, shown⟩
    refine ⟨wire, shown, ?_⟩
    have absent : field ∉ Entries.keys [("objectId", Json.text record.objectId),
        ("createdAt", createdAt), ("updatedAt", updatedAt), ("ACL", access)] := by
      simp only [Schema.reservedNames, List.mem_cons, List.not_mem_nil, or_false, not_or] at free
      simp [Entries.keys, free]
    rw [Answer.lookup_sendableEntries, Entries.lookup_merge_of_not_mem absent, found]
    rfl

/-- The predicate that asks for what is shown of a value. -/
def Predicate.showing (field : String) (value : Value) : Predicate :=
  { field, operator := .eq, operand := value.shown }

namespace Store

variable {store : Store} {className : String} {objectId : Key} {record : Record}
  {entries : List (String × Json)} {field : String} {value : Value}

/-- What is shown of a field compiles to a predicate that the record satisfies exactly if nothing
was lost. -/
theorem exists_shown (wellFormed : store.WellFormed) (values : store.HasWellFormedValues)
    (found : store.record? (.text className) objectId = some record)
    (sent : record.sent = .ok (.object entries)) (held : record.fields.lookup field = some value)
    (plain : value.isObject = false) :
    ∃ wire, entries.lookup field = some wire ∧
      (∀ strict, Filter.compile strict (.object [(field, wire)]) =
        .ok [.showing field value]) ∧
      (record ∈ store.matching (.text className) [.showing field value] ↔
        value.isExact = true) := by
  have free : field ∉ Schema.reservedNames := by
    intro reserved
    have filed := wellFormed.records _ _ record found
    exact filed.unreserved field reserved
      (Entries.lookup_isSome_iff.mp (Option.isSome_of_eq_some held))
  have kept := values _ _ record found _ (Entries.mem_of_lookup held)
  rcases Record.lookup_of_sent sent free held with ⟨wire, encoded, shown⟩
  have decoded := Value.decode_sendable_of_encode value kept.tagFree encoded
  have literal := Filter.isOperatorObject_sendable plain encoded
  have holds : (Predicate.showing field value).holds record (store.knownFields (.text className)) =
      .ok value.isExact := by
    have given : record.value? (Predicate.showing field value).field = some value :=
      (Record.value?_of_not_reserved free).trans held
    rw [← Value.matchesOperand_shown kept.distinct, Predicate.holds, given]
    rfl
  refine ⟨_, shown, fun strict => Filter.compile_literal strict field literal decoded, ?_⟩
  rw [matching, List.mem_filter, mem_recordsOf_iff (wellFormed.filedOnce _), List.all_cons,
    List.all_nil, Bool.and_true, Predicate.accepts_eq_true_iff, holds, Except.ok.injEq]
  exact and_iff_right ⟨objectId, found⟩

/-- In a store that a run of requests leads to, a request with what an answer shows of a field, as a
filter on the field, is about the records that have this value there. The record that was shown is
among them exactly if nothing of its value is lost: every number in it is finite, and every date in
it is a whole number of milliseconds. -/
theorem shown_value_selects_iff {requests : List Request}
    (proper : ∀ request ∈ requests, request.parameters.isWellFormed = true) {className : String}
    {objectId : Key} {record : Record} {entries : List (String × Json)} {field : String}
    {value : Value}
    (found : (({} : Store).after requests).record? (.text className) objectId = some record)
    (sent : record.sent = .ok (.object entries)) (held : record.fields.lookup field = some value)
    (plain : value.isObject = false) :
    ∃ wire predicates records, entries.lookup field = some wire ∧
      (∀ strict, Filter.compile strict (.object [(field, wire)]) = .ok predicates) ∧
      (({} : Store).after requests).Selects (.text className) predicates records ∧
      (record ∈ records ↔ value.isExact = true) ∧
      ∀ settings now ids,
        (Request.asking settings now ids "countRecords" [("className", .text className),
          ("filters", .object [(field, wire)])]).outcome (({} : Store).after requests) =
            .ok (Answer.counted className records.length) ∧
        ∀ limit skip data, settings.AllowsRecords → records.mapM Record.sent = .ok data →
          (turning settings now ids (.text className) [(field, wire)] limit skip).outcome
            (({} : Store).after requests) =
              .ok (Answer.page className ((data.drop skip).take (settings.pageSize limit))) := by
  have wellFormed := WellFormed.empty.after requests
  have ordered := inOrder_after requests
  have values := hasWellFormedValues_empty.after .empty proper
  have set := ne_empty_of_mem_schemas (wellFormed.mem_schemas_of_record? found)
  generalize ({} : Store).after requests = store at *
  rcases exists_shown wellFormed values found sent held plain with ⟨wire, shown, compiled, selected⟩
  refine ⟨wire, [.showing field value], _, shown, compiled,
    selects_matching wellFormed ordered _ _, selected, ?_⟩
  intro settings now ids
  constructor
  · have asks : (Request.asking settings now ids "countRecords" [("className", .text className),
        ("filters", .object [(field, wire)])]).AsksCount className [.showing field value] := by
      refine Request.asksCount_asking rfl set ?_
      rw [Operation.filterOf_object rfl]
      exact compiled settings.strictFilters
    rw [Request.outcome, asks.run_eq]
  · intro limit skip data allowed shows
    exact Request.outcome_page
      (asksPage_turning allowed set (compiled settings.strictFilters) now ids limit skip) shows

/-- What an answer shows of any field that is no object selects the record that it is shown of. -/
def SelectsShown (store : Store) : Prop :=
  ∀ className objectId record entries field value wire,
    store.record? (.text className) objectId = some record →
      record.sent = .ok (.object entries) → record.fields.lookup field = some value →
        value.isObject = false → entries.lookup field = some wire →
          ∃ predicates, Filter.compile false (.object [(field, wire)]) = .ok predicates ∧
            record ∈ store.matching (.text className) predicates

/-- The creation of one record with the given content in its only field. -/
def filingOne (content : Json) : List Request :=
  [filing [("x", content)] "a"]

/-- A field of the record that is filed is no object, and tells whether it is shown exactly. -/
def Files (content : Json) (exact : Bool) : Prop :=
  ((({} : Store).after (filingOne content)).record? (.text "A") (.text "a")).map (fun record =>
    (record.isWritable, (record.fields.lookup "x").map fun value =>
      (value.isObject, value.isExact))) = some (true, some (false, exact))

theorem Files.exists_record {content : Json} {exact : Bool} (files : Files content exact) :
    ∃ record entries value,
      (({} : Store).after (filingOne content)).record? (.text "A") (.text "a") = some record ∧
        record.sent = .ok (.object entries) ∧ record.fields.lookup "x" = some value ∧
          value.isObject = false ∧ value.isExact = exact := by
  rcases Option.map_eq_some_iff.mp files with ⟨record, found, filed⟩
  rw [Prod.mk.injEq, Option.map_eq_some_iff] at filed
  rcases filed with ⟨writable, value, held, kind⟩
  rw [Prod.mk.injEq] at kind
  have access := ((WellFormed.empty.after (filingOne content)).records _ _ record found).access
  rcases (Record.exists_encode_iff access).mpr writable with ⟨entries, encoded⟩
  refine ⟨record, Answer.sendableEntries entries, value, found, ?_, held, kind.1, kind.2⟩
  rw [Record.sent, encoded]
  rfl

/-- A list with a number, a reference, and an object with a date that is a whole number of
milliseconds, an hour east of universal time. -/
def mixedList : Json :=
  .array [.double (.finite true 5 1073),
    .object [("__type", .text "Pointer"), ("className", .text "Author"), ("objectId", .text "b")],
    .object [("done", .bool true), ("at", .object [("__type", .text "Date"),
      ("iso", .text "2024-03-01T00:30:00.120+01:00")])]]

/-- The list that an answer shows selects its record. -/
theorem mixedList_selects :
    (∀ request ∈ filingOne mixedList, request.parameters.isWellFormed = true) ∧
      ∃ record entries value,
        (({} : Store).after (filingOne mixedList)).record? (.text "A") (.text "a") = some record ∧
        record.sent = .ok (.object entries) ∧ record.fields.lookup "x" = some value ∧
        value.isObject = false ∧ value.isExact = true ∧
        ∃ wire predicates records, entries.lookup "x" = some wire ∧
          Filter.compile true (.object [("x", wire)]) = .ok predicates ∧
          (({} : Store).after (filingOne mixedList)).Selects (.text "A") predicates records ∧
          record ∈ records := by
  have proper : ∀ request ∈ filingOne mixedList, request.parameters.isWellFormed = true := by
    intro request member
    rw [List.mem_singleton.mp member]
    rfl
  have files : Files mixedList true := by
    rw [Files]
    decide +kernel
  rcases files.exists_record with ⟨record, entries, value, found, sent, held, plain, exact⟩
  rcases shown_value_selects_iff proper found sent held plain with
    ⟨wire, predicates, records, shown, compiled, selects, selected, _⟩
  exact ⟨proper, record, entries, value, found, sent, held, plain, exact, wire, predicates, records,
    shown, compiled true, selects, selected.mpr exact⟩

/-- A record of which an answer shows less than it holds is not selected by what is shown. -/
theorem not_selectsShown_of_files {content : Json} (proper : content.isWellFormed = true)
    (files : Files content false) : ¬ (({} : Store).after (filingOne content)).SelectsShown := by
  intro selects
  have given : ∀ request ∈ filingOne content, request.parameters.isWellFormed = true := by
    intro request member
    rw [List.mem_singleton.mp member]
    simp [filing, Request.call, Json.isWellFormed, Json.entriesWellFormed, Entries.keys, proper]
  have values := hasWellFormedValues_empty.after .empty given
  rcases files.exists_record with ⟨record, entries, value, found, sent, held, plain, inexact⟩
  rcases exists_shown (WellFormed.empty.after _) values found sent held plain with
    ⟨wire, shown, compiled, selected⟩
  rcases selects "A" _ record entries "x" value wire found sent held plain shown with
    ⟨predicates, same, member⟩
  rw [compiled false] at same
  cases same
  rw [selected.mp member] at inexact
  cases inexact

/-- A date that is no whole number of milliseconds, and a number that is not finite, are shown so
that they do not select their records. -/
theorem not_selectsShown :
    ¬ (({} : Store).after (filingOne (.object [("__type", .text "Date"),
      ("iso", .text "2024-05-01T12:30:15.123456Z")]))).SelectsShown ∧
    ¬ (({} : Store).after (filingOne (.double (.infinite false)))).SelectsShown := by
  constructor
  · apply not_selectsShown_of_files rfl
    rw [Files]
    decide +kernel
  · apply not_selectsShown_of_files rfl
    rw [Files]
    decide +kernel

end Store

end TypedRecords
