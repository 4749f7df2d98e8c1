import Mathlib.Data.List.Forall2
import TypedRecords.Proofs.Request
import TypedRecords.Proofs.Selection

/-!
# Reading and counting

What the two operations that evaluate filters answer, as equations. A request with an argument that
is refused fails on it. Any other request for a page of a class shows the records in the window,
each in the form in which answers send records, or fails because one of them has no wire form; a
request for a count answers with the number of the records that pass the filter. Neither changes the
store.
-/

namespace Except

variable {Error Item Result Next : Type}

/-- A check of all items succeeds when the check of each of them does. -/
theorem exists_mapM_iff {check : Item → Except Error Result} {items : List Item} :
    (∃ results, items.mapM check = .ok results) ↔
      ∀ item ∈ items, ∃ result, check item = .ok result := by
  induction items with
  | nil => simp
  | cons item rest ih =>
      rw [List.mapM_cons, exists_bind_bind_pure_iff, ih]
      simp

theorem mapM_eq_ok_iff {check : Item → Except Error Result} {items : List Item}
    {results : List Result} :
    items.mapM check = .ok results ↔
      List.Forall₂ (fun item result => check item = .ok result) items results := by
  induction items generalizing results with
  | nil =>
      rw [List.mapM_nil, pure_eq_ok_iff, List.forall₂_nil_left_iff]
      exact eq_comm
  | cons item rest ih =>
      simp only [List.mapM_cons, bind_eq_ok_iff, pure_eq_ok_iff, List.forall₂_cons_left_iff, ih]
      constructor
      · rintro ⟨result, first, others, more, rfl⟩
        exact ⟨result, others, first, more, rfl⟩
      · rintro ⟨result, others, first, more, rfl⟩
        exact ⟨result, first, others, more, rfl⟩

theorem exists_of_mem_mapM {check : Item → Except Error Result} {items : List Item}
    {results : List Result} (checked : items.mapM check = .ok results) :
    ∀ result ∈ results, ∃ item ∈ items, check item = .ok result := by
  rw [mapM_eq_ok_iff] at checked
  induction checked with
  | nil => simp
  | @cons item first _ _ here _ ih =>
      intro result member
      rcases List.mem_cons.mp member with rfl | later
      · exact ⟨item, List.mem_cons_self, here⟩
      · rcases ih result later with ⟨other, present, done⟩
        exact ⟨other, List.mem_cons_of_mem _ present, done⟩

theorem length_of_mapM_eq_ok {check : Item → Except Error Result} {items : List Item}
    {results : List Result} (checked : items.mapM check = .ok results) :
    results.length = items.length :=
  (mapM_eq_ok_iff.mp checked).length_eq.symm

theorem mapM_map (check : Item → Except Error Result) (change : Result → Next)
    (items : List Item) :
    items.mapM (fun item => (check item).map change) =
      (items.mapM check).map (List.map change) := by
  induction items with
  | nil => rfl
  | cons item rest ih =>
      rw [List.mapM_cons, List.mapM_cons, ih]
      rcases check item with error | result
      · rfl
      · rcases rest.mapM check with error | results
        · rfl
        · rfl

end Except

namespace TypedRecords

theorem Action.run_mapM {Item Result : Type} {action : Item → Action Result}
    {check : Item → Except HostError Result}
    (checks : ∀ item backend, (action item).run backend =
      ((check item).mapError Failure.host, backend)) (items : List Item) (backend : Backend) :
    (items.mapM action).run backend = ((items.mapM check).mapError Failure.host, backend) := by
  induction items with
  | nil => rfl
  | cons item rest ih =>
      rw [List.mapM_cons, List.mapM_cons, run_bind, checks]
      rcases check item with error | result
      · rfl
      · simp only [Except.mapError_ok, run_bind, ih]
        rcases rest.mapM check with error | results
        · rfl
        · rfl

/-- The form in which answers send a record. -/
def Record.sent (record : Record) : Except HostError Json :=
  record.encode.map fun entries => .object (Answer.sendableEntries entries)

theorem Record.exists_sent_iff {record : Record} :
    (∃ wire, record.sent = .ok wire) ↔ ∃ entries, record.encode = .ok entries := by
  rw [sent]
  rcases record.encode with error | entries
  · simp [Except.map]
  · simp [Except.map]

theorem Record.mapM_sent (records : List Record) :
    records.mapM Record.sent = (records.mapM Record.encode).map
      (List.map fun entries => .object (Answer.sendableEntries entries)) :=
  Except.mapM_map Record.encode _ records

theorem Store.exists_encode_iff_of_mem_recordsOf {store : Store} {key : Key} {record : Record}
    (wellFormed : store.WellFormed) (member : record ∈ store.recordsOf key) :
    (∃ entries, record.encode = .ok entries) ↔ record.isWritable = true := by
  rcases (mem_recordsOf_iff (wellFormed.filedOnce key)).mp member with ⟨objectId, found⟩
  exact Record.exists_encode_iff (wellFormed.records key objectId record found).access

namespace Answer

/-- The answer with a page of records. -/
def page (className : String) (data : List Json) : Json :=
  .object [("success", .bool true), ("className", .text className), ("count", .int data.length),
    ("data", .array data)]

/-- The answer with a number of records. -/
def counted (className : String) (number : Nat) : Json :=
  .object [("success", .bool true), ("className", .text className), ("count", .int number)]

theorem build_recordPage (className : String) (wires : List (List (String × Json))) :
    recordPage.build [("class_name", .text className), ("count", .int wires.length),
        ("data", .array (wires.map .object))] =
      .ok (page className (wires.map fun entries => .object (sendableEntries entries))) := by
  have listed : Shape.listOf .object (.array (wires.map Json.object)) =
      .ok (.array ((wires.map Json.object).map sendable)) := by
    apply listOf_eq_map
    intro item member
    rcases List.mem_map.mp member with ⟨entries, _, rfl⟩
    rfl
  rw [List.map_map] at listed
  simp [Model.build, Model.check, recordPage, commonFields, classNameField, countField, listField,
    ModelField.check, ModelField.given?, Checked.all, Checked.both, Checked.under, listed,
    Shape.text, Shape.count, checkCount, Model.checkSurplus, Model.surplus, Entries.keys,
    Except.map, Except.mapError_ok, List.lookup_cons, Json.isNull, page]
  intro entries _
  rfl

theorem build_recordCount (className : String) (number : Nat) :
    recordCount.build [("class_name", .text className), ("count", .int number)] =
      .ok (counted className number) := by
  rfl

end Answer

open TypedRecords.Action

namespace Records

variable {strict : Bool} {filters : Json} {predicates : List Predicate} {backend : Backend}

theorem requireClass_of_isTruthy {className : Json} (set : className.isTruthy = true) :
    requireClass className = .ok () := by
  rw [requireClass, if_pos set]

theorem requireClass_text {className : String} (set : className ≠ "") :
    requireClass (.text className) = .ok () :=
  requireClass_of_isTruthy (by simp [Json.isTruthy, set])

theorem run_read {className : Json} {key : Key} {limit skip : Json} {size : Option Nat}
    {start : Nat} (named : requireClass className = .ok ()) (keyed : className.key = .ok key)
    (limited : checkLimit limit = .ok size) (skipped : checkSkip skip = .ok start)
    (compiled : Filter.compile strict filters = .ok predicates) (served : backend.outages = []) :
    (read strict className filters limit skip).run backend =
      (.ok (Store.page (backend.store.matching key predicates) (size.map Int.ofNat) start),
        backend) := by
  have unbroken := Backend.outage?_eq_none served .query
  simp only [read, run_bind, run_ofInput, named, limited, skipped, compiled, Except.mapError_ok,
    Backend.query, Backend.run_reading, unbroken, Store.query,
    Store.select_eq keyed (Filter.supported_of_compile compiled)]
  rfl

theorem run_count {className : String} (set : className ≠ "")
    (compiled : Filter.compile strict filters = .ok predicates) (served : backend.outages = []) :
    (count strict (.text className) filters).run backend =
      (.ok (backend.store.matching (.text className) predicates).length, backend) := by
  have unbroken := Backend.outage?_eq_none served .count
  have keyed : (Json.text className).key = .ok (.text className) := rfl
  simp only [count, run_bind, run_ofInput, requireClass_text set, compiled, Except.mapError_ok,
    Backend.count, Backend.run_reading, unbroken, Store.count,
    Store.select_eq keyed (Filter.supported_of_compile compiled)]
  rfl

/-- What a reader asks for once its arguments are checked: the size of the page, the number of
records before it and the predicates of the filter. -/
def checkReading (strict : Bool) (filters limit skip : Json) :
    Except InvalidInput (Option Nat × Nat × List Predicate) := do
  let size ← checkLimit limit
  let start ← checkSkip skip
  let predicates ← Filter.compile strict filters
  return (size, start, predicates)

/-- A reader with an argument that is refused does not call the backend. -/
theorem run_read_of_refused {className limit skip : Json} {reason : InvalidInput}
    (named : requireClass className = .ok ())
    (refused : checkReading strict filters limit skip = .error reason) (backend : Backend) :
    (read strict className filters limit skip).run backend =
      (.error (.invalid reason), backend) := by
  simp only [read, run_bind, run_ofInput, named, Except.mapError_ok]
  rw [checkReading] at refused
  generalize checkLimit limit = limited, checkSkip skip = skipped,
    Filter.compile strict filters = compiled at refused ⊢
  rcases limited with error | size
  · cases refused
    rfl
  · rcases skipped with error | start
    · cases refused
      rfl
    · rcases compiled with error | predicates
      · cases refused
        rfl
      · cases refused

theorem run_count_of_refused {className : Json} {reason : InvalidInput}
    (named : requireClass className = .ok ())
    (refused : Filter.compile strict filters = .error reason) (backend : Backend) :
    (count strict className filters).run backend = (.error (.invalid reason), backend) := by
  simp only [count, run_bind, run_ofInput, named, refused, Except.mapError_ok,
    Except.mapError_error]

end Records

namespace Quantity

/-- The power is positive whatever its exponent, and too large to be computed. -/
theorem unitsPerOne_pos : 0 < unitsPerOne := by
  unfold unitsPerOne
  generalize 1074 = exponent
  exact Nat.two_pow_pos exponent

theorem lt_ofInt (left right : Int) :
    (ofInt left).lt (ofInt right) = decide (left < right) := by
  rw [ofInt, ofInt, lt, decide_eq_decide]
  exact Int.mul_lt_mul_right (Int.ofNat_lt.mpr unitsPerOne_pos)

end Quantity

namespace ServiceSettings

/-- The settings cap pages at a natural number of records, or not at all. -/
def CapsPages (settings : ServiceSettings) : Prop :=
  settings.maxLimit = .null ∨ ∃ largest : Nat, settings.maxLimit = .int largest

/-- The settings allow pages of at least one record: none is too large, or the largest one is set
to a positive number. -/
def AllowsRecords (settings : ServiceSettings) : Prop :=
  settings.maxLimit = .null ∨
    ∃ largest : Nat, 1 ≤ largest ∧ settings.maxLimit = .int largest

theorem AllowsRecords.capsPages {settings : ServiceSettings} (allowed : settings.AllowsRecords) :
    settings.CapsPages := by
  rcases allowed with unbounded | ⟨largest, _, bound⟩
  · exact Or.inl unbounded
  · exact Or.inr ⟨largest, bound⟩

/-- The size of a page for which a caller sets a limit. -/
def pageSize (settings : ServiceSettings) (limit : Nat) : Nat :=
  match settings.maxLimit with
  | .int (.ofNat largest) => min limit largest
  | _ => limit

theorem pageSize_le (settings : ServiceSettings) (limit : Nat) :
    settings.pageSize limit ≤ limit := by
  rw [pageSize]
  split
  · exact Nat.min_le_left _ _
  · exact Nat.le_refl _

theorem one_le_pageSize {settings : ServiceSettings} (allowed : settings.AllowsRecords)
    {limit : Nat} (wanted : 1 ≤ limit) : 1 ≤ settings.pageSize limit := by
  rcases allowed with unbounded | ⟨largest, positive, bound⟩
  · rwa [pageSize, unbounded]
  · rw [pageSize, bound]
    exact Nat.le_min.mpr ⟨wanted, positive⟩

end ServiceSettings

namespace Operation

variable {settings : ServiceSettings} {parameters : List (String × Json)} {className : String}
  {predicates : List Predicate} {backend : Backend}

theorem capLimit_int_int (count largest : Int) :
    capLimit (.int count) (.int largest) =
      .ok (if largest < count then .int largest else .int count) := by
  simp only [capLimit, Json.key, Quantity.lt_ofInt, decide_eq_true_eq]

theorem capLimit_natural (capped : settings.CapsPages) (limit : Nat) :
    capLimit (.int limit) settings.maxLimit = .ok (.int (settings.pageSize limit)) := by
  rcases capped with unbounded | ⟨largest, bound⟩
  · rw [ServiceSettings.pageSize, unbounded]
    rfl
  · simp only [ServiceSettings.pageSize, bound, capLimit_int_int, Int.ofNat_lt]
    split
    · rw [Nat.min_eq_right (Nat.le_of_lt ‹_›)]
    · rw [Nat.min_eq_left (Nat.le_of_not_lt ‹_›)]

theorem capLimit_int (allowed : settings.AllowsRecords) (limit : Nat) :
    capLimit (.int limit) settings.maxLimit = .ok (.int (settings.pageSize limit)) :=
  capLimit_natural allowed.capsPages limit

/-- A filter that is an object stands for itself, also when it is empty. -/
theorem filterOf_object {entries : List (String × Json)}
    (given : Json.entry parameters "filters" = .object entries) :
    filterOf parameters = .object entries := by
  rw [filterOf, given]
  cases entries with
  | nil => rfl
  | cons entry rest => rfl

theorem run_encoded (record : Record) (backend : Backend) :
    (encoded record).run backend =
      ((record.encode.map Json.object).mapError Failure.host, backend) := by
  rw [encoded, run_bind, run_ofHost]
  rcases record.encode with error | entries
  · rfl
  · rfl

theorem run_readTable {limit : Json} {size : Option Nat} {start : Nat}
    (inClass : Json.entry parameters "className" = .text className) (set : className ≠ "")
    (compiled : Filter.compile settings.strictFilters (filterOf parameters) = .ok predicates)
    (capped : capLimit ((Json.entry parameters "limit").orElse settings.defaultLimit)
      settings.maxLimit = .ok limit)
    (limited : Records.checkLimit limit = .ok size)
    (skipped : Records.checkSkip ((Json.entry parameters "skip").orElse (.int 0)) = .ok start)
    (served : backend.outages = []) :
    (readTable.answer settings parameters).run backend =
      ((((Store.page (backend.store.matching (.text className) predicates)
          (size.map Int.ofNat) start).mapM Record.sent).map (Answer.page className)).mapError
            Failure.host, backend) := by
  have read := Records.run_read (Records.requireClass_text set) rfl limited skipped compiled served
  simp only [readTable, declare, inClass, run_bind, run_ofHost, capped, Except.mapError_ok, read,
    run_mapM run_encoded, Except.mapM_map Record.encode, Record.mapM_sent]
  generalize Store.page _ _ _ = records
  rcases encoded : records.mapM Record.encode with error | wires
  · rfl
  · have built := Answer.build_recordPage className wires
    rw [← Except.length_of_mapM_eq_ok encoded]
    simp only [Except.map, Except.mapError_ok, built]

theorem run_countRecords (inClass : Json.entry parameters "className" = .text className)
    (set : className ≠ "")
    (compiled : Filter.compile settings.strictFilters (filterOf parameters) = .ok predicates)
    (served : backend.outages = []) :
    (countRecords.answer settings parameters).run backend =
      (.ok (Answer.counted className
        (backend.store.matching (.text className) predicates).length), backend) := by
  have counted := Records.run_count set compiled served
  simp only [countRecords, declare, inClass, run_bind, run_ofHost, counted,
    Answer.build_recordCount, Except.mapError_ok]

theorem run_readTable_of_refused {limit : Json} {reason : InvalidInput}
    (inClass : Json.entry parameters "className" = .text className) (set : className ≠ "")
    (capped : capLimit ((Json.entry parameters "limit").orElse settings.defaultLimit)
      settings.maxLimit = .ok limit)
    (refused : Records.checkReading settings.strictFilters (filterOf parameters) limit
      ((Json.entry parameters "skip").orElse (.int 0)) = .error reason) :
    (readTable.answer settings parameters).run backend = (.error (.invalid reason), backend) := by
  have failed := Records.run_read_of_refused (Records.requireClass_text set) refused backend
  simp only [readTable, declare, inClass, run_bind, run_ofHost, capped, Except.mapError_ok, failed]

theorem run_countRecords_of_refused {reason : InvalidInput}
    (inClass : Json.entry parameters "className" = .text className) (set : className ≠ "")
    (refused : Filter.compile settings.strictFilters (filterOf parameters) = .error reason) :
    (countRecords.answer settings parameters).run backend =
      (.error (.invalid reason), backend) := by
  have failed := Records.run_count_of_refused (Records.requireClass_text set) refused backend
  simp only [countRecords, declare, inClass, run_bind, failed]

end Operation

namespace Request

/-- A request for an operation with parameters. -/
def asking (settings : ServiceSettings) (now : Moment) (ids : IdSource) (name : String)
    (parameters : List (String × Json)) : Request :=
  { settings, now, ids, name := .text name, parameters := .object parameters }

@[simp]
theorem given_asking (settings : ServiceSettings) (now : Moment) (ids : IdSource) (name : String)
    (parameters : List (String × Json)) :
    (asking settings now ids name parameters).given = parameters := by
  rcases Mapping.exists_ofJson_object parameters with ⟨mapping, converted, kept⟩
  simp only [given, asking, converted, kept]

/-- The request asks for a page of the records of a class that satisfy some predicates: at most
`size` of them if that is given, after the first `start`. -/
structure AsksPage (request : Request) (className : String) (predicates : List Predicate)
    (size : Option Nat) (start : Nat) : Prop where
  named : request.name = .text "readTable"
  inClass : request.parameter "className" = .text className
  set : className ≠ ""
  compiled : Filter.compile request.settings.strictFilters (Operation.filterOf request.given) =
    .ok predicates
  limited : ∃ limit, Operation.capLimit
      ((request.parameter "limit").orElse request.settings.defaultLimit)
      request.settings.maxLimit = .ok limit ∧ Records.checkLimit limit = .ok size
  skipped : Records.checkSkip ((request.parameter "skip").orElse (.int 0)) = .ok start

/-- The request asks for the number of the records of a class that satisfy some predicates. -/
structure AsksCount (request : Request) (className : String) (predicates : List Predicate) :
    Prop where
  named : request.name = .text "countRecords"
  inClass : request.parameter "className" = .text className
  set : className ≠ ""
  compiled : Filter.compile request.settings.strictFilters (Operation.filterOf request.given) =
    .ok predicates

section Asking

variable {settings : ServiceSettings} {now : Moment} {ids : IdSource}
  {parameters : List (String × Json)} {className : String} {predicates : List Predicate}

/-- A request for a page with a limit, and perhaps a number to skip. -/
theorem asksPage_asking {limit skip : Nat} (allowed : settings.AllowsRecords)
    (inClass : Json.entry parameters "className" = .text className) (set : className ≠ "")
    (compiled : Filter.compile settings.strictFilters (Operation.filterOf parameters) =
      .ok predicates)
    (limited : Json.entry parameters "limit" = .int limit)
    (skipped : (Json.entry parameters "skip").orElse (.int 0) = .int skip) :
    (asking settings now ids "readTable" parameters).AsksPage className predicates
      (some (settings.pageSize limit)) skip where
  named := rfl
  inClass := by rw [parameter, given_asking, inClass]
  set := set
  compiled := by rwa [given_asking]
  limited := by
    refine ⟨.int (settings.pageSize limit), ?_, rfl⟩
    rw [parameter, given_asking, limited]
    exact Operation.capLimit_int allowed limit
  skipped := by
    rw [parameter, given_asking, skipped]
    rfl

theorem asksCount_asking (inClass : Json.entry parameters "className" = .text className)
    (set : className ≠ "")
    (compiled : Filter.compile settings.strictFilters (Operation.filterOf parameters) =
      .ok predicates) :
    (asking settings now ids "countRecords" parameters).AsksCount className predicates where
  named := rfl
  inClass := by rw [parameter, given_asking, inClass]
  set := set
  compiled := by rwa [given_asking]

end Asking

variable {request : Request} {className : String} {predicates : List Predicate}

/-- A request for a page of a class that is named by a text runs its operation. -/
theorem run_eq_readTable (named : request.name = .text "readTable")
    (inClass : request.parameter "className" = .text className) (set : className ≠ "")
    (store : Store) :
    request.run store = ((Operation.readTable.answer request.settings request.given).underLabel
      (some "Failed to read records")).run (request.backend store) := by
  have registered : Operation.readTable ∈ Operation.builtin := by simp [Operation.builtin]
  have present : ∀ name ∈ Operation.readTable.required,
      (request.parameter name).isBlank = false := by
    simp [Operation.readTable, Operation.declare, inClass, Json.isBlank, set]
  exact run_of_present registered named present (by decide) (List.forall_mem_nil _)

theorem run_eq_countRecords (named : request.name = .text "countRecords")
    (inClass : request.parameter "className" = .text className) (set : className ≠ "")
    (store : Store) :
    request.run store = ((Operation.countRecords.answer request.settings request.given).underLabel
      (some "Failed to count records")).run (request.backend store) := by
  have registered : Operation.countRecords ∈ Operation.builtin := by simp [Operation.builtin]
  have present : ∀ name ∈ Operation.countRecords.required,
      (request.parameter name).isBlank = false := by
    simp [Operation.countRecords, Operation.declare, inClass, Json.isBlank, set]
  exact run_of_present registered named present (by decide) (List.forall_mem_nil _)

/-- A request for a page fails on an argument that is refused. -/
theorem outcome_of_refused_readTable (named : request.name = .text "readTable")
    (inClass : request.parameter "className" = .text className) (set : className ≠ "")
    {limit : Json} {reason : InvalidInput}
    (capped : Operation.capLimit ((request.parameter "limit").orElse request.settings.defaultLimit)
      request.settings.maxLimit = .ok limit)
    (refused : Records.checkReading request.settings.strictFilters
      (Operation.filterOf request.given) limit ((request.parameter "skip").orElse (.int 0)) =
        .error reason) (store : Store) :
    request.outcome store = .error (.labelled "Failed to read records" (.invalid reason)) := by
  rw [outcome, run_eq_readTable named inClass set, run_underLabel,
    Operation.run_readTable_of_refused inClass set capped refused]
  rfl

theorem outcome_of_refused_countRecords (named : request.name = .text "countRecords")
    (inClass : request.parameter "className" = .text className) (set : className ≠ "")
    {reason : InvalidInput}
    (refused : Filter.compile request.settings.strictFilters (Operation.filterOf request.given) =
      .error reason) (store : Store) :
    request.outcome store = .error (.labelled "Failed to count records" (.invalid reason)) := by
  rw [outcome, run_eq_countRecords named inClass set, run_underLabel,
    Operation.run_countRecords_of_refused inClass set refused]
  rfl

/-- The records in the window are shown, unless one of them has no wire form. -/
theorem AsksPage.run_eq {size : Option Nat} {start : Nat}
    (asks : request.AsksPage className predicates size start) (store : Store) :
    request.run store =
      ((((Store.page (store.matching (.text className) predicates) (size.map Int.ofNat)
          start).mapM Record.sent).map (Answer.page className)).mapError fun error =>
        .labelled "Failed to read records" (.rejected (.hostError error)),
      request.backend store) := by
  rcases asks.limited with ⟨limit, capped, limited⟩
  have served : (request.backend store).outages = [] := rfl
  have answered := Operation.run_readTable asks.inClass asks.set asks.compiled capped limited
    asks.skipped served
  rw [run_eq_readTable asks.named asks.inClass asks.set, run_underLabel, answered]
  change (Except.mapError _ (Except.mapError _ (Except.map _ (List.mapM _
    (Store.page (store.matching _ _) _ _)))), _) = _
  rcases List.mapM Record.sent _ with error | data
  · rfl
  · rfl

theorem AsksCount.run_eq (asks : request.AsksCount className predicates) (store : Store) :
    request.run store =
      (.ok (Answer.counted className (store.matching (.text className) predicates).length),
        request.backend store) := by
  have served : (request.backend store).outages = [] := rfl
  have answered := Operation.run_countRecords asks.inClass asks.set asks.compiled served
  rw [run_eq_countRecords asks.named asks.inClass asks.set, run_underLabel, answered]
  rfl

end Request

end TypedRecords
