import TypedRecords.Proofs.PageCap

/-!
# The filter of a request

A request for a page or a count takes its filter from a parameter, in whose place the empty filter
stands if the parameter is not set. Null and the empty object mean the empty filter anyway. But
false, a zero, the empty text and the empty array are not set either: none of them is a filter, and
yet a request with one of them takes all records of the class.
-/

namespace TypedRecords

/-- The value is no filter, as it is neither null nor an object, but it is not set: it is false, a
zero, the empty text or the empty array. -/
def Json.PassesForEmpty : Json → Prop
  | .null | .object _ => False
  | value => value.isTruthy = false

theorem Json.isTruthy_eq_false_iff {value : Json} :
    value.isTruthy = false ↔ value = .null ∨ value = .object [] ∨ value.PassesForEmpty := by
  cases value with
  | null => simp [isTruthy]
  | object entries => simp [isTruthy, PassesForEmpty]
  | bool => simp [PassesForEmpty]
  | int => simp [PassesForEmpty]
  | double => simp [PassesForEmpty]
  | text => simp [PassesForEmpty]
  | array => simp [PassesForEmpty]
  | foreign => simp [PassesForEmpty]

theorem Filter.compile_of_passesForEmpty {filters : Json} (passes : filters.PassesForEmpty)
    (strict : Bool) :
    compile strict filters = .error (.notAnObject "filters" filters.typeName) := by
  cases filters with
  | null => exact passes.elim
  | object => exact passes.elim
  | bool => rfl
  | int => rfl
  | double => rfl
  | text => rfl
  | array => rfl
  | foreign => rfl

namespace Request

variable {request : Request} {store : Store} {className : String} {size : Option Nat} {start : Nat}

/-- What the filter parameter of the request compiles to. -/
def compiledFilter (request : Request) : Except InvalidInput (List Predicate) :=
  Filter.compile request.settings.strictFilters (request.parameter "filters")

theorem compile_filterOf_of_passesForEmpty
    (passes : (request.parameter "filters").PassesForEmpty) :
    Filter.compile request.settings.strictFilters (Operation.filterOf request.given) = .ok [] := by
  have unset : (request.parameter "filters").isTruthy = false :=
    Json.isTruthy_eq_false_iff.mpr (Or.inr (Or.inr passes))
  rw [parameter] at unset
  rw [Operation.filterOf, unset]
  rfl

/-- A parameter that does not pass for the empty filter compiles to what the filter in its place
does. -/
theorem compile_filterOf (honest : ¬ (request.parameter "filters").PassesForEmpty) :
    Filter.compile request.settings.strictFilters (Operation.filterOf request.given) =
      request.compiledFilter := by
  rw [compiledFilter, Operation.filterOf, ← parameter]
  split
  · rfl
  · rename_i unset
    rw [Bool.not_eq_true, Json.isTruthy_eq_false_iff] at unset
    rcases unset with null | empty | passes
    · rw [null]
      rfl
    · rw [empty]
    · exact absurd passes honest

/-- The request sets an acceptable window, or leaves it to the settings: a page of at most `size`
records, if that is given, after the first `start`. -/
structure SetsWindow (request : Request) (size : Option Nat) (start : Nat) : Prop where
  limited : ∃ limit, Operation.capLimit
      ((request.parameter "limit").orElse request.settings.defaultLimit)
      request.settings.maxLimit = .ok limit ∧ Records.checkLimit limit = .ok size
  skipped : Records.checkSkip ((request.parameter "skip").orElse (.int 0)) = .ok start

/-- The request for a count goes by what a filter compiles to: it fails for the same reason, or it
is answered with the number of the records that satisfy all predicates. -/
def CountsBy (request : Request) (store : Store) (className : String) :
    Except InvalidInput (List Predicate) → Prop
  | .error reason =>
      request.outcome store = .error (.labelled "Failed to count records" (.invalid reason))
  | .ok predicates => ∃ records, store.Selects (.text className) predicates records ∧
      request.outcome store = .ok (Answer.counted className records.length)

/-- The request for a page goes by what a filter compiles to: it fails for the same reason, or it
is answered with those records in the window that satisfy all predicates. -/
def ReadsBy (request : Request) (store : Store) (className : String) (size : Option Nat)
    (start : Nat) : Except InvalidInput (List Predicate) → Prop
  | .error reason =>
      request.outcome store = .error (.labelled "Failed to read records" (.invalid reason))
  | .ok predicates => ∃ records data, store.Selects (.text className) predicates records ∧
      ((records.drop start).take (size.getD records.length)).mapM Record.sent = .ok data ∧
      request.outcome store = .ok (Answer.page className data)

/-- A request for a count goes by the filter that its parameter stands for. -/
theorem countsBy_filterOf (wellFormed : store.WellFormed) (ordered : store.InOrder)
    (named : request.name = .text "countRecords")
    (inClass : request.parameter "className" = .text className) (set : className ≠ "") :
    request.CountsBy store className
      (Filter.compile request.settings.strictFilters (Operation.filterOf request.given)) := by
  rcases compiled : Filter.compile request.settings.strictFilters
    (Operation.filterOf request.given) with reason | predicates
  · exact outcome_of_refused_countRecords named inClass set compiled store
  · have asks : request.AsksCount className predicates := ⟨named, inClass, set, compiled⟩
    refine ⟨_, Store.selects_matching wellFormed ordered _ predicates, ?_⟩
    rw [outcome, asks.run_eq]

/-- With an acceptable window, only the filter can be refused. -/
theorem SetsWindow.checkReading_eq (window : request.SetsWindow size start)
    (strict : Bool) (filters : Json) :
    ∃ limit, Operation.capLimit ((request.parameter "limit").orElse request.settings.defaultLimit)
        request.settings.maxLimit = .ok limit ∧
      Records.checkReading strict filters limit ((request.parameter "skip").orElse (.int 0)) =
        (Filter.compile strict filters).map fun predicates => (size, start, predicates) := by
  rcases window.limited with ⟨limit, capped, limited⟩
  refine ⟨limit, capped, ?_⟩
  rw [Records.checkReading, limited, window.skipped]
  rfl

/-- A request for a page with an acceptable window goes by the filter that its parameter stands
for. -/
theorem SetsWindow.readsBy_filterOf (window : request.SetsWindow size start)
    (wellFormed : store.WellFormed) (ordered : store.InOrder)
    (encodable : ∀ record ∈ store.recordsOf (.text className),
      ∃ entries, record.encode = .ok entries)
    (named : request.name = .text "readTable")
    (inClass : request.parameter "className" = .text className) (set : className ≠ "") :
    request.ReadsBy store className size start
      (Filter.compile request.settings.strictFilters (Operation.filterOf request.given)) := by
  rcases compiled : Filter.compile request.settings.strictFilters
    (Operation.filterOf request.given) with reason | predicates
  · rcases window.checkReading_eq request.settings.strictFilters
      (Operation.filterOf request.given) with ⟨limit, capped, refused⟩
    rw [compiled] at refused
    exact outcome_of_refused_readTable named inClass set capped refused store
  · have asks : request.AsksPage className predicates size start :=
      ⟨named, inClass, set, compiled, window.limited, window.skipped⟩
    rcases asks.exists_page encodable with ⟨data, sent, answered⟩
    refine ⟨_, data, Store.selects_matching wellFormed ordered _ predicates, ?_, answered⟩
    rwa [← Store.page_eq_take]

/-- What goes by the filter that the parameter stands for, and not by a refusal if it goes by the
empty filter, goes by the parameter itself exactly if this does not pass for the empty filter. -/
theorem follows_compiledFilter_iff {goesBy : Except InvalidInput (List Predicate) → Prop}
    (follows : goesBy (Filter.compile request.settings.strictFilters
      (Operation.filterOf request.given)))
    (decided : goesBy (.ok []) → ∀ reason, ¬ goesBy (.error reason)) :
    (goesBy request.compiledFilter ↔ ¬ (request.parameter "filters").PassesForEmpty) ∧
      ((request.parameter "filters").PassesForEmpty → goesBy (.ok [])) := by
  have byEmpty : (request.parameter "filters").PassesForEmpty → goesBy (.ok []) := by
    intro passes
    rwa [compile_filterOf_of_passesForEmpty passes] at follows
  refine ⟨⟨?_, ?_⟩, byEmpty⟩
  · intro followed passes
    rw [compiledFilter, Filter.compile_of_passesForEmpty passes] at followed
    exact decided (byEmpty passes) _ followed
  · intro honest
    rwa [compile_filterOf honest] at follows

end Request

namespace Store

variable {store : Store} {request : Request} {className : String}

/-- In a store that a run of requests leads to, with records that can be shown, requests for counts
and pages of a class go by what their filter parameter compiles to, failures included, exactly if
it does not pass for the empty filter. One that does is refused by the compilation, but a request
with it takes all records of the class. -/
theorem filters_followed_unless_empty {requests : List Request}
    (reached : store = ({} : Store).after requests)
    (encodable : ∀ record ∈ store.recordsOf (.text className),
      ∃ entries, record.encode = .ok entries)
    (inClass : request.parameter "className" = .text className) (set : className ≠ "") :
    (request.name = .text "countRecords" →
      (request.CountsBy store className request.compiledFilter ↔
        ¬ (request.parameter "filters").PassesForEmpty) ∧
      ((request.parameter "filters").PassesForEmpty → request.CountsBy store className (.ok []))) ∧
    (request.name = .text "readTable" → ∀ size start, request.SetsWindow size start →
      (request.ReadsBy store className size start request.compiledFilter ↔
        ¬ (request.parameter "filters").PassesForEmpty) ∧
      ((request.parameter "filters").PassesForEmpty →
        request.ReadsBy store className size start (.ok []))) ∧
    ((request.parameter "filters").PassesForEmpty → request.compiledFilter =
      .error (.notAnObject "filters" (request.parameter "filters").typeName)) := by
  have wellFormed : store.WellFormed := reached ▸ WellFormed.empty.after requests
  have ordered : store.InOrder := reached ▸ inOrder_after requests
  refine ⟨?_, ?_, ?_⟩
  · intro named
    apply Request.follows_compiledFilter_iff
    · exact Request.countsBy_filterOf wellFormed ordered named inClass set
    · rintro ⟨records, _, answered⟩ reason refused
      rw [Request.CountsBy, answered] at refused
      cases refused
  · intro named size start window
    apply Request.follows_compiledFilter_iff
    · exact window.readsBy_filterOf wellFormed ordered encodable named inClass set
    · rintro ⟨records, data, _, _, answered⟩ reason refused
      rw [Request.ReadsBy, answered] at refused
      cases refused
  · intro passes
    exact Filter.compile_of_passesForEmpty passes _

/-- A request about the records of the class `A` that pass a filter. -/
def filtering (name : String) (filters : Json) : Request :=
  .call name [("className", .text "A"), ("filters", filters)] []

/-- A page of the records with a number above one goes by its filter; a count with the empty array
for a filter takes both records, though this array is refused by the compilation. -/
theorem emptyArray_counts_all :
    (∀ record ∈ (({} : Store).after twoFilings).recordsOf (.text "A"),
      ∃ entries, record.encode = .ok entries) ∧
    (filtering "readTable" (.object [("n", .object [("$gt", .int 1)])])).ReadsBy
      (({} : Store).after twoFilings) "A" (some 100) 0 (.ok [⟨"n", .gt, .int 1⟩]) ∧
    (filtering "countRecords" (.array [])).compiledFilter =
      .error (.notAnObject "filters" "list") ∧
    (filtering "countRecords" (.array [])).CountsBy (({} : Store).after twoFilings) "A" (.ok []) ∧
    ¬ (filtering "countRecords" (.array [])).CountsBy (({} : Store).after twoFilings) "A"
      (.error (.notAnObject "filters" "list")) := by
  have set : "A" ≠ "" := by decide
  have window : (filtering "readTable" (.object [("n", .object [("$gt", .int 1)])])).SetsWindow
      (some 100) 0 := ⟨⟨.int 100, rfl, rfl⟩, rfl⟩
  have page := (filters_followed_unless_empty rfl encodable_twoFilings rfl set).2.1 rfl _ _ window
  have inClass : (filtering "countRecords" (.array [])).parameter "className" = .text "A" := rfl
  have count := filters_followed_unless_empty rfl encodable_twoFilings inClass set
  have passes : (Json.array []).PassesForEmpty := rfl
  refine ⟨encodable_twoFilings, page.1.mpr ?_, count.2.2 passes, (count.1 rfl).2 passes, ?_⟩
  · intro impossible
    exact impossible
  · intro followed
    exact (count.1 rfl).1.mp followed passes

/-- A count with the empty array for a filter is answered. -/
theorem not_forall_filters_followed :
    ¬ ∀ (requests : List Request) (request : Request) (className : String),
      (∀ record ∈ (({} : Store).after requests).recordsOf (.text className),
        ∃ entries, record.encode = .ok entries) →
      request.parameter "className" = .text className → className ≠ "" →
      request.name = .text "countRecords" →
        request.CountsBy (({} : Store).after requests) className request.compiledFilter := by
  intro followed
  have asks : (filtering "countRecords" (.array [])).AsksCount "A" [] :=
    ⟨rfl, rfl, by decide, rfl⟩
  have refused : (filtering "countRecords" (.array [])).outcome (({} : Store).after twoFilings) =
      .error (.labelled "Failed to count records" (.invalid (.notAnObject "filters" "list"))) :=
    followed twoFilings (filtering "countRecords" (.array [])) "A" encodable_twoFilings rfl
      (by decide) rfl
  rw [Request.outcome, asks.run_eq] at refused
  cases refused

end Store

end TypedRecords
