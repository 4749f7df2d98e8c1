import TypedRecords.Proofs.FilterParameter

/-!
# Which windows a page can have

A request sets the window of a page by a limit and by a number of records to skip, or leaves either
to the service. What is set must be a natural number, and a truth value is none. But a limit is
checked only after it is capped, and where the largest page has no records, the cap takes the place
of `true`, which counts as one.
-/

namespace TypedRecords

/-- The value is null, and so sets nothing, or it is a natural number. -/
def Json.IsUnsetOrNatural (value : Json) : Prop :=
  value = .null ∨ ∃ number : Nat, value = .int number

namespace ServiceSettings

/-- The page size by default is a natural number, and so is the largest one if there is any. -/
structure SetsSizes (settings : ServiceSettings) : Prop where
  byDefault : ∃ size : Nat, settings.defaultLimit = .int size
  capped : settings.CapsPages

/-- A limit with which the settings let a page be read: none, a natural number, or `true` where it
gives way to a largest page without records. -/
def AcceptsLimit (settings : ServiceSettings) (limit : Json) : Prop :=
  limit.IsUnsetOrNatural ∨ limit = .bool true ∧ settings.maxLimit = .int 0

end ServiceSettings

namespace Records

theorem natural?_eq_some_iff {value : Json} {number : Nat} :
    natural? value = some number ↔ value = .int number := by
  cases value with
  | int count =>
      cases count with
      | ofNat other =>
          simp only [natural?, Option.some.injEq, Json.int.injEq, Int.ofNat_eq_natCast]
          omega
      | negSucc other => simp [natural?]
  | null => simp [natural?]
  | bool => simp [natural?]
  | double => simp [natural?]
  | text => simp [natural?]
  | array => simp [natural?]
  | object => simp [natural?]
  | foreign => simp [natural?]

theorem natural?_of_not_isUnsetOrNatural {value : Json} (unfit : ¬ value.IsUnsetOrNatural) :
    natural? value = none := by
  rw [Option.eq_none_iff_forall_ne_some]
  intro number natural
  exact unfit (Or.inr ⟨number, natural?_eq_some_iff.mp natural⟩)

theorem isNull_of_not_isUnsetOrNatural {value : Json} (unfit : ¬ value.IsUnsetOrNatural) :
    value.isNull = false := by
  rw [← Bool.not_eq_true, Json.isNull_iff]
  exact fun unset => unfit (Or.inl unset)

theorem exists_checkSkip {skip : Json} (fits : skip.IsUnsetOrNatural) :
    ∃ start, checkSkip (skip.orElse (.int 0)) = .ok start := by
  rcases fits with rfl | ⟨number, rfl⟩
  · exact ⟨0, rfl⟩
  · exact ⟨number, rfl⟩

theorem checkSkip_refuses {skip : Json} (unfit : ¬ skip.IsUnsetOrNatural) :
    checkSkip (skip.orElse (.int 0)) = .error (.badSkip skip) := by
  rw [Json.orElse, isNull_of_not_isUnsetOrNatural unfit, checkSkip]
  simp [natural?_of_not_isUnsetOrNatural unfit]

theorem checkLimit_refuses {limit : Json} (unfit : ¬ limit.IsUnsetOrNatural) :
    checkLimit limit = .error (.badLimit limit) := by
  simp [checkLimit, isNull_of_not_isUnsetOrNatural unfit, natural?_of_not_isUnsetOrNatural unfit]

end Records

namespace Operation

variable {settings : ServiceSettings} {limit : Json}

theorem capLimit_bool_int (flag : Bool) (largest : Int) :
    capLimit (.bool flag) (.int largest) =
      .ok (if largest < (if flag then 1 else 0) then .int largest else .bool flag) := by
  simp only [capLimit, Json.key, Quantity.lt_ofInt, decide_eq_true_eq]

/-- A limit that the settings accept is capped at a natural number. -/
theorem exists_capLimit (sized : settings.SetsSizes) (accepted : settings.AcceptsLimit limit) :
    ∃ number : Nat, capLimit (limit.orElse settings.defaultLimit) settings.maxLimit =
      .ok (.int number) := by
  rcases accepted with (rfl | ⟨number, rfl⟩) | ⟨rfl, none⟩
  · rcases sized.byDefault with ⟨size, byDefault⟩
    rw [byDefault]
    exact ⟨_, capLimit_natural sized.capped size⟩
  · exact ⟨_, capLimit_natural sized.capped number⟩
  · refine ⟨0, ?_⟩
    rw [none]
    exact capLimit_bool_int true 0

/-- A limit that the settings do not accept is not capped, since only a natural number can be above
the cap, or `true` if the cap is zero. -/
theorem capLimit_of_not_acceptsLimit (sized : settings.SetsSizes)
    (unfit : ¬ settings.AcceptsLimit limit) :
    capLimit (limit.orElse settings.defaultLimit) settings.maxLimit = .ok limit := by
  have given := Records.isNull_of_not_isUnsetOrNatural fun fits => unfit (Or.inl fits)
  rw [Json.orElse, given, if_neg (by simp)]
  rcases sized.capped with unbounded | ⟨largest, bound⟩
  · rw [unbounded]
    rfl
  · rw [bound]
    cases limit with
    | int count =>
        rw [capLimit_int_int, if_neg]
        intro below
        apply unfit
        exact Or.inl (Or.inr ⟨count.toNat, by rw [Int.toNat_of_nonneg (by omega)]⟩)
    | bool flag =>
        rw [capLimit_bool_int, if_neg]
        intro below
        cases flag with
        | false =>
            have negative : (largest : Int) < 0 := below
            omega
        | true =>
            have none : largest = 0 := by
              have small : (largest : Int) < 1 := below
              omega
            exact unfit (Or.inr ⟨rfl, by rw [bound, none]; rfl⟩)
    | null => cases given
    | double => rfl
    | text => rfl
    | array => rfl
    | object => rfl
    | foreign => rfl

end Operation

namespace Request

variable {request : Request} {store : Store} {className : String} {predicates : List Predicate}

theorem exists_setsWindow (sized : request.settings.SetsSizes)
    (limited : request.settings.AcceptsLimit (request.parameter "limit"))
    (skipped : (request.parameter "skip").IsUnsetOrNatural) :
    ∃ size start, request.SetsWindow size start := by
  rcases Operation.exists_capLimit sized limited with ⟨number, capped⟩
  rcases Records.exists_checkSkip skipped with ⟨start, checked⟩
  exact ⟨some number, start, ⟨.int number, capped, rfl⟩, checked⟩

/-- A filter parameter that compiles is the filter of the request. -/
theorem compile_filterOf_eq_ok (compiled : request.compiledFilter = .ok predicates) :
    Filter.compile request.settings.strictFilters (Operation.filterOf request.given) =
      .ok predicates := by
  rw [← compiled]
  apply compile_filterOf
  intro passes
  rw [compiledFilter, Filter.compile_of_passesForEmpty passes] at compiled
  cases compiled

end Request

namespace Store

variable {store : Store} {request : Request} {className : String} {predicates : List Predicate}

/-- Where the sizes of pages are natural numbers, a request for a page of a class whose records can
be shown, with a filter that compiles, is answered exactly if its limit and the number of records to
skip are each unset or a natural number; but `true` is a limit too where the largest page has no
records. Otherwise it fails on the limit, or else on the number to skip. -/
theorem page_answered_iff (sized : request.settings.SetsSizes)
    (encodable : ∀ record ∈ store.recordsOf (.text className),
      ∃ entries, record.encode = .ok entries)
    (named : request.name = .text "readTable")
    (inClass : request.parameter "className" = .text className) (set : className ≠ "")
    (compiled : request.compiledFilter = .ok predicates) :
    ((∃ answer, request.outcome store = .ok answer) ↔
      request.settings.AcceptsLimit (request.parameter "limit") ∧
        (request.parameter "skip").IsUnsetOrNatural) ∧
    (¬ request.settings.AcceptsLimit (request.parameter "limit") →
      request.outcome store = .error (.labelled "Failed to read records"
        (.invalid (.badLimit (request.parameter "limit"))))) ∧
    (request.settings.AcceptsLimit (request.parameter "limit") →
      ¬ (request.parameter "skip").IsUnsetOrNatural →
      request.outcome store = .error (.labelled "Failed to read records"
        (.invalid (.badSkip (request.parameter "skip"))))) := by
  have badLimit : ¬ request.settings.AcceptsLimit (request.parameter "limit") →
      request.outcome store = .error (.labelled "Failed to read records"
        (.invalid (.badLimit (request.parameter "limit")))) := by
    intro unfit
    have capped := Operation.capLimit_of_not_acceptsLimit sized unfit
    apply Request.outcome_of_refused_readTable named inClass set capped
    rw [Records.checkReading, Records.checkLimit_refuses fun fits => unfit (Or.inl fits)]
    rfl
  have badSkip : request.settings.AcceptsLimit (request.parameter "limit") →
      ¬ (request.parameter "skip").IsUnsetOrNatural →
      request.outcome store = .error (.labelled "Failed to read records"
        (.invalid (.badSkip (request.parameter "skip")))) := by
    intro limited unfit
    rcases Operation.exists_capLimit sized limited with ⟨number, capped⟩
    apply Request.outcome_of_refused_readTable named inClass set capped
    rw [Records.checkReading, Records.checkSkip_refuses unfit]
    rfl
  refine ⟨⟨?_, ?_⟩, badLimit, badSkip⟩
  · rintro ⟨answer, answered⟩
    by_contra unfit
    by_cases limited : request.settings.AcceptsLimit (request.parameter "limit")
    · have failed := badSkip limited fun skipped => unfit ⟨limited, skipped⟩
      rw [answered] at failed
      cases failed
    · rw [badLimit limited] at answered
      cases answered
  · rintro ⟨limited, skipped⟩
    rcases Request.exists_setsWindow sized limited skipped with ⟨size, start, window⟩
    have asks : request.AsksPage className predicates size start :=
      ⟨named, inClass, set, Request.compile_filterOf_eq_ok compiled, window.limited, window.skipped⟩
    rcases asks.exists_page encodable with ⟨data, _, answered⟩
    exact ⟨_, answered⟩

/-- A request for a page of the records of the class `A`, to a service with a largest page size. -/
def paging (largest limit skip : Json) : Request :=
  .asking { maxLimit := largest } { instant := 0, offset := 0 } {} "readTable"
    [("className", .text "A"), ("limit", limit), ("skip", skip)]

theorem setsSizes_paging (largest : Nat) (limit skip : Json) :
    (paging (.int largest) limit skip).settings.SetsSizes :=
  ⟨⟨100, rfl⟩, Or.inr ⟨largest, rfl⟩⟩

/-- A number that is larger than a page is a limit, and so is `true` if a page has no records. With
pages of one record `true` is none, and nothing is negative. -/
theorem true_pages_nothing :
    (∀ record ∈ (({} : Store).after twoFilings).recordsOf (.text "A"),
      ∃ entries, record.encode = .ok entries) ∧
    (∃ answer, (paging (.int 1) (.int 2) .null).outcome (({} : Store).after twoFilings) =
      .ok answer) ∧
    (∃ answer, (paging (.int 0) (.bool true) .null).outcome (({} : Store).after twoFilings) =
      .ok answer) ∧
    (paging (.int 1) (.bool true) .null).outcome (({} : Store).after twoFilings) =
      .error (.labelled "Failed to read records" (.invalid (.badLimit (.bool true)))) ∧
    (paging (.int 1) .null (.int (-1))).outcome (({} : Store).after twoFilings) =
      .error (.labelled "Failed to read records" (.invalid (.badSkip (.int (-1))))) := by
  have set : "A" ≠ "" := by decide
  have answers (largest : Nat) (limit skip : Json) :=
    page_answered_iff (setsSizes_paging largest limit skip) encodable_twoFilings rfl rfl set rfl
  refine ⟨encodable_twoFilings, (answers 1 (.int 2) .null).1.mpr ?_,
    (answers 0 (.bool true) .null).1.mpr ?_, (answers 1 (.bool true) .null).2.1 ?_,
    (answers 1 .null (.int (-1))).2.2 ?_ ?_⟩
  · exact ⟨Or.inl (Or.inr ⟨2, rfl⟩), Or.inl rfl⟩
  · exact ⟨Or.inr ⟨rfl, rfl⟩, Or.inl rfl⟩
  · rintro ((null | ⟨number, natural⟩) | ⟨_, none⟩)
    · cases null
    · cases natural
    · cases none
  · exact Or.inl (Or.inl rfl)
  · rintro (null | ⟨number, natural⟩)
    · cases null
    · cases natural

/-- The limit `true` is accepted where pages have no records. -/
theorem not_forall_window_natural :
    ¬ ∀ (requests : List Request) (request : Request) (className : String)
      (predicates : List Predicate) (answer : Json),
      request.settings.SetsSizes →
      (∀ record ∈ (({} : Store).after requests).recordsOf (.text className),
        ∃ entries, record.encode = .ok entries) →
      request.name = .text "readTable" →
      request.parameter "className" = .text className → className ≠ "" →
      request.compiledFilter = .ok predicates →
      request.outcome (({} : Store).after requests) = .ok answer →
        (request.parameter "limit").IsUnsetOrNatural := by
  intro natural
  have capped := Operation.capLimit_bool_int true 0
  have asks : (paging (.int 0) (.bool true) .null).AsksPage "A" [] (some 0) 0 :=
    ⟨rfl, rfl, by decide, rfl, ⟨.int 0, capped, rfl⟩, rfl⟩
  rcases asks.exists_page encodable_twoFilings with ⟨data, _, answered⟩
  have fits := natural twoFilings (paging (.int 0) (.bool true) .null) "A" [] _
    (setsSizes_paging 0 _ _) encodable_twoFilings rfl rfl (by decide) rfl answered
  rcases fits with null | ⟨number, count⟩
  · cases null
  · cases count

end Store

end TypedRecords
