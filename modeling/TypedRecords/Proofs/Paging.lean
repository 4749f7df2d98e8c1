import TypedRecords.Proofs.ClassListing
import TypedRecords.Proofs.CreationOrder

/-!
# Reading page by page

A caller reads a class page by page: each time it skips as many records as it has been answered so
far, and it ends when an answer has no records. `Request.Pages` says which pages it is answered.
A caller comes to an end exactly if the class is named by a text. The pages are determined then and
together show the records that pass the filter, each once and in the order of their creation; a
count answers with their number. A class of another name comes from a batch without records, and
neither the pages nor the count are ever answered.
-/

namespace Except

variable {Error Item Result : Type}

/-- The results of a part of the items are that part of the results. -/
theorem mapM_take_drop {check : Item → Except Error Result} {items : List Item}
    {results : List Result} (checked : items.mapM check = .ok results) (size start : Nat) :
    ((items.drop start).take size).mapM check = .ok ((results.drop start).take size) := by
  rw [mapM_eq_ok_iff] at checked ⊢
  exact List.forall₂_take _ (List.forall₂_drop _ checked)

end Except

namespace TypedRecords

theorem Answer.page_injective {className other : String} {first second : List Json}
    (same : page className first = page other second) : className = other ∧ first = second := by
  simp only [page, Json.object.injEq, List.cons.injEq, Prod.mk.injEq, Json.array.injEq,
    Json.text.injEq] at same
  exact ⟨same.2.1.2, same.2.2.2.1.2⟩

namespace Request

variable {ask : Nat → Request} {className : String} {predicates : List Predicate} {store : Store}

/-- The pages that a caller is answered who starts after `skip` records, each time skips as many
more as it was answered last, and ends when it is answered none. -/
inductive Pages (ask : Nat → Request) (className : String) : Store → Nat → List (List Json) → Prop
  where
  | done {store : Store} {skip : Nat}
      (answered : (ask skip).outcome store = .ok (Answer.page className [])) :
      Pages ask className store skip []
  | more {store : Store} {skip : Nat} {data : List Json} {rest : List (List Json)}
      (answered : (ask skip).outcome store = .ok (Answer.page className data))
      (filled : data ≠ [])
      (later : Pages ask className ((ask skip).next store) (skip + data.length) rest) :
      Pages ask className store skip (data :: rest)

theorem Pages.eq_of_pages {skip : Nat} {pages others : List (List Json)}
    (first : Pages ask className store skip pages)
    (second : Pages ask className store skip others) : others = pages := by
  induction first generalizing others with
  | done answered =>
      cases second with
      | done _ => rfl
      | more answeredAgain filled _ =>
          rw [answered] at answeredAgain
          exact absurd (Answer.page_injective (Except.ok.inj answeredAgain)).2.symm filled
  | more answered filled _ ih =>
      cases second with
      | done answeredAgain =>
          rw [answered] at answeredAgain
          exact absurd (Answer.page_injective (Except.ok.inj answeredAgain)).2 filled
      | more answeredAgain _ later =>
          rw [answered] at answeredAgain
          cases (Answer.page_injective (Except.ok.inj answeredAgain)).2
          rw [ih later]

/-- The first answer has a page of the class that the caller is told of. -/
theorem Pages.exists_answered {skip : Nat} {pages : List (List Json)}
    (answered : Pages ask className store skip pages) :
    ∃ data, (ask skip).outcome store = .ok (Answer.page className data) := by
  cases answered with
  | done answered => exact ⟨[], answered⟩
  | more answered _ _ => exact ⟨_, answered⟩

section Asked

variable {size : Nat} {wires : List Json}

/-- A page shows the part of what is to be shown that lies in its window. -/
theorem outcome_page {request : Request} {skip : Nat}
    (asks : request.AsksPage className predicates (some size) skip)
    (sent : (store.matching (.text className) predicates).mapM Record.sent = .ok wires) :
    request.outcome store = .ok (Answer.page className ((wires.drop skip).take size)) := by
  rw [outcome, asks.run_eq, Store.page_eq]
  simp only [Except.mapM_take_drop sent]
  rfl

theorem AsksPage.next_eq {request : Request} {start : Nat} {limit : Option Nat}
    (asks : request.AsksPage className predicates limit start) (store : Store) :
    request.next store = store := by
  rw [next, asks.run_eq]
  rfl

/-- From any position on, the pages show what is left. The induction is on the number of records
that are left. -/
theorem exists_pages (positive : 1 ≤ size)
    (asks : ∀ skip, (ask skip).AsksPage className predicates (some size) skip)
    (sent : (store.matching (.text className) predicates).mapM Record.sent = .ok wires)
    (skip : Nat) :
    ∃ pages, Pages ask className store skip pages ∧ pages.flatten = wires.drop skip ∧
      ∀ page ∈ pages, page.length ≤ size := by
  induction left : wires.length - skip using Nat.strongRecOn generalizing skip with
  | ind left ih =>
      have answered := outcome_page (asks skip) sent
      by_cases rest : wires.drop skip = []
      · rw [rest, List.take_nil] at answered
        exact ⟨[], .done answered, rest.symm, by simp⟩
      · have shown : ((wires.drop skip).take size).length = min size (wires.length - skip) := by
          rw [List.length_take, List.length_drop]
        have remain : skip < wires.length := by
          simpa [List.drop_eq_nil_iff] using rest
        have filled : (wires.drop skip).take size ≠ [] := by
          intro empty
          rw [empty, List.length_nil] at shown
          omega
        rcases ih _ (by omega) (skip + ((wires.drop skip).take size).length) rfl with
          ⟨pages, later, flatten, short⟩
        rw [← (asks skip).next_eq store] at later
        refine ⟨_, .more answered filled later, ?_, ?_⟩
        · rw [List.flatten_cons, flatten, ← List.drop_drop]
          exact List.prefix_iff_eq_append.mp (List.take_prefix _ _)
        · intro page member
          rcases List.mem_cons.mp member with rfl | other
          · exact List.length_take_le _ _
          · exact short page other

end Asked

end Request

namespace Store

/-- A request for the records of a class that pass a filter, after those that are skipped. -/
def turning (settings : ServiceSettings) (now : Moment) (ids : IdSource) (className : Json)
    (filters : List (String × Json)) (limit skip : Nat) : Request :=
  .asking settings now ids "readTable" [("className", className),
    ("filters", .object filters), ("limit", .int limit), ("skip", .int skip)]

section Turned

variable {settings : ServiceSettings} {filters : List (String × Json)} {predicates : List Predicate}
  {limit : Nat} {store : Store} {key : Key} {className : Json}

theorem asksPage_turning {name : String} (allowed : settings.AllowsRecords) (set : name ≠ "")
    (compiled : Filter.compile settings.strictFilters (.object filters) = .ok predicates)
    (now : Moment) (ids : IdSource) (limit skip : Nat) :
    (turning settings now ids (.text name) filters limit skip).AsksPage name predicates
      (some (settings.pageSize limit)) skip := by
  refine Request.asksPage_asking allowed rfl set ?_ rfl rfl
  rwa [Operation.filterOf_object rfl]

/-- The pages of a class that is named by a text show the records that pass the filter. -/
theorem exists_pages_of_text {name : String} (allowed : settings.AllowsRecords) (set : name ≠ "")
    (compiled : Filter.compile settings.strictFilters (.object filters) = .ok predicates)
    (encodable : ∀ record ∈ store.recordsOf (.text name), ∃ entries, record.encode = .ok entries)
    (positive : 1 ≤ limit) (clock : Nat → Moment) (ids : Nat → IdSource) :
    ∃ pages, Request.Pages (fun skip => turning settings (clock skip) (ids skip) (.text name)
        filters limit skip) name store 0 pages ∧
      (∀ page ∈ pages, page.length ≤ settings.pageSize limit) ∧
      (store.matching (.text name) predicates).mapM Record.sent = .ok pages.flatten := by
  have sendable : ∀ record ∈ store.matching (.text name) predicates,
      ∃ wire, record.sent = .ok wire := by
    intro record member
    exact Record.exists_sent_iff.mpr (encodable record (List.mem_of_mem_filter member))
  rcases Except.exists_mapM_iff.mpr sendable with ⟨wires, sent⟩
  have asks := fun skip =>
    asksPage_turning allowed set compiled (clock skip) (ids skip) limit skip
  rcases Request.exists_pages (ServiceSettings.one_le_pageSize allowed positive) asks sent 0 with
    ⟨pages, answered, flatten, short⟩
  exact ⟨pages, answered, short, by rw [sent, flatten, List.drop_zero]⟩

/-- A caller that reads a class page by page is answered only if the class is named by a text. -/
theorem eq_text_of_pages {name : String} {clock : Nat → Moment} {ids : Nat → IdSource}
    {pages : List (List Json)}
    (answered : Request.Pages (fun skip => turning settings (clock skip) (ids skip) className
      filters limit skip) name store 0 pages) : ∃ text, className = .text text := by
  rcases answered.exists_answered with ⟨data, first⟩
  refine Request.Reads.exists_text ⟨Or.inl rfl, ?_⟩ first
  rw [turning, Request.parameter, Request.given_asking]
  rfl

/-- Only a class that is named by a text has records. -/
theorem WellFormed.recordsOf_eq_nil (wellFormed : store.WellFormed)
    (keyed : className.key = .ok key) (other : ∀ name, className ≠ .text name) :
    store.recordsOf key = [] := by
  rw [List.eq_nil_iff_forall_not_mem]
  intro record member
  rcases (mem_recordsOf_iff (wellFormed.filedOnce key)).mp member with ⟨objectId, found⟩
  rw [(wellFormed.records key objectId record found).className] at keyed
  exact other record.className (Json.eq_text_of_key keyed)

end Turned

/-- In a store that a run of requests leads to, a caller that reads a class page by page comes to an
end exactly if the class is named by a text. The pages of such a caller are determined, and none is
larger than allowed. Together they show the records that pass the filter, each once and in the
order of their creation, and a count answers with the number of these records, whatever else is
asked of it. A class of another name was brought into existence by a batch without records, has no
records itself, and is neither read nor counted with success. -/
theorem pages_complete_iff (requests : List Request) {className : Json} {key : Key}
    (keyed : className.key = .ok key)
    (present : key ∈ Entries.keys (({} : Store).after requests).schemas)
    {settings : ServiceSettings} (allowed : settings.AllowsRecords)
    {filters : List (String × Json)} {predicates : List Predicate}
    (compiled : Filter.compile settings.strictFilters (.object filters) = .ok predicates)
    (encodable : ∀ record ∈ (({} : Store).after requests).recordsOf key,
      ∃ entries, record.encode = .ok entries) {limit : Nat} (positive : 1 ≤ limit)
    (clock : Nat → Moment) (ids : Nat → IdSource) :
    ((∃ name pages, Request.Pages (fun skip => turning settings (clock skip) (ids skip) className
        filters limit skip) name (({} : Store).after requests) 0 pages) ↔
      ∃ name, className = .text name) ∧
      (∀ name pages, Request.Pages (fun skip => turning settings (clock skip) (ids skip) className
          filters limit skip) name (({} : Store).after requests) 0 pages →
        className = .text name ∧
        (∀ others, Request.Pages (fun skip => turning settings (clock skip) (ids skip) className
          filters limit skip) name (({} : Store).after requests) 0 others → others = pages) ∧
        (∀ page ∈ pages, page.length ≤ settings.pageSize limit) ∧
        ∃ records, records.mapM Record.sent = .ok pages.flatten ∧
          (({} : Store).after requests).Selects key predicates records ∧
          ∀ now source parameters, Json.entry parameters "className" = className →
            Json.entry parameters "filters" = .object filters →
              (Request.asking settings now source "countRecords" parameters).outcome
                (({} : Store).after requests) =
                  .ok (.object [("success", .bool true), ("className", className),
                    ("count", .int records.length)])) ∧
      ((∀ name, className ≠ .text name) →
        (∃ request ∈ requests, request.BatchesNothing key) ∧
        (({} : Store).after requests).recordsOf key = [] ∧
        ∀ request : Request, request.Reads className →
          ∃ failure, request.outcome (({} : Store).after requests) = .error failure) := by
  have wellFormed := WellFormed.empty.after requests
  have ordered := inOrder_after requests
  refine ⟨⟨fun ⟨name, pages, answered⟩ => eq_text_of_pages answered, ?_⟩, ?_, ?_⟩
  · rintro ⟨name, rfl⟩
    cases keyed
    have set := ne_empty_of_mem_schemas present
    rcases exists_pages_of_text allowed set compiled encodable positive clock ids with
      ⟨pages, answered, _⟩
    exact ⟨name, pages, answered⟩
  · intro name pages answered
    rcases eq_text_of_pages answered with ⟨text, rfl⟩
    cases keyed
    have set := ne_empty_of_mem_schemas present
    rcases exists_pages_of_text allowed set compiled encodable positive clock ids with
      ⟨shown, answeredAgain, short, sent⟩
    rcases answered.exists_answered with ⟨data, first⟩
    rcases answeredAgain.exists_answered with ⟨others, again⟩
    rw [again, Except.ok.injEq] at first
    cases (Answer.page_injective first).1
    cases answered.eq_of_pages answeredAgain
    refine ⟨rfl, fun others another => answered.eq_of_pages another, short, _, sent,
      selects_matching wellFormed ordered _ _, ?_⟩
    intro now source parameters inClass filtered
    rw [← Operation.filterOf_object filtered] at compiled
    rw [Request.outcome, (Request.asksCount_asking inClass set compiled).run_eq]
    rfl
  · intro other
    refine ⟨?_, wellFormed.recordsOf_eq_nil keyed other, ?_⟩
    · rcases isName_or_batchesNothing requests present with ⟨name, rfl, _⟩ | batched
      · exact absurd (Json.eq_text_of_key keyed) (other name)
      · exact batched
    · intro request reads
      rcases answered : request.outcome (({} : Store).after requests) with failure | answer
      · exact ⟨failure, rfl⟩
      · rcases reads.exists_text answered with ⟨name, named⟩
        exact absurd named (other name)

/-- Requests for three records, two of which are of one kind. -/
def threeOfTwoKinds : List Request :=
  ["odd", "even", "even"].map fun kind => .call "createRecord"
    [("className", .text "A"), ("data", .object [("kind", .text kind)])] []

/-- The parameters of a request about the records of one kind. -/
def ofOneKind : List (String × Json) :=
  [("className", .text "A"), ("filters", .object [("kind", .text "even")])]

/-- The two records of one kind are read on pages of one, though pages of two are asked for. -/
theorem two_of_three_paged :
    (Json.text "A").key = .ok (.text "A") ∧
      .text "A" ∈ Entries.keys (({} : Store).after threeOfTwoKinds).schemas ∧
      ({ maxLimit := .int 1 } : ServiceSettings).AllowsRecords ∧
      Filter.compile false (.object [("kind", .text "even")]) =
        .ok [{ field := "kind", operator := .eq, operand := .text "even" }] ∧
      (∀ record ∈ (({} : Store).after threeOfTwoKinds).recordsOf (.text "A"),
        ∃ entries, record.encode = .ok entries) ∧ 1 ≤ 2 ∧
      ∃ pages, Request.Pages (fun skip => turning { maxLimit := .int 1 }
          { instant := 0, offset := 0 } {} (.text "A") [("kind", .text "even")] 2 skip) "A"
            (({} : Store).after threeOfTwoKinds) 0 pages ∧
        (∀ page ∈ pages, page.length ≤ 1) ∧ pages.flatten.length = 2 := by
  have keyed : (Json.text "A").key = .ok (.text "A") := rfl
  have present : .text "A" ∈ Entries.keys (({} : Store).after threeOfTwoKinds).schemas := by
    decide +kernel
  have allowed : ({ maxLimit := .int 1 } : ServiceSettings).AllowsRecords :=
    Or.inr ⟨1, by decide, rfl⟩
  have compiled : Filter.compile false (.object [("kind", .text "even")]) =
      .ok [{ field := "kind", operator := .eq, operand := .text "even" }] := rfl
  have encodable : ∀ record ∈ (({} : Store).after threeOfTwoKinds).recordsOf (.text "A"),
      ∃ entries, record.encode = .ok entries := by
    have writable : ((({} : Store).after threeOfTwoKinds).recordsOf (.text "A")).all
        Record.isWritable = true := by decide +kernel
    intro record member
    exact (exists_encode_iff_of_mem_recordsOf (WellFormed.empty.after _) member).mpr
      (List.all_eq_true.mp writable record member)
  have positive : 1 ≤ 2 := by decide
  have two : ((({} : Store).after threeOfTwoKinds).matching (.text "A")
      [{ field := "kind", operator := .eq, operand := .text "even" }]).length = 2 := by
    decide +kernel
  have asked : (Request.asking { maxLimit := .int 1 } { instant := 0, offset := 0 } {}
      "countRecords" ofOneKind).AsksCount "A"
        [{ field := "kind", operator := .eq, operand := .text "even" }] :=
    Request.asksCount_asking rfl (by decide) compiled
  rcases pages_complete_iff threeOfTwoKinds keyed present allowed compiled encodable positive
    (fun _ => { instant := 0, offset := 0 }) (fun _ => {}) with ⟨comes, shows, _⟩
  rcases comes.mpr ⟨"A", rfl⟩ with ⟨name, pages, answered⟩
  rcases shows name pages answered with ⟨named, _, short, records, sent, _, count⟩
  cases named
  refine ⟨keyed, present, allowed, compiled, encodable, positive, pages, answered, short, ?_⟩
  have counted := count { instant := 0, offset := 0 } {} ofOneKind rfl rfl
  rw [Request.outcome, asked.run_eq, two] at counted
  have number : (2 : Int) = records.length := by simpa [Answer.counted] using counted
  rw [Except.length_of_mapM_eq_ok sent]
  exact (Int.ofNat.inj number).symm

/-- A class that has a number for its name is in the store after a batch without records, and though
it has no record that cannot be shown, no caller comes to an end with it. -/
theorem not_forall_paged :
    ¬ ∀ (requests : List Request) (className : Json) (key : Key), className.key = .ok key →
      key ∈ Entries.keys (({} : Store).after requests).schemas →
        (∀ record ∈ (({} : Store).after requests).recordsOf key,
          ∃ entries, record.encode = .ok entries) →
            ∃ name pages, Request.Pages (fun skip => turning {} { instant := 0, offset := 0 } {}
              className [] 1 skip) name (({} : Store).after requests) 0 pages := by
  intro paged
  have present := batchesNothing_five.mem_schemas ({} : Store)
  have wellFormed := WellFormed.empty.after [batchingNothing (.int 5)]
  have nothing := wellFormed.recordsOf_eq_nil batchesNothing_five.keyed nofun
  rcases paged [batchingNothing (.int 5)] (.int 5) _ batchesNothing_five.keyed present
    (by rw [nothing]; exact List.forall_mem_nil _) with ⟨name, pages, answered⟩
  rcases eq_text_of_pages answered with ⟨text, impossible⟩
  cases impossible

end Store

end TypedRecords
