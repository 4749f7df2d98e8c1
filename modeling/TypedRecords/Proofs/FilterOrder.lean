import Mathlib.Data.List.Forall2
import TypedRecords.Proofs.CreationOrder
import TypedRecords.Proofs.ReadBack

/-!
# The order of the keys of a filter

A filter is a mapping: in which order it names its fields, and a field its operators, does not
matter. Operators are looked up one by one in an order of their own, so with the operators of its
fields in another order a filter compiles to the same predicates or is refused for the same reason.
With its fields in another order it compiles to the same predicates in another order, and what is
selected are the records that satisfy all of them. For the same reason two filters on different
fields, put together, select what both of them select.
-/

namespace TypedRecords

namespace Entries

variable {Name Content : Type} [DecidableEq Name] {entries : List (Name × Content)}

theorem lookup_of_perm {others : List (Name × Content)} (distinct : (keys entries).Nodup)
    (perm : entries.Perm others) (key : Name) : others.lookup key = entries.lookup key := by
  have othersDistinct : (keys others).Nodup := (perm.map Prod.fst).nodup_iff.mp distinct
  apply Option.ext
  intro content
  constructor
  · intro found
    apply lookup_of_mem distinct
    exact perm.mem_iff.mpr (mem_of_lookup found)
  · intro found
    apply lookup_of_mem othersDistinct
    exact perm.mem_iff.mp (mem_of_lookup found)

/-- Entries with other keys come after those that are there. -/
theorem merge_eq_append {patch : List (Name × Content)} (distinct : (keys patch).Nodup)
    (apart : ∀ key ∈ keys patch, key ∉ keys entries) : merge entries patch = entries ++ patch := by
  induction patch generalizing entries with
  | nil => simp [merge]
  | cons entry rest ih =>
      rw [keys, List.map_cons, List.nodup_cons] at distinct
      have absent : entry.1 ∉ keys entries := by
        apply apart
        simp [keys]
      have placed : merge entries (entry :: rest) = merge (entries ++ [entry]) rest := by
        rw [merge, List.foldl_cons, set_of_not_mem absent]
        rfl
      rw [placed, ih distinct.2, List.append_assoc, List.singleton_append]
      intro key later earlier
      simp only [keys, List.map_append, List.map_cons, List.map_nil, List.mem_append,
        List.mem_singleton] at earlier
      rcases earlier with before | rfl
      · exact apart key (by simpa [keys] using Or.inr (List.mem_map.mp later)) before
      · exact distinct.1 later

end Entries

namespace Filter

variable {strict : Bool} {entries others : List (String × Json)}
  {predicates further : List Predicate}

/-- The operators that do not exist are told in order, so it does not matter how they stand. -/
theorem unknownKeys_of_perm (perm : entries.Perm others) :
    unknownKeys others = unknownKeys entries := by
  have listed : (unknownKeys others).Perm (unknownKeys entries) := by
    apply (List.mergeSort_perm _ _).trans
    apply List.Perm.trans _ (List.mergeSort_perm _ _).symm
    exact (perm.symm.map Prod.fst).filter _
  apply listed.eq_of_pairwise _ (pairwise_mergeSort_names _) (pairwise_mergeSort_names _)
  intro left right _ _ le ge
  exact String.le_antisymm le ge

/-- Two contents of a field are the same, or they are objects of the same operators, none of them
given twice, in two orders. -/
inductive SameOperators : Json → Json → Prop where
  | same (content : Json) : SameOperators content content
  | reordered {entries others : List (String × Json)}
      (operators : isOperatorObject (.object entries) = true)
      (distinct : (Entries.keys entries).Nodup) (perm : entries.Perm others) :
      SameOperators (.object entries) (.object others)

theorem SameOperators.compileField_eq {content other : Json} (same : SameOperators content other)
    (strict : Bool) (field : String) :
    compileField strict field other = compileField strict field content := by
  cases same with
  | same => rfl
  | @reordered entries others operators distinct perm =>
      have looked := Entries.lookup_of_perm distinct perm
      have othersToo : isOperatorObject (.object others) = true := by
        simpa [isOperatorObject, Json.isTagged, looked] using operators
      simp only [compileField, operators, othersToo, ↓reduceIte, compileOperatorObject,
        unknownKeys_of_perm perm, compileOperators_congr fun entry _ => looked entry.1]

/-- Two filters have the same fields in the same order, each with the same operators in some
order. -/
def SameFields (entries others : List (String × Json)) : Prop :=
  List.Forall₂ (fun entry other => other.1 = entry.1 ∧ SameOperators entry.2 other.2) entries others

theorem SameFields.compileEntries_eq (same : SameFields entries others) (strict : Bool) :
    compileEntries strict others = compileEntries strict entries := by
  induction same with
  | nil => rfl
  | @cons entry other _ _ pair _ ih =>
      rcases entry with ⟨field, content⟩
      rcases other with ⟨_, otherContent⟩
      rcases pair with ⟨rfl, operators⟩
      rw [compileEntries, compileEntries, operators.compileField_eq, ih]

/-- Two filters have the same fields, each with the same operators, all in some order. -/
def Rearranges (entries others : List (String × Json)) : Prop :=
  ∃ middle, entries.Perm middle ∧ SameFields middle others

theorem exists_compileEntries_of_perm (perm : entries.Perm others)
    (compiled : compileEntries strict entries = .ok predicates) :
    ∃ rearranged, compileEntries strict others = .ok rearranged ∧ predicates.Perm rearranged := by
  induction perm generalizing predicates with
  | nil => exact ⟨predicates, compiled, .refl _⟩
  | cons entry _ ih =>
      rcases compileEntries_cons_eq_ok_iff.mp compiled with ⟨first, later, here, more, rfl⟩
      rcases ih more with ⟨rearranged, done, perm⟩
      refine ⟨first ++ rearranged, ?_, perm.append_left first⟩
      exact compileEntries_cons_eq_ok_iff.mpr ⟨first, rearranged, here, done, rfl⟩
  | swap one other rest =>
      rcases compileEntries_cons_eq_ok_iff.mp compiled with ⟨first, _, here, more, rfl⟩
      rcases compileEntries_cons_eq_ok_iff.mp more with ⟨second, later, next, last, rfl⟩
      refine ⟨second ++ (first ++ later), ?_, ?_⟩
      · apply compileEntries_cons_eq_ok_iff.mpr
        refine ⟨second, first ++ later, next, ?_, rfl⟩
        exact compileEntries_cons_eq_ok_iff.mpr ⟨first, later, here, last, rfl⟩
      · rw [← List.append_assoc, ← List.append_assoc]
        exact List.perm_append_comm.append_right later
  | trans _ _ ihFirst ihSecond =>
      rcases ihFirst compiled with ⟨_, middle, firstPerm⟩
      rcases ihSecond middle with ⟨rearranged, done, secondPerm⟩
      exact ⟨rearranged, done, firstPerm.trans secondPerm⟩

theorem Rearranges.exists_compile (rearranges : Rearranges entries others)
    (compiled : compile strict (.object entries) = .ok predicates) :
    ∃ rearranged, compile strict (.object others) = .ok rearranged ∧
      predicates.Perm rearranged := by
  rcases rearranges with ⟨middle, perm, same⟩
  rcases exists_compileEntries_of_perm perm compiled with ⟨rearranged, done, predicatesPerm⟩
  refine ⟨rearranged, ?_, predicatesPerm⟩
  rw [compile, same.compileEntries_eq]
  exact done

theorem Rearranges.exists_compile_back (rearranges : Rearranges entries others)
    (compiled : compile strict (.object others) = .ok predicates) :
    ∃ arranged, compile strict (.object entries) = .ok arranged := by
  rcases rearranges with ⟨middle, perm, same⟩
  rw [compile, same.compileEntries_eq] at compiled
  rcases exists_compileEntries_of_perm perm.symm compiled with ⟨arranged, done, _⟩
  exact ⟨arranged, done⟩

theorem compile_append (compiled : compile strict (.object entries) = .ok predicates)
    (compiledFurther : compile strict (.object others) = .ok further) :
    compile strict (.object (entries ++ others)) = .ok (predicates ++ further) := by
  rw [compile] at compiled compiledFurther ⊢
  induction entries generalizing predicates with
  | nil =>
      cases compiled
      exact compiledFurther
  | cons entry rest ih =>
      rcases compileEntries_cons_eq_ok_iff.mp compiled with ⟨first, later, here, more, rfl⟩
      rw [List.cons_append, List.append_assoc]
      exact compileEntries_cons_eq_ok_iff.mpr ⟨first, later ++ further, here, ih more, rfl⟩

end Filter

/-- The records of the first list whose ids the second one has too, in the order of the first. -/
def Record.common (first second : List Record) : List Record :=
  first.filter fun record => second.any (·.objectId == record.objectId)

namespace Store

variable {store : Store} {predicates others : List Predicate}

theorem matching_of_perm (perm : predicates.Perm others) (store : Store) (key : Key) :
    store.matching key others = store.matching key predicates := by
  simp only [matching, perm.all_eq]

theorem select_of_perm (supported : ∀ predicate ∈ predicates, predicate.Supported)
    (perm : predicates.Perm others) (store : Store) (className : Json) :
    store.select className others = store.select className predicates := by
  have othersSupported : ∀ predicate ∈ others, predicate.Supported := by
    intro predicate member
    exact supported predicate (perm.mem_iff.mpr member)
  rcases keyed : className.key with error | key
  · rw [select, select, keyed]
    rfl
  · rw [select_eq keyed supported, select_eq keyed othersSupported, matching_of_perm perm]

/-- What two lists of predicates select together is what both of them select, since a record is the
only one of its class with its id. -/
theorem matching_append (wellFormed : store.WellFormed) (key : Key)
    (predicates others : List Predicate) :
    store.matching key (predicates ++ others) =
      Record.common (store.matching key predicates) (store.matching key others) := by
  have once : ((store.recordsOf key).map (·.objectId)).Nodup := by
    have filed := wellFormed.filedOnce key
    rw [← wellFormed.map_text_objectIds key] at filed
    exact filed.of_map _
  rw [Record.common, matching, matching, matching, List.filter_filter]
  apply List.filter_congr
  intro record member
  rw [List.all_append, Bool.and_comm]
  congr 1
  rw [Bool.eq_iff_iff, List.any_eq_true]
  constructor
  · intro accepted
    exact ⟨record, List.mem_filter.mpr ⟨member, accepted⟩, beq_self_eq_true _⟩
  · rintro ⟨other, selected, sameId⟩
    rcases List.mem_filter.mp selected with ⟨present, accepted⟩
    have same : other = record := List.inj_on_of_nodup_map once present member (eq_of_beq sameId)
    rwa [← same]

end Store

theorem Backend.query_of_perm {predicates others : List Predicate}
    (supported : ∀ predicate ∈ predicates, predicate.Supported) (perm : predicates.Perm others)
    (className : Json) (limit : Option Int) (skip : Int) :
    query className others limit skip = query className predicates limit skip := by
  simp only [query, Store.query, Store.select_of_perm supported perm]

theorem Backend.count_of_perm {predicates others : List Predicate}
    (supported : ∀ predicate ∈ predicates, predicate.Supported) (perm : predicates.Perm others)
    (className : Json) : count className others = count className predicates := by
  simp only [count, Store.count, Store.select_of_perm supported perm]

theorem Action.ofInput_bind {Result Next : Type} (result : Result) (next : Result → Action Next) :
    (Action.ofInput (.ok result) >>= next) = next result :=
  rfl

namespace Records

variable {strict : Bool} {filters others : Json} {predicates rearranged : List Predicate}

theorem read_of_perm (compiled : Filter.compile strict filters = .ok predicates)
    (recompiled : Filter.compile strict others = .ok rearranged)
    (perm : predicates.Perm rearranged) (className limit skip : Json) :
    read strict className others limit skip = read strict className filters limit skip := by
  have supported := Filter.supported_of_compile compiled
  simp only [read, compiled, recompiled, Action.ofInput_bind,
    Backend.query_of_perm supported perm]

theorem count_of_perm (compiled : Filter.compile strict filters = .ok predicates)
    (recompiled : Filter.compile strict others = .ok rearranged)
    (perm : predicates.Perm rearranged) (className : Json) :
    count strict className others = count strict className filters := by
  have supported := Filter.supported_of_compile compiled
  simp only [count, compiled, recompiled, Action.ofInput_bind,
    Backend.count_of_perm supported perm]

/-- A reader that sets no limit is answered all records that pass the filter. -/
theorem run_read_all {backend : Backend} {className : Json} {key : Key}
    (set : className.isTruthy = true) (keyed : className.key = .ok key)
    (compiled : Filter.compile strict filters = .ok predicates) (served : backend.outages = []) :
    (read strict className filters .null (.int 0)).run backend =
      (.ok (backend.store.matching key predicates), backend) := by
  have limited : checkLimit .null = .ok none := rfl
  have skipped : checkSkip (.int 0) = .ok 0 := rfl
  rw [run_read (requireClass_of_isTruthy set) keyed limited skipped compiled served,
    Store.page_eq, List.drop_zero]

end Records

namespace Filter

/-- With the operators of its fields in another order a filter compiles to the same or fails in the
same way. With its fields in another order as well it compiles if it did before, and every reader
and every count comes to the same. In a store that a run of requests leads to, two filters on
different fields, put together, select the records that both of them select, in the same order. -/
theorem filtering_ignores_order (strict : Bool) (entries others : List (String × Json)) :
    (SameFields entries others →
      compile strict (.object others) = compile strict (.object entries)) ∧
    (Rearranges entries others →
      ((∃ predicates, compile strict (.object entries) = .ok predicates) ↔
        ∃ predicates, compile strict (.object others) = .ok predicates) ∧
      ∀ predicates rearranged, compile strict (.object entries) = .ok predicates →
        compile strict (.object others) = .ok rearranged → ∀ className,
          (∀ limit skip, Records.read strict className (.object others) limit skip =
            Records.read strict className (.object entries) limit skip) ∧
          Records.count strict className (.object others) =
            Records.count strict className (.object entries)) ∧
    ((Entries.keys others).Nodup →
      (∀ field ∈ Entries.keys others, field ∉ Entries.keys entries) →
      ∀ predicates further, compile strict (.object entries) = .ok predicates →
        compile strict (.object others) = .ok further →
        ∀ requests (backend : Backend) className key,
          backend.store = ({} : Store).after requests → backend.outages = [] →
          className.isTruthy = true → className.key = .ok key → ∃ first second,
            (Records.read strict className (.object entries) .null (.int 0)).run backend =
              (.ok first, backend) ∧
            (Records.read strict className (.object others) .null (.int 0)).run backend =
              (.ok second, backend) ∧
            (Records.read strict className (.object (Entries.merge entries others)) .null
              (.int 0)).run backend = (.ok (Record.common first second), backend) ∧
            Record.common second first = Record.common first second) := by
  refine ⟨?_, ?_, ?_⟩
  · intro same
    exact same.compileEntries_eq strict
  · intro rearranges
    refine ⟨⟨?_, ?_⟩, ?_⟩
    · rintro ⟨predicates, compiled⟩
      rcases rearranges.exists_compile compiled with ⟨rearranged, recompiled, _⟩
      exact ⟨rearranged, recompiled⟩
    · rintro ⟨predicates, compiled⟩
      exact rearranges.exists_compile_back compiled
    · intro predicates rearranged compiled recompiled className
      rcases rearranges.exists_compile compiled with ⟨_, same, perm⟩
      rw [recompiled] at same
      cases same
      constructor
      · intro limit skip
        exact Records.read_of_perm compiled recompiled perm className limit skip
      · exact Records.count_of_perm compiled recompiled perm className
  · intro distinct apart predicates further compiled compiledFurther requests backend className key
      reached served set keyed
    have wellFormed : backend.store.WellFormed := reached ▸ Store.WellFormed.empty.after requests
    have together := compile_append compiled compiledFurther
    rw [← Entries.merge_eq_append distinct apart] at together
    refine ⟨backend.store.matching key predicates, backend.store.matching key further,
      Records.run_read_all set keyed compiled served,
      Records.run_read_all set keyed compiledFurther served, ?_, ?_⟩
    · rw [Records.run_read_all set keyed together served, Store.matching_append wellFormed]
    · rw [← Store.matching_append wellFormed, ← Store.matching_append wellFormed,
        Store.matching_of_perm List.perm_append_comm]

/-- The operators of a range of numbers. -/
def bounds : List (String × Json) :=
  [("$gte", .int 1), ("$lt", .int 3)]

/-- The filter with the given operators on one numeric field. -/
def inRange (operators : List (String × Json)) : List (String × Json) :=
  [("n", .object operators)]

/-- The filter that asks for one tag. -/
def ofTag : List (String × Json) :=
  [("tag", .text "x")]

/-- A backend with three records, two of them with the tag and two of them in the range. -/
def threeTagged : Backend :=
  { name := .text "memory"
    now := { instant := 0, offset := 0 }
    store := ({} : Store).after [
      Store.filing [("n", .int 1), ("tag", .text "x")] "a",
      Store.filing [("n", .int 2), ("tag", .text "y")] "b",
      Store.filing [("n", .int 3), ("tag", .text "x")] "c"] }

/-- The range and the tag are asked for in several orders, together and one by one; one record is in
the range and has the tag. -/
theorem range_and_tag_in_any_order :
    SameFields (inRange bounds) (inRange bounds.reverse) ∧
      Rearranges (inRange bounds ++ ofTag) (ofTag ++ inRange bounds.reverse) ∧
      compile false (.object (inRange bounds.reverse)) = compile false (.object (inRange bounds)) ∧
      (∀ limit skip,
        Records.read false (.text "A") (.object (ofTag ++ inRange bounds.reverse)) limit skip =
          Records.read false (.text "A") (.object (inRange bounds ++ ofTag)) limit skip) ∧
      ∃ first second,
        (Records.read false (.text "A") (.object (inRange bounds)) .null (.int 0)).run threeTagged =
          (.ok first, threeTagged) ∧
        (Records.read false (.text "A") (.object ofTag) .null (.int 0)).run threeTagged =
          (.ok second, threeTagged) ∧
        (Records.read false (.text "A") (.object (Entries.merge (inRange bounds) ofTag)) .null
          (.int 0)).run threeTagged = (.ok (Record.common first second), threeTagged) ∧
        (Record.common first second).map (·.objectId) = ["a"] := by
  have same : SameFields (inRange bounds) (inRange bounds.reverse) :=
    .cons ⟨rfl, .reordered rfl (by decide) (List.reverse_perm _).symm⟩ .nil
  have rearranges : Rearranges (inRange bounds ++ ofTag) (ofTag ++ inRange bounds.reverse) :=
    ⟨ofTag ++ inRange bounds, List.perm_append_comm, .cons ⟨rfl, .same _⟩ same⟩
  have range : compile false (.object (inRange bounds)) =
      .ok [⟨"n", .lt, .int 3⟩, ⟨"n", .gte, .int 1⟩] := rfl
  have tag : compile false (.object ofTag) = .ok [⟨"tag", .eq, .text "x"⟩] := rfl
  have boundsFirst : compile false (.object (inRange bounds ++ ofTag)) =
      .ok [⟨"n", .lt, .int 3⟩, ⟨"n", .gte, .int 1⟩, ⟨"tag", .eq, .text "x"⟩] := rfl
  have tagFirst : compile false (.object (ofTag ++ inRange bounds.reverse)) =
      .ok [⟨"tag", .eq, .text "x"⟩, ⟨"n", .lt, .int 3⟩, ⟨"n", .gte, .int 1⟩] := rfl
  refine ⟨same, rearranges, (filtering_ignores_order false _ _).1 same, ?_, ?_⟩
  · have readers := ((filtering_ignores_order false _ _).2.1 rearranges).2 _ _ boundsFirst tagFirst
    exact (readers (.text "A")).1
  · rcases (filtering_ignores_order false (inRange bounds) ofTag).2.2 (by decide) (by decide) _ _
      range tag _ threeTagged (.text "A") (.text "A") rfl rfl rfl rfl with
      ⟨first, second, ranged, tagged, both, _⟩
    refine ⟨first, second, ranged, tagged, both, ?_⟩
    have listed : ((Records.read false (.text "A") (.object (Entries.merge (inRange bounds) ofTag))
        .null (.int 0)).run threeTagged).1.toOption.map (List.map (·.objectId)) = some ["a"] := by
      decide +kernel
    rw [both] at listed
    exact Option.some.inj listed

end Filter

end TypedRecords
