import TypedRecords.Proofs.ReadBack
import TypedRecords.Proofs.ValueOrder

/-!
# Equality, difference and membership

Every field that a record holds or its class knows satisfies exactly one of the predicates that ask
for equality with an operand and for a difference from it. Membership in a list is equality with one
of its items. A predicate at the end of a list filters what the predicates before it select, whether
these can be decided or not. So equality and difference at the end divide the selected records
between them, each part in the order of the whole.
-/

namespace TypedRecords

/-- Whether the record holds the field, with a value that matches the operand. -/
def Record.matchesAt (record : Record) (field : String) (operand : Value) : Bool :=
  (record.value? field).any (·.matchesOperand operand)

namespace Predicate

variable {record : Record} {known : List String} {field : String}

/-- The predicate that asks for a value of a field. -/
def equalTo (field : String) (operand : Value) : Predicate :=
  { field, operator := .eq, operand }

/-- The predicate that asks for any other value of a field. -/
def unequalTo (field : String) (operand : Value) : Predicate :=
  { field, operator := .ne, operand }

/-- The predicate that asks for one of the given values. -/
def oneOf (field : String) (choices : List Value) : Predicate :=
  { field, operator := .among, operand := .array choices }

theorem holds_equalTo (record : Record) (known : List String) (field : String) (operand : Value) :
    (equalTo field operand).holds record known = .ok (record.matchesAt field operand) := by
  rw [holds, Record.matchesAt, equalTo]
  cases record.value? field <;> rfl

theorem holds_unequalTo (operand : Value)
    (present : (record.value? field).isSome = true ∨ field ∈ known) :
    (unequalTo field operand).holds record known = .ok (!record.matchesAt field operand) := by
  rw [holds, Record.matchesAt, unequalTo]
  rcases held : record.value? field with _ | value
  · rw [held] at present
    rcases present with held | member
    · cases held
    · simp [member]
  · rfl

theorem holds_oneOf (record : Record) (known : List String) (field : String)
    (choices : List Value) :
    (oneOf field choices).holds record known =
      .ok (choices.any fun choice => record.matchesAt field choice) := by
  simp only [holds, Record.matchesAt, oneOf]
  rcases record.value? field with _ | value
  · have differs : (Operator.among == Operator.ne) = false := rfl
    simp [differs]
  · rfl

/-- A predicate at the end is asked only if those before it hold. -/
theorem allHold_concat (predicates : List Predicate) (predicate : Predicate) (record : Record)
    (known : List String) :
    allHold (predicates ++ [predicate]) record known = do
      let earlier ← allHold predicates record known
      if earlier then predicate.holds record known else return false := by
  induction predicates with
  | nil =>
      change allHold [predicate] record known = predicate.holds record known
      rw [allHold]
      rcases predicate.holds record known with reason | (_ | _) <;> rfl
  | cons first rest ih =>
      rw [List.cons_append, allHold, allHold]
      rcases first.holds record known with reason | (_ | _)
      · rfl
      · rfl
      · exact ih

/-- A predicate at the end that is decided for every record filters what the predicates before it
select, and if these fail then so do all together. -/
theorem select_concat {predicate : Predicate} {property : Record → Bool}
    (decided : ∀ record, predicate.holds record known = .ok (property record))
    (predicates : List Predicate) (records : List Record) :
    select (predicates ++ [predicate]) known records =
      (select predicates known records).map (List.filter property) := by
  induction records with
  | nil => rfl
  | cons record rest ih =>
      rw [select, select, ih, allHold_concat, decided]
      rcases allHold predicates record known with reason | earlier
      · rfl
      · rcases select predicates known rest with reason | others
        · cases earlier <;> rfl
        · cases earlier with
          | false => rfl
          | true =>
              change Except.ok _ = Except.ok _
              rw [if_pos rfl, List.filter_cons]

end Predicate

namespace Store

open Predicate

variable {store : Store} {className : Json} {key : Key}

theorem select_concat (keyed : className.key = .ok key) {predicate : Predicate}
    {property : Record → Bool}
    (decided : ∀ record, predicate.holds record (store.knownFields key) = .ok (property record))
    (predicates : List Predicate) :
    store.select className (predicates ++ [predicate]) =
      (store.select className predicates).map (List.filter property) := by
  have selected (asked : List Predicate) : store.select className asked =
      (Predicate.select asked (store.knownFields key) (store.recordsOf key)).mapError
        Failure.rejected := by
    rw [select, keyed]
    rfl
  rw [selected, selected, Predicate.select_concat decided]
  cases Predicate.select predicates (store.knownFields key) (store.recordsOf key) <;> rfl

/-- If the records of a selection are divided by a property then the numbers of the parts add up. -/
theorem count_eq_add {predicates first second : List Predicate} {property : Record → Bool}
    (those : store.select className first =
      (store.select className predicates).map (List.filter property))
    (others : store.select className second =
      (store.select className predicates).map (List.filter fun record => !property record)) :
    store.count className predicates = do
      let those ← store.count className first
      let others ← store.count className second
      return those + others := by
  rw [count, count, count, those, others]
  rcases store.select className predicates with failure | records
  · rfl
  · exact congrArg Except.ok (List.length_eq_length_filter_add property)

/-- A field that a record holds or its class knows satisfies exactly one of equality and difference,
and membership is equality with an item. If the class knows the field then equality and difference
divide the records that other predicates select. -/
theorem equality_divides_selection (field : String) (operand : Value) :
    (∀ (record : Record) (known : List String),
      (record.value? field).isSome = true ∨ field ∈ known →
        ∃ satisfied, (equalTo field operand).holds record known = .ok satisfied ∧
          (unequalTo field operand).holds record known = .ok (!satisfied)) ∧
    (∀ (record : Record) (known : List String) (choices : List Value),
      ∃ satisfied, (oneOf field choices).holds record known = .ok satisfied ∧
        (satisfied = true ↔
          ∃ choice ∈ choices, (equalTo field choice).holds record known = .ok true)) ∧
    ∀ (store : Store) (className : Json) (key : Key) (predicates : List Predicate),
      className.key = .ok key → field ∈ store.knownFields key →
        store.select className (predicates ++ [equalTo field operand]) =
            (store.select className predicates).map
              (List.filter fun record => record.matchesAt field operand) ∧
          store.select className (predicates ++ [unequalTo field operand]) =
            (store.select className predicates).map
              (List.filter fun record => !record.matchesAt field operand) ∧
          store.count className predicates = do
            let equal ← store.count className (predicates ++ [equalTo field operand])
            let unequal ← store.count className (predicates ++ [unequalTo field operand])
            return equal + unequal := by
  refine ⟨?_, ?_, ?_⟩
  · intro record known present
    exact ⟨_, holds_equalTo record known field operand, holds_unequalTo operand present⟩
  · intro record known choices
    refine ⟨_, holds_oneOf record known field choices, ?_⟩
    simp [holds_equalTo]
  · intro store className key predicates keyed member
    have equal := select_concat keyed
      (fun record => holds_equalTo record (store.knownFields key) field operand) predicates
    have unequal :=
      select_concat keyed (fun _ => holds_unequalTo operand (Or.inr member)) predicates
    exact ⟨equal, unequal, count_eq_add equal unequal⟩

/-- Requests that file two records; the second has no tag. -/
def oneTagged : List Request :=
  [filing [("n", .int 1), ("tag", .text "x")] "a", filing [("n", .int 2)] "b"]

/-- The two records with a number are divided by the tag, which one of them lacks. -/
theorem tag_divides_selection :
    "tag" ∈ (({} : Store).after oneTagged).knownFields (.text "A") ∧
      (∃ satisfied, (equalTo "tag" (.text "x")).holds (holding (.int 2)) ["n", "tag"] =
          .ok satisfied ∧
        (unequalTo "tag" (.text "x")).holds (holding (.int 2)) ["n", "tag"] = .ok (!satisfied)) ∧
      (({} : Store).after oneTagged).count (.text "A") [unequalTo "n" .null] = do
        let equal ← (({} : Store).after oneTagged).count (.text "A")
          ([unequalTo "n" .null] ++ [equalTo "tag" (.text "x")])
        let unequal ← (({} : Store).after oneTagged).count (.text "A")
          ([unequalTo "n" .null] ++ [unequalTo "tag" (.text "x")])
        return equal + unequal := by
  have known : "tag" ∈ (({} : Store).after oneTagged).knownFields (.text "A") := by
    decide +kernel
  refine ⟨known, ?_, ?_⟩
  · exact (equality_divides_selection "tag" (.text "x")).1 (holding (.int 2)) ["n", "tag"]
      (Or.inr (by decide))
  · exact ((equality_divides_selection "tag" (.text "x")).2.2 (({} : Store).after oneTagged)
      (.text "A") (.text "A") [unequalTo "n" .null] rfl known).2.2

end Store

end TypedRecords
