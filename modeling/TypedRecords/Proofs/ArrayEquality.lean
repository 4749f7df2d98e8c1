import TypedRecords.Proofs.ValueOrder

/-!
# Equality of arrays

An array matches a list operand if the two have the same contents. That is not equality item by
item: an item that is a truth value equals no number, while the contents of an array are also the
same when a truth value stands where the other has the number zero or one.

`Value.strictlyEquals` keeps truth values and numbers apart at every depth. Values that are the same
are strictly equal unless, at some place that both of them have, only one has a truth value.
-/

namespace TypedRecords

namespace Value

mutual

/-- Whether two values are equal when a truth value equals no number at any depth. -/
def strictlyEquals : Value → Value → Bool
  | .array left, .array right => itemsStrictlyEqual left right
  | .object left, .object right =>
      left.length == right.length && entriesStrictlyEqual left right
  | left, right => left.equals right

/-- Whether two lists are strictly equal place by place. -/
def itemsStrictlyEqual : List Value → List Value → Bool
  | [], [] => true
  | left :: lefts, right :: rights => strictlyEquals left right && itemsStrictlyEqual lefts rights
  | _, _ => false

/-- Whether every entry of the first list has a strictly equal partner in the second. -/
def entriesStrictlyEqual : List (String × Value) → List (String × Value) → Bool
  | [], _ => true
  | (key, left) :: rest, rights =>
      (match rights.lookup key with
        | some right => strictlyEquals left right
        | none => false) && entriesStrictlyEqual rest rights

end

theorem itemsStrictlyEqual_iff {lefts rights : List Value} :
    itemsStrictlyEqual lefts rights = true ↔ Itemwise strictlyEquals lefts rights := by
  rw [itemwise_iff_forall₂]
  induction lefts generalizing rights with
  | nil => cases rights <;> simp [itemsStrictlyEqual]
  | cons left rest ih => cases rights <;> simp [itemsStrictlyEqual, ih]

theorem entriesStrictlyEqual_iff {lefts rights : List (String × Value)} :
    entriesStrictlyEqual lefts rights = true ↔ ∀ entry ∈ lefts, ∃ right,
      rights.lookup entry.1 = some right ∧ strictlyEquals entry.2 right = true := by
  induction lefts with
  | nil => simp [entriesStrictlyEqual]
  | cons entry rest ih =>
      rcases found : rights.lookup entry.1 with _ | right
      · simp [entriesStrictlyEqual, found]
      · simp [entriesStrictlyEqual, found, ih]

theorem strictlyEquals_array_iff {items : List Value} {right : Value} :
    strictlyEquals (.array items) right = true ↔
      ∃ others, right = .array others ∧ Itemwise strictlyEquals items others := by
  cases right <;>
    simp [strictlyEquals, itemsStrictlyEqual_iff, equals_iff, same_array_iff]

theorem strictlyEquals_object_iff {entries : List (String × Value)} {right : Value} :
    strictlyEquals (.object entries) right = true ↔ ∃ others, right = .object others ∧
      entries.length = others.length ∧ ∀ entry ∈ entries, ∃ content,
        others.lookup entry.1 = some content ∧ strictlyEquals entry.2 content = true := by
  cases right <;>
    simp [strictlyEquals, entriesStrictlyEqual_iff, equals_iff, same_object_iff]

theorem strictlyEquals_of_scalar {left right : Value} {scalar : Scalar}
    (plain : left.scalar? = some scalar) : strictlyEquals left right = left.equals right := by
  cases left with
  | array => cases plain
  | object => cases plain
  | _ => rw [strictlyEquals] <;> simp

/-- One step from a value to a part of it. -/
inductive Step where
  | index (position : Nat)
  | key (name : String)

/-- The part of a value one step inside it, if the step leads anywhere. -/
def part? : Value → Step → Option Value
  | .array items, .index position => items[position]?
  | .object entries, .key name => entries.lookup name
  | _, _ => none

/-- The part of a value at the end of a path. -/
def at? (value : Value) : List Step → Option Value
  | [] => some value
  | step :: path => (value.part? step).bind (·.at? path)

/-- At every place that both values have, both have a truth value or neither does. -/
def AgreeOnTruth (left right : Value) : Prop :=
  ∀ path first second, left.at? path = some first → right.at? path = some second →
    first.isBool = second.isBool

/-- The values agree if they do at the top and their common parts agree. -/
theorem agreeOnTruth_iff {left right : Value} :
    left.AgreeOnTruth right ↔ left.isBool = right.isBool ∧ ∀ step first second,
      left.part? step = some first → right.part? step = some second →
        first.AgreeOnTruth second := by
  constructor
  · intro agree
    refine ⟨agree [] left right rfl rfl, ?_⟩
    intro step first second inLeft inRight path firstPart secondPart ofFirst ofSecond
    apply agree (step :: path)
    · rw [at?, inLeft]
      exact ofFirst
    · rw [at?, inRight]
      exact ofSecond
  · rintro ⟨top, agree⟩ path first second inLeft inRight
    cases path with
    | nil =>
        cases inLeft
        cases inRight
        exact top
    | cons step path =>
        rcases Option.bind_eq_some_iff.mp inLeft with ⟨leftPart, leftStep, ofLeft⟩
        rcases Option.bind_eq_some_iff.mp inRight with ⟨rightPart, rightStep, ofRight⟩
        exact agree step leftPart rightPart leftStep rightStep path first second ofLeft ofRight

theorem part?_of_scalar {value : Value} {scalar : Scalar} (plain : value.scalar? = some scalar)
    (step : Step) : value.part? step = none := by
  cases value with
  | array => cases plain
  | object => cases plain
  | _ => rfl

theorem agreeOnTruth_array_iff {items others : List Value} :
    (Value.array items).AgreeOnTruth (.array others) ↔
      ∀ (index : Nat) (inLeft : index < items.length) (inRight : index < others.length),
        items[index].AgreeOnTruth others[index] := by
  rw [agreeOnTruth_iff]
  constructor
  · rintro ⟨_, agree⟩ index inLeft inRight
    exact agree (.index index) _ _ (List.getElem?_eq_getElem inLeft)
      (List.getElem?_eq_getElem inRight)
  · intro agree
    refine ⟨rfl, ?_⟩
    intro step first second inLeft inRight
    cases step with
    | index position =>
        rcases List.getElem?_eq_some_iff.mp inLeft with ⟨inside, rfl⟩
        rcases List.getElem?_eq_some_iff.mp inRight with ⟨otherInside, rfl⟩
        exact agree position inside otherInside
    | key => cases inLeft

theorem agreeOnTruth_object_iff {entries others : List (String × Value)} :
    (Value.object entries).AgreeOnTruth (.object others) ↔ ∀ key first second,
      entries.lookup key = some first → others.lookup key = some second →
        first.AgreeOnTruth second := by
  rw [agreeOnTruth_iff]
  constructor
  · rintro ⟨_, agree⟩ key
    exact agree (.key key)
  · intro agree
    refine ⟨rfl, ?_⟩
    intro step first second inLeft inRight
    cases step with
    | index => cases inLeft
    | key name => exact agree name first second inLeft inRight

/-- Strict equality asks for the same contents, and for truth values at the same places. That no key
occurs twice makes every entry the one that its key finds. -/
theorem strictlyEquals_iff {left : Value} (distinct : left.hasDistinctKeys = true)
    (right : Value) :
    strictlyEquals left right = true ↔ same left right = true ∧ left.AgreeOnTruth right := by
  induction left using inductionOnContents generalizing right with
  | undefined =>
      rw [strictlyEquals, equals_iff, same_undefined] <;> simp
  | scalar left scalar plain =>
      rw [strictlyEquals_of_scalar plain, equals_iff, agreeOnTruth_iff]
      simp [part?_of_scalar plain, and_comm]
  | array items ih =>
      rw [hasDistinctKeys_array_iff] at distinct
      rw [strictlyEquals_array_iff, same_array_iff]
      constructor
      · rintro ⟨others, rfl, lengths, equalAt⟩
        have parts := fun index inLeft inRight =>
          (ih _ (List.getElem_mem inLeft) (distinct _ (List.getElem_mem inLeft)) _).mp
            (equalAt index inLeft inRight)
        exact ⟨⟨others, rfl, lengths, fun index inLeft inRight => (parts index inLeft inRight).1⟩,
          agreeOnTruth_array_iff.mpr fun index inLeft inRight => (parts index inLeft inRight).2⟩
      · rintro ⟨⟨others, rfl, lengths, sameAt⟩, agree⟩
        refine ⟨others, rfl, lengths, ?_⟩
        intro index inLeft inRight
        have member := List.getElem_mem inLeft
        exact (ih _ member (distinct _ member) _).mpr
          ⟨sameAt index inLeft inRight, agreeOnTruth_array_iff.mp agree index inLeft inRight⟩
  | object entries ih =>
      rw [hasDistinctKeys_object_iff] at distinct
      rw [strictlyEquals_object_iff, same_object_iff]
      constructor
      · rintro ⟨others, rfl, lengths, equalUnder⟩
        refine ⟨⟨others, rfl, lengths, ?_⟩, agreeOnTruth_object_iff.mpr ?_⟩
        · intro entry member
          rcases equalUnder entry member with ⟨content, found, equal⟩
          exact ⟨content, found, ((ih entry member (distinct.2 entry member) _).mp equal).1⟩
        · intro key first second inLeft inRight
          have member := Entries.mem_of_lookup inLeft
          rcases equalUnder _ member with ⟨content, found, equal⟩
          cases found.symm.trans inRight
          exact ((ih _ member (distinct.2 _ member) _).mp equal).2
      · rintro ⟨⟨others, rfl, lengths, sameUnder⟩, agree⟩
        refine ⟨others, rfl, lengths, ?_⟩
        intro entry member
        rcases sameUnder entry member with ⟨content, found, equal⟩
        have own := Entries.lookup_of_mem distinct.1 member
        exact ⟨content, found, (ih entry member (distinct.2 entry member) _).mpr
          ⟨equal, agreeOnTruth_object_iff.mp agree _ _ _ own found⟩⟩

/-- Items are equal one by one if their contents are the same and the truth values among them stand
at the same positions. -/
theorem itemwise_equals_iff {lefts rights : List Value} :
    Itemwise equals lefts rights ↔ Itemwise same lefts rights ∧
      ∀ (index : Nat) (inLeft : index < lefts.length) (inRight : index < rights.length),
        lefts[index].isBool = rights[index].isBool := by
  simp only [Itemwise, equals_iff]
  constructor
  · rintro ⟨lengths, equalAt⟩
    exact ⟨⟨lengths, fun index inLeft inRight => (equalAt index inLeft inRight).2⟩,
      fun index inLeft inRight => (equalAt index inLeft inRight).1⟩
  · rintro ⟨⟨lengths, sameAt⟩, alike⟩
    exact ⟨lengths, fun index inLeft inRight =>
      ⟨alike index inLeft inRight, sameAt index inLeft inRight⟩⟩

end Value

namespace Predicate

open Value

/-- A list operand matches an array by its contents alone. -/
theorem holds_eq_array_iff {record : Record} {field : String} {items : List Value}
    (held : record.value? field = some (.array items)) (operands : List Value)
    (known : List String) :
    holds ⟨field, .eq, .array operands⟩ record known = .ok true ↔
      same (.array items) (.array operands) = true := by
  rw [holds_of_value held, holdsFor, Except.ok.injEq]
  simp [matchesOperand, equals, isBool, isArray]

/-- Any other operand matches an array that has an equal item. -/
theorem holds_eq_item_iff {record : Record} {field : String} {items : List Value}
    (held : record.value? field = some (.array items)) {operand : Value}
    (single : operand.isArray = false) (known : List String) :
    holds ⟨field, .eq, operand⟩ record known = .ok true ↔
      ∃ item ∈ items, item.equals operand = true := by
  have unequal : (Value.array items).equals operand = false := by
    rw [Bool.eq_false_iff]
    intro equal
    have array := isArray_of_same (equals_iff.mp equal).2
    rw [single] at array
    cases array
  rw [holds_of_value held, holdsFor, Except.ok.injEq]
  simp [matchesOperand, unequal, single]

/-- An operand that is no list matches an array if it equals an item of it. A list matches it if
their items have the same contents one by one. The items are equal one by one exactly if, further,
the truth values stand at the same positions in the two lists, and they are strictly equal exactly
if truth values stand at the same places at all depths. -/
theorem array_matches_iff {record : Record} {field : String} {items : List Value}
    (held : record.value? field = some (.array items)) (operands : List Value)
    (known : List String) :
    (∀ operand, operand.isArray = false →
      (holds ⟨field, .eq, operand⟩ record known = .ok true ↔
        ∃ item ∈ items, item.equals operand = true)) ∧
    (holds ⟨field, .eq, .array operands⟩ record known = .ok true ↔
      Itemwise same items operands) ∧
    (Itemwise equals items operands ↔
      holds ⟨field, .eq, .array operands⟩ record known = .ok true ∧
        ∀ (index : Nat) (inItems : index < items.length) (inOperands : index < operands.length),
          items[index].isBool = operands[index].isBool) ∧
    ((Value.array items).hasDistinctKeys = true →
      (Itemwise strictlyEquals items operands ↔
        holds ⟨field, .eq, .array operands⟩ record known = .ok true ∧
          (Value.array items).AgreeOnTruth (.array operands))) := by
  have matched : holds ⟨field, .eq, .array operands⟩ record known = .ok true ↔
      Itemwise same items operands := by
    rw [holds_eq_array_iff held, same_array_iff]
    simp [Itemwise]
  refine ⟨fun operand single => holds_eq_item_iff held single known, matched, ?_, ?_⟩
  · rw [matched, itemwise_equals_iff]
  · intro distinct
    rw [holds_eq_array_iff held, ← strictlyEquals_iff distinct, strictlyEquals_array_iff]
    simp

/-- A list of an object and a number. -/
def numbered : List Value :=
  [.object [("a", .int 1)], .int 2]

/-- The same contents with a truth value in the object, and with a double. -/
def partlyTrue : List Value :=
  [.object [("a", .bool true)], .double (.finite false 4503599627370496 1023)]

/-- A list with a truth value in an object is matched by the list with the number one there. Their
items are even equal one by one, and only strictly they are not. The number alone matches too, the
list being an array with an item that equals it. -/
theorem partlyTrue_matches_numbered :
    (holding (.array partlyTrue)).value? "n" = some (.array partlyTrue) ∧
      (Value.array partlyTrue).hasDistinctKeys = true ∧ (Value.int 2).isArray = false ∧
      holds ⟨"n", .eq, .array numbered⟩ (holding (.array partlyTrue)) [] = .ok true ∧
      holds ⟨"n", .eq, .int 2⟩ (holding (.array partlyTrue)) [] = .ok true ∧
      Itemwise equals partlyTrue numbered ∧ ¬ Itemwise strictlyEquals partlyTrue numbered := by
  have distinct : (Value.array partlyTrue).hasDistinctKeys = true := by decide +kernel
  have contents : same (.array partlyTrue) (.array numbered) = true := by decide +kernel
  have matched : holds ⟨"n", .eq, .array numbered⟩ (holding (.array partlyTrue)) [] = .ok true :=
    (holds_eq_array_iff (value?_holding _) numbered []).mpr contents
  rcases array_matches_iff (value?_holding (.array partlyTrue)) numbered [] with
    ⟨single, _, equal, strict⟩
  refine ⟨value?_holding _, distinct, rfl, matched, (single (.int 2) rfl).mpr ?_,
    equal.mpr ⟨matched, ?_⟩, ?_⟩
  · exact ⟨_, List.mem_cons_of_mem _ List.mem_cons_self, by decide +kernel⟩
  · intro index inItems _
    match index, inItems with
    | 0, _ => rfl
    | 1, _ => rfl
  · intro apart
    have agree := ((strict distinct).mp apart).2 [.index 0, .key "a"] (.bool true) (.int 1) rfl rfl
    cases agree

/-- Equality of arrays is not equality item by item: the list with the truth value is matched by the
list with the number one, which the truth value does not equal. -/
theorem not_forall_array_matches_itemwise :
    ¬ ∀ (record : Record) (field : String) (items operands : List Value) (known : List String),
      record.value? field = some (.array items) →
        (holds ⟨field, .eq, .array operands⟩ record known = .ok true ↔
          Itemwise equals items operands) := by
  intro itemwise
  have contents : same (.array [.bool true]) (.array [.int 1]) = true := by decide +kernel
  have held := value?_holding (.array [.bool true])
  have matched := (holds_eq_array_iff held [.int 1] []).mpr contents
  have equal := ((itemwise _ "n" _ _ [] held).mp matched).2 0 (by decide) (by decide)
  cases (equals_iff.mp equal).1

end Predicate

end TypedRecords
