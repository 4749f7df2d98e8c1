import TypedRecords.Proofs.ValueOrder

/-!
# Equal operands

Equal values are of one kind and have one scalar, and they equal the same values. So a predicate
cannot tell equal operands apart, as long as it asks for equality, for a difference or for an order.
Membership is left out: its operand is a list of operands, and lists are equal also when a truth
value stands in one of them where the other has the number zero or one.
-/

namespace TypedRecords

/-- The kind of a scalar that is ordered. -/
def Scalar.orderedKind? : Scalar → Option OrderedKind
  | .number _ => some .number
  | .text _ => some .text
  | .date _ => some .date
  | _ => none

/-- The operators that compare with one operand. -/
def Operator.comparisons : List Operator :=
  .eq :: .ne :: ranges

namespace Value

theorem orderedKind?_eq (value : Value) :
    value.orderedKind? =
      if value.isBool then some .truth else value.scalar?.bind Scalar.orderedKind? := by
  cases value with
  | double value => cases value <;> rfl
  | _ => rfl

section Equal

variable {left right : Value} (distinct : left.hasDistinctKeys = true)
  (otherDistinct : right.hasDistinctKeys = true) (equal : left.equals right = true)

include distinct otherDistinct equal

theorem scalar?_of_equals : left.scalar? = right.scalar? := by
  have same := (equals_iff.mp equal).2
  rcases plain : left.scalar? with _ | scalar
  · rcases otherPlain : right.scalar? with _ | other
    · rfl
    · have reverse := same_symm distinct otherDistinct same
      rw [same_iff_of_scalar otherPlain, plain] at reverse
      cases reverse
  · exact ((same_iff_of_scalar plain).mp same).symm

theorem equals_congr (value : Value) : value.equals left = value.equals right := by
  rw [Bool.eq_iff_iff]
  constructor
  · intro first
    exact equals_trans first equal
  · intro second
    exact equals_trans second (equals_symm distinct otherDistinct equal)

theorem matchesOperand_congr (value : Value) :
    value.matchesOperand left = value.matchesOperand right := by
  have congruent := equals_congr distinct otherDistinct equal
  have array := isArray_of_same (equals_iff.mp equal).2
  unfold matchesOperand
  rw [congruent value]
  cases value with
  | array items => simp only [array, congruent]
  | _ => rfl

theorem comparable_congr (value : Value) : value.Comparable left ↔ value.Comparable right := by
  have kind : left.orderedKind? = right.orderedKind? := by
    rw [orderedKind?_eq, orderedKind?_eq, (equals_iff.mp equal).1,
      scalar?_of_equals distinct otherDistinct equal]
  rw [Comparable, Comparable, kind]

end Equal

end Value

namespace Predicate

open Value

theorem holdsFor_congr {left right : Value} (distinct : left.hasDistinctKeys = true)
    (otherDistinct : right.hasDistinctKeys = true) (equal : left.equals right = true)
    {operator : Operator} (compares : operator ∈ Operator.comparisons) (value : Value) :
    holdsFor value operator left = holdsFor value operator right := by
  have matched := matchesOperand_congr distinct otherDistinct equal value
  rcases List.mem_cons.mp compares with rfl | compares
  · exact congrArg Except.ok matched
  · rcases List.mem_cons.mp compares with rfl | range
    · exact congrArg (fun matched => Except.ok (!matched)) matched
    · have satisfied : holdsFor value operator left = .ok true ↔
          holdsFor value operator right = .ok true := by
        rw [holdsFor_range_iff range, holdsFor_range_iff range,
          comparable_congr distinct otherDistinct equal value,
          scalar?_of_equals distinct otherDistinct equal]
      rw [holdsFor_of_range range, holdsFor_of_range range, Except.ok.injEq,
        Except.ok.injEq] at satisfied
      rw [holdsFor_of_range range, holdsFor_of_range range, Bool.eq_iff_iff.mpr satisfied]

/-- Equality is an equivalence relation on the values that can stand in fields, and predicates with
equal operands hold of the same records. -/
theorem equal_operands_interchangeable :
    (Equivalence fun left right : InField => left.val.equals right.val = true) ∧
      ∀ left right : InField, left.val.equals right.val = true →
        ∀ (record : Record) (known : List String) (field : String),
          ∀ operator ∈ Operator.comparisons,
            holds ⟨field, operator, left.val⟩ record known =
              holds ⟨field, operator, right.val⟩ record known := by
  refine ⟨equivalence_equals, ?_⟩
  intro left right equal record known field operator compares
  rcases held : record.value? field with _ | value
  · rw [holds, holds, held]
  · rw [holds_of_value held, holds_of_value held]
    exact holdsFor_congr left.property.distinct right.property.distinct equal compares value

/-- An object with an integer and a list with a truth value. -/
def flagged : Value :=
  .object [("a", .int 1), ("b", .array [.bool true])]

/-- The same contents in another order, all of them as the double one. -/
def flaggedByOnes : Value :=
  .object [("b", .array [.double (.finite false 4503599627370496 1022)]),
    ("a", .double (.finite false 4503599627370496 1022))]

/-- The two objects are interchangeable where a list with one of them is searched. -/
theorem flagged_interchangeable :
    flagged.Regular ∧ flaggedByOnes.Regular ∧ flagged.equals flaggedByOnes = true ∧
      holds ⟨"n", .ne, flagged⟩ (holding (.array [flaggedByOnes])) [] =
        holds ⟨"n", .ne, flaggedByOnes⟩ (holding (.array [flaggedByOnes])) [] := by
  have regular : flagged.Regular := ⟨rfl, by decide +kernel⟩
  have otherRegular : flaggedByOnes.Regular := ⟨rfl, by decide +kernel⟩
  have equal : flagged.equals flaggedByOnes = true := by decide +kernel
  refine ⟨regular, otherRegular, equal, ?_⟩
  exact equal_operands_interchangeable.2 ⟨flagged, regular⟩ ⟨flaggedByOnes, otherRegular⟩ equal
    _ [] "n" .ne (by decide)

end Predicate

end TypedRecords
