import TypedRecords.Proofs.ValueEquality

/-!
# The order of values

Numbers, texts, dates and truth values are ordered among themselves, and the undefined number not at
all. The comparison of two values of one kind is that of their scalars, so integers and doubles are
ordered together, and dates whatever their offsets. A range predicate holds exactly if the value of
the record and the operand are of one kind and their scalars are so related. From this come the main
statements: less, equal and greater exclude one another and one of them holds, the order is
transitive, and no range predicate holds between values that are not of one kind.
-/

namespace TypedRecords

/-- The kinds of values that are ordered among themselves. -/
inductive OrderedKind where
  | truth
  | number
  | text
  | date

namespace Operator

/-- The operators that ask for an order. -/
def ranges : List Operator :=
  [.gt, .lt, .gte, .lte]

/-- Whether a range operator is satisfied by the result of a comparison. -/
def acceptsComparison : Operator → Value.Comparison → Bool
  | .gt, .greater => true
  | .lt, .less => true
  | .gte, .greater => true
  | .gte, .equal => true
  | .lte, .less => true
  | .lte, .equal => true
  | _, _ => false

end Operator

namespace Scalar

/-- One scalar comes before another of the same kind. -/
inductive Before : Scalar → Scalar → Prop where
  | number {left right : Quantity} (less : left.lt right = true) :
      Before (.number left) (.number right)
  | text {left right : String} (less : left < right) : Before (.text left) (.text right)
  | date {left right : Int} (less : left < right) : Before (.date left) (.date right)

theorem Before.irrefl (scalar : Scalar) : ¬ scalar.Before scalar := by
  intro before
  cases before with
  | number less => simp [Quantity.lt_irrefl] at less
  | text less => exact String.lt_irrefl _ less
  | date less => exact Int.lt_irrefl _ less

theorem Before.trans {first second third : Scalar} (below : first.Before second)
    (above : second.Before third) : first.Before third := by
  cases below with
  | number less =>
      cases above with
      | number further => exact .number (Quantity.lt_trans less further)
  | text less =>
      cases above with
      | text further => exact .text (String.lt_trans less further)
  | date less =>
      cases above with
      | date further => exact .date (Int.lt_trans less further)

theorem Before.asymm {first second : Scalar} (before : first.Before second) :
    ¬ second.Before first :=
  fun after => irrefl first (before.trans after)

theorem Before.ne {first second : Scalar} (before : first.Before second) : first ≠ second := by
  rintro rfl
  exact irrefl first before

/-- How two scalars stand to each other if a comparison of them gives a certain result. -/
def Stands (first : Scalar) (comparison : Value.Comparison) (second : Scalar) : Prop :=
  match comparison with
  | .less => first.Before second
  | .equal => first = second
  | .greater => second.Before first
  | .unordered => False

/-- What a range operator asks of two scalars; other operators ask for no order. -/
def Relates (first : Scalar) (operator : Operator) (second : Scalar) : Prop :=
  match operator with
  | .lt => first.Before second
  | .lte => first.Before second ∨ first = second
  | .gt => second.Before first
  | .gte => second.Before first ∨ first = second
  | _ => False

theorem Relates.trans {first second third : Scalar} {operator : Operator}
    (below : first.Relates operator second) (above : second.Relates operator third) :
    first.Relates operator third := by
  cases operator with
  | lt => exact Before.trans below above
  | gt => exact Before.trans above below
  | lte =>
      rcases below with before | rfl
      · rcases above with further | rfl
        · exact Or.inl (before.trans further)
        · exact Or.inl before
      · exact above
  | gte =>
      rcases above with further | rfl
      · rcases below with before | rfl
        · exact Or.inl (further.trans before)
        · exact Or.inl further
      · exact below
  | eq => exact below
  | ne => exact below
  | among => exact below
  | unsupported => exact below

/-- An operator is satisfied by a comparison exactly if the scalars are related as it says. -/
theorem Stands.acceptsComparison_iff {first second : Scalar} {comparison : Value.Comparison}
    (stands : first.Stands comparison second) (operator : Operator) :
    operator.acceptsComparison comparison = true ↔ first.Relates operator second := by
  cases comparison with
  | less =>
      have before : first.Before second := stands
      cases operator <;> simp [Operator.acceptsComparison, Relates, before, before.asymm, before.ne]
  | equal =>
      have same : first = second := stands
      cases operator <;> simp [Operator.acceptsComparison, Relates, same, Before.irrefl]
  | greater =>
      have after : second.Before first := stands
      cases operator <;>
        simp [Operator.acceptsComparison, Relates, after, after.asymm, after.ne.symm]
  | unordered => cases stands

end Scalar

namespace Value

theorem stands_compareInts (left right : Int) :
    (Scalar.date left).Stands (compareInts left right) (.date right) := by
  rcases Int.lt_trichotomy left right with less | rfl | greater
  · simp [compareInts, less, Scalar.Stands, Scalar.Before.date less]
  · simp [compareInts, Scalar.Stands]
  · simp [compareInts, greater, Int.lt_asymm greater, Scalar.Stands, Scalar.Before.date greater]

theorem stands_compareTexts (left right : String) :
    (Scalar.text left).Stands (compareTexts left right) (.text right) := by
  rcases Std.lt_trichotomy left right with less | rfl | greater
  · simp [compareTexts, less, Scalar.Stands, Scalar.Before.text less]
  · simp [compareTexts, Scalar.Stands]
  · simp [compareTexts, greater, String.lt_asymm greater, Scalar.Stands,
      Scalar.Before.text greater]

theorem stands_compareQuantities (left right : Quantity) :
    (Scalar.number left).Stands (compareQuantities left right) (.number right) := by
  rcases Quantity.eq_or_lt_or_lt left right with rfl | less | greater
  · simp [compareQuantities, Quantity.lt_irrefl, Scalar.Stands]
  · simp [compareQuantities, less, Scalar.Stands, Scalar.Before.number less]
  · have reverse : left.lt right = false := by
      rw [Bool.eq_false_iff]
      intro less
      simpa [Quantity.lt_irrefl] using Quantity.lt_trans less greater
    simp [compareQuantities, greater, reverse, Scalar.Stands, Scalar.Before.number greater]

/-- Integers are compared as the numbers that they are on the common scale. -/
theorem compareQuantities_ofInt (left right : Int) :
    compareQuantities (.ofInt left) (.ofInt right) = compareInts left right := by
  simp [compareQuantities, compareInts, Quantity.lt_ofInt]

/-- The kind of a value that is ordered. -/
def orderedKind? : Value → Option OrderedKind
  | .bool _ => some .truth
  | .int _ => some .number
  | .double value => if value = .undefined then none else some .number
  | .text _ => some .text
  | .date _ => some .date
  | _ => none

/-- Both values are numbers, or texts, or dates, or truth values. The undefined number is none of
these. -/
def Comparable (left right : Value) : Prop :=
  ∃ kind, left.orderedKind? = some kind ∧ right.orderedKind? = some kind

theorem eq_bool_of_orderedKind? {value : Value} (kind : value.orderedKind? = some .truth) :
    ∃ truth, value = .bool truth := by
  cases value <;> simp [orderedKind?] at kind ⊢

theorem eq_text_of_orderedKind? {value : Value} (kind : value.orderedKind? = some .text) :
    ∃ text, value = .text text := by
  cases value <;> simp [orderedKind?] at kind ⊢

theorem eq_date_of_orderedKind? {value : Value} (kind : value.orderedKind? = some .date) :
    ∃ moment, value = .date moment := by
  cases value <;> simp [orderedKind?] at kind ⊢

theorem orderedKind?_eq_number_iff {value : Value} :
    value.orderedKind? = some .number ↔ value.isNumber = true ∧ value.quantity?.isSome = true := by
  cases value with
  | double value =>
      cases value <;> simp [orderedKind?, isNumber, quantity?, Double.quantity?]
  | int => simp [orderedKind?, isNumber, quantity?]
  | _ => simp [orderedKind?, isNumber]

theorem compare?_of_isNumber {left right : Value} (number : left.isNumber = true)
    (other : right.isNumber = true) : left.compare? right = some (compareNumbers left right) := by
  cases left with
  | int =>
      cases right with
      | int => rfl
      | double => rfl
      | _ => cases other
  | double =>
      cases right with
      | int => rfl
      | double => rfl
      | _ => cases other
  | _ => cases number

theorem isBool_of_isNumber {value : Value} (number : value.isNumber = true) :
    value.isBool = false := by
  cases value with
  | bool => cases number
  | _ => rfl

/-- Values of one kind are compared as their scalars. -/
theorem exists_compare?_of_comparable {left right : Value} (comparable : left.Comparable right) :
    ∃ first second comparison, left.scalar? = some first ∧ right.scalar? = some second ∧
      left.isBool = right.isBool ∧ left.compare? right = some comparison ∧
        first.Stands comparison second := by
  rcases comparable with ⟨kind, ofLeft, ofRight⟩
  cases kind with
  | truth =>
      rcases eq_bool_of_orderedKind? ofLeft with ⟨left, rfl⟩
      rcases eq_bool_of_orderedKind? ofRight with ⟨right, rfl⟩
      have stands := stands_compareQuantities (.ofInt left.toInt) (.ofInt right.toInt)
      rw [compareQuantities_ofInt] at stands
      refine ⟨_, _, _, ?_, ?_, rfl, rfl, stands⟩
      · cases left <;> rfl
      · cases right <;> rfl
  | number =>
      rcases orderedKind?_eq_number_iff.mp ofLeft with ⟨number, counts⟩
      rcases orderedKind?_eq_number_iff.mp ofRight with ⟨otherNumber, otherCounts⟩
      rcases Option.isSome_iff_exists.mp counts with ⟨first, placed⟩
      rcases Option.isSome_iff_exists.mp otherCounts with ⟨second, otherPlaced⟩
      refine ⟨.number first, .number second, _, scalar?_eq_number_iff.mpr placed,
        scalar?_eq_number_iff.mpr otherPlaced, ?_, ?_, stands_compareQuantities first second⟩
      · rw [isBool_of_isNumber number, isBool_of_isNumber otherNumber]
      · rw [compare?_of_isNumber number otherNumber, compareNumbers, placed, otherPlaced]
  | text =>
      rcases eq_text_of_orderedKind? ofLeft with ⟨left, rfl⟩
      rcases eq_text_of_orderedKind? ofRight with ⟨right, rfl⟩
      exact ⟨_, _, _, rfl, rfl, rfl, rfl, stands_compareTexts left right⟩
  | date =>
      rcases eq_date_of_orderedKind? ofLeft with ⟨left, rfl⟩
      rcases eq_date_of_orderedKind? ofRight with ⟨right, rfl⟩
      exact ⟨_, _, _, rfl, rfl, rfl, rfl, stands_compareInts left.instant right.instant⟩

/-- Values that are not of one kind are not compared, or one of them is the undefined number. -/
theorem compare?_of_not_comparable {left right : Value} (incomparable : ¬ left.Comparable right) :
    left.compare? right = none ∨ left.compare? right = some .unordered := by
  unfold compare?
  split
  · exact absurd ⟨.truth, rfl, rfl⟩ incomparable
  · exact absurd ⟨.text, rfl, rfl⟩ incomparable
  · exact absurd ⟨.date, rfl, rfl⟩ incomparable
  · split
    · rename_i numbers
      rw [Bool.and_eq_true] at numbers
      right
      rw [compareNumbers]
      split
      · rename_i first second placed otherPlaced
        apply absurd _ incomparable
        exact ⟨.number,
          orderedKind?_eq_number_iff.mpr ⟨numbers.1, Option.isSome_of_eq_some placed⟩,
          orderedKind?_eq_number_iff.mpr ⟨numbers.2, Option.isSome_of_eq_some otherPlaced⟩⟩
      · rfl
    · exact Or.inl rfl

theorem matchesOperand_of_scalar {value operand : Value} {first second : Scalar}
    (scalar : value.scalar? = some first) (otherScalar : operand.scalar? = some second)
    (alike : value.isBool = operand.isBool) :
    value.matchesOperand operand = true ↔ first = second := by
  have equal : value.equals operand = true ↔ first = second := by
    rw [equals_iff, same_iff_of_scalar scalar, otherScalar, Option.some.injEq]
    simp [alike, eq_comm]
  rw [← equal]
  cases value with
  | array => cases scalar
  | _ => simp [matchesOperand]

end Value

namespace Predicate

open Value

theorem holdsFor_of_range {operator : Operator} (range : operator ∈ Operator.ranges)
    (value operand : Value) :
    holdsFor value operator operand =
      .ok ((value.compare? operand).any operator.acceptsComparison) := by
  simp only [Operator.ranges, List.mem_cons, List.not_mem_nil, or_false] at range
  rcases range with rfl | rfl | rfl | rfl <;> simp only [holdsFor] <;>
    rcases value.compare? operand with _ | (_ | _ | _ | _) <;> rfl

/-- A range predicate holds of a value exactly if it is of one kind with the operand, and their
scalars are related as the operator says. -/
theorem holdsFor_range_iff {value operand : Value} {operator : Operator}
    (range : operator ∈ Operator.ranges) :
    holdsFor value operator operand = .ok true ↔ value.Comparable operand ∧
      ∃ first second, value.scalar? = some first ∧ operand.scalar? = some second ∧
        first.Relates operator second := by
  rw [holdsFor_of_range range, Except.ok.injEq]
  by_cases comparable : value.Comparable operand
  · rcases exists_compare?_of_comparable comparable with
      ⟨first, second, comparison, scalar, otherScalar, _, compared, stands⟩
    simp [comparable, scalar, otherScalar, compared, stands.acceptsComparison_iff]
  · have unsatisfied : operator.acceptsComparison .unordered = false := by
      cases operator <;> rfl
    rcases compare?_of_not_comparable comparable with compared | compared
    · simp [comparable, compared]
    · simp [comparable, compared, unsatisfied]

theorem holdsFor_range_of_not_comparable {value operand : Value} {operator : Operator}
    (range : operator ∈ Operator.ranges) (incomparable : ¬ value.Comparable operand) :
    holdsFor value operator operand = .ok false := by
  have unsatisfied : holdsFor value operator operand ≠ .ok true :=
    fun satisfied => incomparable ((holdsFor_range_iff range).mp satisfied).1
  rw [holdsFor_of_range range] at unsatisfied ⊢
  simpa using unsatisfied

theorem holdsFor_range_trans {value middle operand : Value} {operator : Operator}
    (range : operator ∈ Operator.ranges) (below : holdsFor value operator middle = .ok true)
    (above : holdsFor middle operator operand = .ok true) :
    holdsFor value operator operand = .ok true := by
  rcases (holdsFor_range_iff range).mp below with
    ⟨⟨kind, ofValue, ofMiddle⟩, first, second, scalar, middleScalar, related⟩
  rcases (holdsFor_range_iff range).mp above with
    ⟨⟨_, ofMiddle', ofOperand⟩, _, third, middleScalar', lastScalar, further⟩
  cases ofMiddle.symm.trans ofMiddle'
  cases middleScalar.symm.trans middleScalar'
  exact (holdsFor_range_iff range).mpr
    ⟨⟨kind, ofValue, ofOperand⟩, first, third, scalar, lastScalar, related.trans further⟩

/-- Of two values of one kind one comes before the other, or they are equal, and the operators agree
on which it is. -/
theorem exists_order_of_comparable {value operand : Value}
    (comparable : value.Comparable operand) :
    ∃ order : Ordering, holdsFor value .lt operand = .ok order.isLT ∧
      holdsFor value .eq operand = .ok order.isEq ∧ holdsFor value .gt operand = .ok order.isGT ∧
      holdsFor value .gte operand = .ok order.isGE ∧
      holdsFor value .lte operand = .ok order.isLE := by
  rcases exists_compare?_of_comparable comparable with
    ⟨first, second, comparison, scalar, otherScalar, alike, compared, stands⟩
  have equal := matchesOperand_of_scalar scalar otherScalar alike
  cases comparison with
  | less =>
      have unequal : value.matchesOperand operand = false := by
        rw [Bool.eq_false_iff, Ne, equal]
        exact Scalar.Before.ne stands
      exact ⟨.lt, by simp [holdsFor, compared, unequal]⟩
  | equal =>
      have matched : value.matchesOperand operand = true := equal.mpr stands
      exact ⟨.eq, by simp [holdsFor, compared, matched]⟩
  | greater =>
      have unequal : value.matchesOperand operand = false := by
        rw [Bool.eq_false_iff, Ne, equal]
        exact (Scalar.Before.ne stands).symm
      exact ⟨.gt, by simp [holdsFor, compared, unequal]⟩
  | unordered => cases stands

theorem holds_of_value {record : Record} {field : String} {value : Value}
    (held : record.value? field = some value) (operator : Operator) (operand : Value)
    (known : List String) :
    holds ⟨field, operator, operand⟩ record known = holdsFor value operator operand := by
  rw [holds, held]

theorem holds_range_of_absent {record : Record} {field : String}
    (absent : record.value? field = none) {operator : Operator}
    (range : operator ∈ Operator.ranges) (operand : Value) (known : List String) :
    holds ⟨field, operator, operand⟩ record known = .ok false := by
  rw [holds, absent]
  simp only [Operator.ranges, List.mem_cons, List.not_mem_nil, or_false] at range
  rcases range with rfl | rfl | rfl | rfl <;> rfl

/-- If a record holds a value of one kind with the operand then exactly one of less, equal and
greater holds, and the two weak operators hold as they should. If it holds no such value then no
range operator holds. Each range operator is transitive, through the value of another record. -/
theorem ranges_total (record : Record) (known : List String) (field : String) (operand : Value) :
    (∀ value, record.value? field = some value → value.Comparable operand →
      ∃ order : Ordering,
        holds ⟨field, .lt, operand⟩ record known = .ok order.isLT ∧
        holds ⟨field, .eq, operand⟩ record known = .ok order.isEq ∧
        holds ⟨field, .gt, operand⟩ record known = .ok order.isGT ∧
        holds ⟨field, .gte, operand⟩ record known = .ok order.isGE ∧
        holds ⟨field, .lte, operand⟩ record known = .ok order.isLE) ∧
    ((∀ value, record.value? field = some value → ¬ value.Comparable operand) →
      ∀ operator ∈ Operator.ranges, holds ⟨field, operator, operand⟩ record known = .ok false) ∧
    ∀ (other : Record) (middle : Value), other.value? field = some middle →
      ∀ operator ∈ Operator.ranges,
        holds ⟨field, operator, middle⟩ record known = .ok true →
        holds ⟨field, operator, operand⟩ other known = .ok true →
        holds ⟨field, operator, operand⟩ record known = .ok true := by
  refine ⟨?_, ?_, ?_⟩
  · intro value held comparable
    simp only [holds_of_value held]
    exact exists_order_of_comparable comparable
  · intro incomparable operator range
    rcases held : record.value? field with _ | value
    · exact holds_range_of_absent held range operand known
    · rw [holds_of_value held]
      exact holdsFor_range_of_not_comparable range (incomparable value held)
  · intro other middle otherHeld operator range below above
    rcases held : record.value? field with _ | value
    · rw [holds_range_of_absent held range] at below
      cases below
    · rw [holds_of_value held] at below ⊢
      rw [holds_of_value otherHeld] at above
      exact holdsFor_range_trans range below above

/-- A record that holds a value in the field `n`. -/
def holding (value : Value) : Record :=
  { className := "A", objectId := "a", fields := [("n", value)], access := .everyone,
    createdAt := { instant := 0, offset := 0 }, updatedAt := { instant := 0, offset := 0 } }

theorem value?_holding (value : Value) : (holding value).value? "n" = some value :=
  rfl

/-- The double `2 ^ 53`; the next integer is no double. -/
def twoTo53 : Value :=
  .double (.finite false 4503599627370496 1075)

/-- The integer after the double `2 ^ 53` is greater than the double, and so than the integer before
it; no range operator holds between it and a text. -/
theorem ranges_total_around_twoTo53 :
    (Value.int 9007199254740993).Comparable twoTo53 ∧
      (∃ order : Ordering,
        holds ⟨"n", .lt, twoTo53⟩ (holding (.int 9007199254740993)) [] = .ok order.isLT ∧
        holds ⟨"n", .eq, twoTo53⟩ (holding (.int 9007199254740993)) [] = .ok order.isEq ∧
        holds ⟨"n", .gt, twoTo53⟩ (holding (.int 9007199254740993)) [] = .ok order.isGT) ∧
      holds ⟨"n", .gt, .int 9007199254740991⟩ (holding (.int 9007199254740993)) [] =
        .ok true ∧
      holds ⟨"n", .gte, .text "9"⟩ (holding (.int 9007199254740993)) [] = .ok false := by
  have comparable : (Value.int 9007199254740993).Comparable twoTo53 := ⟨.number, rfl, rfl⟩
  have incomparable : ¬ (Value.int 9007199254740993).Comparable (.text "9") := by
    rintro ⟨kind, number, text⟩
    cases number
    cases text
  have range : Operator.gt ∈ Operator.ranges := List.mem_cons_self
  have above : holds ⟨"n", .gt, twoTo53⟩ (holding (.int 9007199254740993)) [] = .ok true := by
    rw [holds_of_value (value?_holding _), holdsFor_of_range range]
    exact congrArg Except.ok (by decide +kernel)
  have below : holds ⟨"n", .gt, .int 9007199254740991⟩ (holding twoTo53) [] = .ok true := by
    rw [holds_of_value (value?_holding _), holdsFor_of_range range]
    exact congrArg Except.ok (by decide +kernel)
  have weak : Operator.gte ∈ Operator.ranges := by decide
  refine ⟨comparable, ?_, ?_, ?_⟩
  · rcases (ranges_total (holding (.int 9007199254740993)) [] "n" twoTo53).1 _ rfl comparable
      with ⟨order, less, equal, greater, _⟩
    exact ⟨order, less, equal, greater⟩
  · exact (ranges_total _ [] "n" _).2.2 (holding twoTo53) twoTo53 rfl .gt range above below
  · apply (ranges_total _ [] "n" _).2.1 _ .gte weak
    intro value held
    cases held
    exact incomparable

end Predicate

end TypedRecords
