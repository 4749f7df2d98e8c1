import Mathlib.Data.List.Forall2
import Mathlib.Data.List.Perm.Subperm
import TypedRecords.Proofs.ShownValues

/-!
# Equality of values

Equality sees of a value without contents only its scalar: a number by its place on the number line,
a date by its instant. Arrays are equal item by item. Objects are equal if they have equally many
entries and every entry of one has a partner in the other, so the order of the entries does not
matter; with keys that occur once this is symmetric.

On values that have no key twice in an object and no undefined number, `Value.same` and
`Value.equals` are equivalence relations.
-/

namespace TypedRecords

/-- What equality sees of a value without contents. A truth value counts as a number. -/
inductive Scalar where
  | null
  | number (quantity : Quantity)
  | text (value : String)
  | date (instant : Int)
  | pointer (target : Pointer)
  | foreign (kind : ForeignKind)

/-- If the keys of one list of entries are distinct and all among those of another list of the same
length, then the other list has no further keys. -/
theorem Entries.mem_keys_of_covered {Content : Type} {entries others : List (String × Content)}
    (distinct : (Entries.keys entries).Nodup) (lengths : entries.length = others.length)
    (covered : ∀ entry ∈ entries, entry.1 ∈ Entries.keys others) :
    ∀ other ∈ others, other.1 ∈ Entries.keys entries := by
  have contained : Entries.keys entries ⊆ Entries.keys others := by
    intro key member
    rcases List.mem_map.mp member with ⟨entry, present, rfl⟩
    exact covered entry present
  have permuted : (Entries.keys entries).Perm (Entries.keys others) := by
    apply (List.subperm_of_subset distinct contained).perm_of_length_le
    simp [Entries.keys, lengths]
  intro other member
  exact permuted.mem_iff.mpr (List.mem_map_of_mem member)

namespace Value

/-- The scalar of a value; arrays, objects and the undefined number have none. -/
def scalar? : Value → Option Scalar
  | .null => some .null
  | .text value => some (.text value)
  | .date moment => some (.date moment.instant)
  | .pointer target => some (.pointer target)
  | .foreign kind => some (.foreign kind)
  | .array _ => none
  | .object _ => none
  | number => number.quantity?.map .number

theorem scalar?_eq_number_iff {value : Value} {quantity : Quantity} :
    value.scalar? = some (.number quantity) ↔ value.quantity? = some quantity := by
  have counted : value.quantity?.map Scalar.number = some (.number quantity) ↔
      value.quantity? = some quantity := by simp
  cases value with
  | bool => exact counted
  | int => exact counted
  | double => exact counted
  | _ => constructor <;> (intro impossible; cases impossible)

/-- Induction on the contents of a value. -/
@[elab_as_elim]
theorem inductionOnContents {motive : Value → Prop} (undefined : motive (.double .undefined))
    (scalar : ∀ value scalar, value.scalar? = some scalar → motive value)
    (array : ∀ items, (∀ item ∈ items, motive item) → motive (.array items))
    (object : ∀ entries, (∀ entry ∈ entries, motive entry.2) → motive (.object entries)) :
    ∀ value, motive value
  | .array items => array items fun item member =>
      have _smaller := List.sizeOf_lt_of_mem member
      inductionOnContents undefined scalar array object item
  | .object entries => object entries fun (_, content) member =>
      have _smaller := List.sizeOf_lt_of_mem member
      inductionOnContents undefined scalar array object content
  | .double .undefined => undefined
  | .double (.infinite _) => scalar _ _ rfl
  | .double (.finite _ _ _) => scalar _ _ rfl
  | .null => scalar _ _ rfl
  | .bool _ => scalar _ _ rfl
  | .int _ => scalar _ _ rfl
  | .text _ => scalar _ _ rfl
  | .date _ => scalar _ _ rfl
  | .pointer _ => scalar _ _ rfl
  | .foreign _ => scalar _ _ rfl
termination_by value => sizeOf value
decreasing_by all_goals simp at *; omega

theorem sameNumber_iff {left right : Value} :
    sameNumber left right = true ↔
      ∃ quantity, left.quantity? = some quantity ∧ right.quantity? = some quantity := by
  rw [sameNumber]
  rcases left.quantity? with _ | first
  · simp
  · rcases right.quantity? with _ | second
    · simp
    · simp only [beq_iff_eq, Option.some.injEq, exists_eq_left']
      exact eq_comm

theorem same_iff_of_quantity {left right : Value} {quantity : Quantity}
    (counts : left.quantity? = some quantity) :
    same left right = true ↔ right.scalar? = some (.number quantity) := by
  have number : sameNumber left right = true ↔ right.scalar? = some (.number quantity) := by
    rw [sameNumber_iff, counts, scalar?_eq_number_iff]
    simp
  rw [← number]
  cases left with
  | bool => cases right <;> rfl
  | int => cases right <;> rfl
  | double => cases right <;> rfl
  | _ => cases counts

/-- The values that are the same as a scalar are those with that scalar. -/
theorem same_iff_of_scalar {left right : Value} {scalar : Scalar}
    (plain : left.scalar? = some scalar) :
    same left right = true ↔ right.scalar? = some scalar := by
  rcases counts : left.quantity? with _ | quantity
  · cases left with
    | array => cases plain
    | object => cases plain
    | bool => cases counts
    | int => cases counts
    | double value =>
        change (quantity? (.double value)).map Scalar.number = _ at plain
        rw [counts] at plain
        cases plain
    | null =>
        cases plain
        cases right <;> simp [same, scalar?, sameNumber_iff, quantity?]
    | text value =>
        cases plain
        cases right <;> simp [same, scalar?, sameNumber_iff, quantity?, eq_comm (a := value)]
    | date moment =>
        cases plain
        cases right <;>
          simp [same, scalar?, sameNumber_iff, quantity?, eq_comm (a := moment.instant)]
    | pointer target =>
        cases plain
        cases right <;> simp [same, scalar?, sameNumber_iff, quantity?, eq_comm (a := target)]
    | foreign kind =>
        cases plain
        cases right <;> simp [same, scalar?, sameNumber_iff, quantity?, eq_comm (a := kind)]
  · cases plain.symm.trans (scalar?_eq_number_iff.mpr counts)
    exact same_iff_of_quantity counts

theorem same_undefined (right : Value) : same (.double .undefined) right = false := by
  cases right <;> rfl

/-- The lists are equally long, and the items at every position are related. -/
def Itemwise (related : Value → Value → Bool) (lefts rights : List Value) : Prop :=
  lefts.length = rights.length ∧
    ∀ (index : Nat) (inLeft : index < lefts.length) (inRight : index < rights.length),
      related lefts[index] rights[index] = true

theorem itemwise_iff_forall₂ {related : Value → Value → Bool} {lefts rights : List Value} :
    Itemwise related lefts rights ↔
      List.Forall₂ (fun left right => related left right = true) lefts rights := by
  rw [List.forall₂_iff_get]
  rfl

theorem sameItems_iff {lefts rights : List Value} :
    sameItems lefts rights = true ↔ Itemwise same lefts rights := by
  rw [itemwise_iff_forall₂]
  induction lefts generalizing rights with
  | nil => cases rights <;> simp [sameItems]
  | cons left rest ih => cases rights <;> simp [sameItems, ih]

theorem sameEntries_iff {lefts rights : List (String × Value)} :
    sameEntries lefts rights = true ↔ ∀ entry ∈ lefts, ∃ right,
      rights.lookup entry.1 = some right ∧ same entry.2 right = true := by
  induction lefts with
  | nil => simp [sameEntries]
  | cons entry rest ih =>
      rcases found : rights.lookup entry.1 with _ | right
      · simp [sameEntries, found]
      · simp [sameEntries, found, ih]

theorem same_array_iff {items : List Value} {right : Value} :
    same (.array items) right = true ↔
      ∃ others, right = .array others ∧ Itemwise same items others := by
  cases right <;> simp [same, sameNumber_iff, quantity?, sameItems_iff]

theorem same_object_iff {entries : List (String × Value)} {right : Value} :
    same (.object entries) right = true ↔ ∃ others, right = .object others ∧
      entries.length = others.length ∧ ∀ entry ∈ entries, ∃ content,
        others.lookup entry.1 = some content ∧ same entry.2 content = true := by
  cases right <;> simp [same, sameNumber_iff, quantity?, sameEntries_iff]

theorem isArray_of_same {left right : Value} (equal : same left right = true) :
    right.isArray = left.isArray := by
  cases left <;> cases right <;>
    first | rfl | simp [same, sameNumber_iff, quantity?] at equal

mutual

/-- No number in the value is undefined. -/
def isDefined : Value → Bool
  | .double value => value != .undefined
  | .array items => itemsDefined items
  | .object entries => entriesDefined entries
  | _ => true

/-- Whether no undefined number occurs in the items of an array. -/
def itemsDefined : List Value → Bool
  | [] => true
  | item :: rest => isDefined item && itemsDefined rest

/-- Whether no undefined number occurs in the contents of an object. -/
def entriesDefined : List (String × Value) → Bool
  | [] => true
  | (_, content) :: rest => isDefined content && entriesDefined rest

end

theorem isDefined_array_iff {items : List Value} :
    (Value.array items).isDefined = true ↔ ∀ item ∈ items, item.isDefined = true := by
  rw [isDefined]
  induction items with
  | nil => simp [itemsDefined]
  | cons item rest ih => simp [itemsDefined, ih]

theorem isDefined_object_iff {entries : List (String × Value)} :
    (Value.object entries).isDefined = true ↔ ∀ entry ∈ entries, entry.2.isDefined = true := by
  rw [isDefined]
  induction entries with
  | nil => simp [entriesDefined]
  | cons entry rest ih => simp [entriesDefined, ih]

theorem hasDistinctKeys_array_iff {items : List Value} :
    (Value.array items).hasDistinctKeys = true ↔ ∀ item ∈ items, item.hasDistinctKeys = true := by
  rw [hasDistinctKeys]
  induction items with
  | nil => simp [itemsHaveDistinctKeys]
  | cons item rest ih => simp [itemsHaveDistinctKeys, ih]

theorem hasDistinctKeys_object_iff {entries : List (String × Value)} :
    (Value.object entries).hasDistinctKeys = true ↔
      (Entries.keys entries).Nodup ∧ ∀ entry ∈ entries, entry.2.hasDistinctKeys = true := by
  have contents : entriesHaveDistinctKeys entries = true ↔
      ∀ entry ∈ entries, entry.2.hasDistinctKeys = true := by
    induction entries with
    | nil => simp [entriesHaveDistinctKeys]
    | cons entry rest ih => simp [entriesHaveDistinctKeys, ih]
  rw [hasDistinctKeys, Bool.and_eq_true, decide_eq_true_eq, contents]

/-- No object in the value has a key twice, and no number in it is undefined. -/
structure Regular (value : Value) : Prop where
  defined : value.isDefined = true
  distinct : value.hasDistinctKeys = true

/-- The values that can stand in fields. -/
abbrev InField := {value : Value // value.Regular}

theorem same_refl {value : Value} (regular : value.Regular) : same value value = true := by
  rcases regular with ⟨defined, distinct⟩
  induction value using inductionOnContents with
  | undefined => cases defined
  | scalar value scalar plain => exact (same_iff_of_scalar plain).mpr plain
  | array items ih =>
      rw [isDefined_array_iff] at defined
      rw [hasDistinctKeys_array_iff] at distinct
      refine same_array_iff.mpr ⟨items, rfl, rfl, ?_⟩
      intro index inside _
      have member := List.getElem_mem inside
      exact ih _ member (defined _ member) (distinct _ member)
  | object entries ih =>
      rw [isDefined_object_iff] at defined
      rw [hasDistinctKeys_object_iff] at distinct
      refine same_object_iff.mpr ⟨entries, rfl, rfl, ?_⟩
      intro entry member
      refine ⟨entry.2, Entries.lookup_of_mem distinct.1 member, ?_⟩
      exact ih entry member (defined entry member) (distinct.2 entry member)

theorem same_symm {left right : Value} (distinct : left.hasDistinctKeys = true)
    (otherDistinct : right.hasDistinctKeys = true) (equal : same left right = true) :
    same right left = true := by
  induction left using inductionOnContents generalizing right with
  | undefined => simp [same_undefined] at equal
  | scalar left scalar plain =>
      have other := (same_iff_of_scalar plain).mp equal
      exact (same_iff_of_scalar other).mpr plain
  | array items ih =>
      rcases same_array_iff.mp equal with ⟨others, rfl, lengths, equalAt⟩
      rw [hasDistinctKeys_array_iff] at distinct otherDistinct
      refine same_array_iff.mpr ⟨items, rfl, lengths.symm, ?_⟩
      intro index inRight inLeft
      have member := List.getElem_mem inLeft
      exact ih _ member (distinct _ member) (otherDistinct _ (List.getElem_mem inRight))
        (equalAt index inLeft inRight)
  | object entries ih =>
      rcases same_object_iff.mp equal with ⟨others, rfl, lengths, equalUnder⟩
      rw [hasDistinctKeys_object_iff] at distinct otherDistinct
      have covered : ∀ entry ∈ entries, entry.1 ∈ Entries.keys others := by
        intro entry member
        rcases equalUnder entry member with ⟨content, found, _⟩
        exact Entries.lookup_isSome_iff.mp (Option.isSome_of_eq_some found)
      refine same_object_iff.mpr ⟨entries, rfl, lengths.symm, ?_⟩
      intro other otherMember
      have present := Entries.mem_keys_of_covered distinct.1 lengths covered other otherMember
      rcases List.mem_map.mp present with ⟨entry, member, key⟩
      have partner : others.lookup entry.1 = some other.2 := by
        rw [key]
        exact Entries.lookup_of_mem otherDistinct.1 otherMember
      rcases equalUnder entry member with ⟨content, found, equalContent⟩
      cases found.symm.trans partner
      refine ⟨entry.2, ?_, ?_⟩
      · rw [← key]
        exact Entries.lookup_of_mem distinct.1 member
      · exact ih entry member (distinct.2 entry member) (otherDistinct.2 other otherMember)
          equalContent

theorem same_trans {left middle right : Value} (first : same left middle = true)
    (second : same middle right = true) : same left right = true := by
  induction left using inductionOnContents generalizing middle right with
  | undefined => simp [same_undefined] at first
  | scalar left scalar plain =>
      have other := (same_iff_of_scalar plain).mp first
      exact (same_iff_of_scalar plain).mpr ((same_iff_of_scalar other).mp second)
  | array items ih =>
      rcases same_array_iff.mp first with ⟨others, rfl, lengths, equalAt⟩
      rcases same_array_iff.mp second with ⟨lasts, rfl, lastLengths, lastEqualAt⟩
      refine same_array_iff.mpr ⟨lasts, rfl, lengths.trans lastLengths, ?_⟩
      intro index inLeft inRight
      have inMiddle : index < others.length := lengths ▸ inLeft
      exact ih _ (List.getElem_mem inLeft) (equalAt index inLeft inMiddle)
        (lastEqualAt index inMiddle inRight)
  | object entries ih =>
      rcases same_object_iff.mp first with ⟨others, rfl, lengths, equalUnder⟩
      rcases same_object_iff.mp second with ⟨lasts, rfl, lastLengths, lastEqualUnder⟩
      refine same_object_iff.mpr ⟨lasts, rfl, lengths.trans lastLengths, ?_⟩
      intro entry member
      rcases equalUnder entry member with ⟨content, found, equalContent⟩
      rcases lastEqualUnder _ (Entries.mem_of_lookup found) with ⟨last, lastFound, equalLast⟩
      exact ⟨last, lastFound, ih entry member equalContent equalLast⟩

theorem equals_iff {left right : Value} :
    left.equals right = true ↔ left.isBool = right.isBool ∧ same left right = true := by
  rw [equals, Bool.and_eq_true, beq_iff_eq]

theorem equals_refl {value : Value} (regular : value.Regular) : value.equals value = true :=
  equals_iff.mpr ⟨rfl, same_refl regular⟩

theorem equals_symm {left right : Value} (distinct : left.hasDistinctKeys = true)
    (otherDistinct : right.hasDistinctKeys = true) (equal : left.equals right = true) :
    right.equals left = true := by
  rw [equals_iff] at equal ⊢
  exact ⟨equal.1.symm, same_symm distinct otherDistinct equal.2⟩

theorem equals_trans {left middle right : Value} (first : left.equals middle = true)
    (second : middle.equals right = true) : left.equals right = true := by
  rw [equals_iff] at first second ⊢
  exact ⟨first.1.trans second.1, same_trans first.2 second.2⟩

/-- Equality is an equivalence relation on the values that can stand in fields. -/
theorem equivalence_equals :
    Equivalence fun left right : InField => left.val.equals right.val = true where
  refl value := equals_refl value.property
  symm {left right} := equals_symm left.property.distinct right.property.distinct
  trans := equals_trans

end Value

end TypedRecords
