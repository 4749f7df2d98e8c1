import TypedRecords.Text.Lowercase

/-!
# Lower-casing twice

What is lowered once stays as it is. Of the characters with a one-character lower-case form none is
the lower-case form of another; that is checked over the runs of the table, whose images either lie
apart from every run or fall between its members. The two special characters are lowered to others
that have no lower-case form of their own.
-/

namespace TypedRecords

namespace LoweringRun

/-- The code point to which the first member of the run is lowered. -/
def start (run : LoweringRun) : Nat :=
  (run.1 + run.2.2.2).toNat

/-- The members of the run are lowered to characters, none of them the dotted capital I. -/
def isSound (run : LoweringRun) : Bool :=
  decide (0 ≤ run.1 + run.2.2.2) &&
    (decide (run.2.1 + run.start < 0xd800 + run.1) ||
      decide (0xdfff < run.start ∧ run.2.1 + run.start < 0x110000 + run.1)) &&
    (decide (run.2.1 + run.start < 'İ'.toNat + run.1) || decide ('İ'.toNat < run.start))

/-- No member of the run is lowered to one of the other: they lie apart, or the other has every
second character only, and those to which the members are lowered lie between them. -/
def avoids (run other : LoweringRun) : Bool :=
  (run.2.1 + run.start).blt (other.1 + run.1) || other.2.1.blt run.start ||
    (other.2.2.1 == 2 && (run.2.2.1 == 2 || run.1 == run.2.1) && (run.start + other.1) % 2 == 1)

variable {run other : LoweringRun} {code : Nat}

/-- Within a sound run the lower-case forms have the same distances as the members. -/
theorem toNat_eq_of_has (sound : run.isSound = true) (member : run.has code = true) :
    (code + run.2.2.2).toNat = code - run.1 + run.start ∧ run.1 ≤ code ∧ code ≤ run.2.1 := by
  simp only [isSound, has, Bool.and_eq_true, decide_eq_true_eq] at sound member
  rw [start]
  omega

theorem not_has_of_avoids (sound : run.isSound = true) (clear : run.avoids other = true)
    (member : run.has code = true) : other.has (code + run.2.2.2).toNat = false := by
  rcases toNat_eq_of_has sound member with ⟨image, _, _⟩
  rw [image, Bool.eq_false_iff]
  intro again
  simp only [has, avoids, Bool.and_eq_true, Bool.or_eq_true, decide_eq_true_eq, beq_iff_eq,
    Nat.blt_eq] at *
  rcases clear with (below | above) | ⟨⟨second, single⟩, odd⟩
  · omega
  · omega
  · rw [second] at again
    rcases single with stride | single
    · rw [stride] at member
      omega
    · omega

end LoweringRun

theorem isSound_of_mem {run : LoweringRun} (member : run ∈ loweringRuns) :
    run.isSound = true := by
  have sound : loweringRuns.toList.all LoweringRun.isSound = true := by decide +kernel
  exact List.all_eq_true.mp sound run (Array.mem_toList_iff.mpr member)

theorem avoids_of_mem {run other : LoweringRun} (member : run ∈ loweringRuns)
    (present : other ∈ loweringRuns) : run.avoids other = true := by
  have clear : (loweringRuns.toList.all fun run =>
      loweringRuns.toList.all (LoweringRun.avoids run)) = true := by
    decide +kernel
  exact List.all_eq_true.mp (List.all_eq_true.mp clear run (Array.mem_toList_iff.mpr member)) other
    (Array.mem_toList_iff.mpr present)

/-- The character is lowered to itself, wherever it stands. -/
def IsLowered (character : Char) : Prop :=
  character ≠ 'Σ' ∧ character ≠ 'İ' ∧ simpleLowercase character = character

/-- A character is in no run and its own lower-case form, or it is lowered as a member of one. -/
theorem lowerBy_cases (runs : Array LoweringRun) (character : Char) :
    (∀ run ∈ runs, run.has character.toNat = false) ∧ lowerBy runs character = character ∨
      ∃ run ∈ runs, run.has character.toNat = true ∧
        lowerBy runs character = Char.ofNat (character.toNat + run.2.2.2).toNat := by
  unfold lowerBy
  split
  · rename_i first last stride offset found
    have listed := Array.find?_some found
    exact Or.inr ⟨_, Array.mem_of_find?_eq_some found, listed, rfl⟩
  · rename_i unlisted
    rw [Array.find?_eq_none] at unlisted
    exact Or.inl ⟨fun run member => Bool.eq_false_iff.mpr (unlisted run member), rfl⟩

theorem lowerBy_eq_self {runs : Array LoweringRun} {character : Char}
    (unlisted : ∀ run ∈ runs, run.has character.toNat = false) :
    lowerBy runs character = character := by
  rcases lowerBy_cases runs character with ⟨_, same⟩ | ⟨run, present, found, _⟩
  · exact same
  · rw [unlisted run present] at found
    cases found

/-- The lower-case form of a member of a sound run is a character, and not the dotted capital I. -/
theorem toNat_ofNat_of_has {run : LoweringRun} {code : Nat} (sound : run.isSound = true)
    (member : run.has code = true) :
    (Char.ofNat (code + run.2.2.2).toNat).toNat = (code + run.2.2.2).toNat ∧
      (code + run.2.2.2).toNat ≠ 'İ'.toNat := by
  rcases LoweringRun.toNat_eq_of_has sound member with ⟨image, lower, upper⟩
  simp only [LoweringRun.isSound, Bool.and_eq_true, Bool.or_eq_true, decide_eq_true_eq] at sound
  have valid : (code - run.1 + run.start).isValidChar := by
    rw [Nat.isValidChar]
    omega
  have converted : (Char.ofNat (code - run.1 + run.start)).toNat = code - run.1 + run.start := by
    rw [Char.ofNat, dif_pos valid]
    rfl
  rw [image]
  exact ⟨converted, by omega⟩

theorem isLowered_simpleLowercase {character : Char} (noSigma : character ≠ 'Σ')
    (noDotted : character ≠ 'İ') : IsLowered (simpleLowercase character) := by
  rcases lowerBy_cases loweringRuns character with ⟨_, same⟩ | ⟨run, member, has, same⟩
  · rw [simpleLowercase, same]
    exact ⟨noSigma, noDotted, same⟩
  · have sound := isSound_of_mem member
    rcases toNat_ofNat_of_has sound has with ⟨code, other⟩
    rw [← same] at code
    have unlisted : ∀ other ∈ loweringRuns,
        LoweringRun.has other (lowerBy loweringRuns character).toNat = false := by
      intro other present
      rw [code]
      exact LoweringRun.not_has_of_avoids sound (avoids_of_mem member present) has
    refine ⟨?_, ?_, ?_⟩
    · intro sigma
      have listed : loweringRuns.toList.any (LoweringRun.has · 'Σ'.toNat) = true := by
        decide +kernel
      rcases List.any_eq_true.mp listed with ⟨run, present, found⟩
      rw [← sigma, simpleLowercase, unlisted run (Array.mem_toList_iff.mp present)] at found
      cases found
    · intro dotted
      rw [← code] at other
      exact other (congrArg Char.toNat dotted)
    · exact lowerBy_eq_self unlisted

theorem isLowered_special {character : Char} (member : character ∈ ['ς', 'σ', 'i', '\u0307']) :
    IsLowered character := by
  have checked : (['ς', 'σ', 'i', '\u0307'].all fun character =>
      character != 'Σ' && character != 'İ' &&
        loweringRuns.toList.all fun run => !LoweringRun.has run character.toNat) = true := by
    decide +kernel
  have lowered := List.all_eq_true.mp checked character member
  simp only [Bool.and_eq_true, bne_iff_ne, List.all_eq_true, Array.mem_toList_iff,
    Bool.not_eq_true'] at lowered
  exact ⟨lowered.1.1, lowered.1.2, lowerBy_eq_self lowered.2⟩

theorem isLowered_of_mem_lowercaseCharacter {casedBefore : Bool} {character lowered : Char}
    {following : List Char}
    (member : lowered ∈ lowercaseCharacter casedBefore character following) :
    IsLowered lowered := by
  rw [lowercaseCharacter] at member
  split at member
  · apply isLowered_special
    rw [List.mem_singleton.mp member]
    split
    · simp
    · simp
  · split at member
    · apply isLowered_special
      simp only [List.mem_cons, List.not_mem_nil, or_false] at member ⊢
      exact Or.inr (Or.inr member)
    · rw [List.mem_singleton.mp member]
      exact isLowered_simpleLowercase ‹_› ‹_›

theorem isLowered_of_mem_lowercaseFrom {casedBefore : Bool} {text : List Char} {lowered : Char}
    (member : lowered ∈ lowercaseFrom casedBefore text) : IsLowered lowered := by
  induction text generalizing casedBefore with
  | nil => cases member
  | cons character following ih =>
      rcases List.mem_append.mp member with first | later
      · exact isLowered_of_mem_lowercaseCharacter first
      · exact ih later

theorem lowercaseFrom_eq_self {casedBefore : Bool} {text : List Char}
    (lowered : ∀ character ∈ text, IsLowered character) :
    lowercaseFrom casedBefore text = text := by
  induction text generalizing casedBefore with
  | nil => rfl
  | cons character following ih =>
      rcases lowered character List.mem_cons_self with ⟨noSigma, noDotted, same⟩
      have rest := fun other member => lowered other (List.mem_cons_of_mem character member)
      rw [lowercaseFrom, lowercaseCharacter, if_neg noSigma, if_neg noDotted, same, ih rest]
      rfl

@[simp]
theorem lowercase_lowercase (text : String) : lowercase (lowercase text) = lowercase text := by
  have lowered : ∀ character ∈ lowercaseFrom false text.toList, IsLowered character :=
    fun _ member => isLowered_of_mem_lowercaseFrom member
  rw [lowercase, lowercase, String.toList_ofList, lowercaseFrom_eq_self lowered]

end TypedRecords
