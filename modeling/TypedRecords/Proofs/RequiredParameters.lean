import TypedRecords.Proofs.Operations

/-!
# Parameters that are required

An operation is declared with the parameters that it requires and with those that must be arrays;
the latter are required as well. That is why it always has an answer about the parameters that are
given: none is missing, or a sentence names all that are required. An operation that only checks its
arrays would have no name to put into the sentence.
-/

namespace TypedRecords

/-- The sentences that require some names. A single name has a verb of its own, and of three names
or more each but the last has a comma behind it. -/
inductive Requires : List String → String → Prop where
  | one (name : String) : Requires [name] (name ++ " is required")
  | two (first second : String) :
      Requires [first, second] (first ++ " and " ++ second ++ " are required")
  | several {names : List String} (more : 2 ≤ names.length) (last : String) :
      Requires (names ++ [last])
        (String.join (names.map (· ++ ", ")) ++ "and " ++ last ++ " are required")

theorem intercalate_append {names : List String} (separator : String) (named : names ≠ []) :
    separator.intercalate names ++ separator = String.join (names.map (· ++ separator)) := by
  induction names with
  | nil => exact absurd rfl named
  | cons first rest ih =>
      cases rest with
      | nil => simp
      | cons second later =>
          rw [String.intercalate_cons_cons, String.append_assoc, ih (List.cons_ne_nil _ _)]
          simp only [List.map_cons, String.join_cons]

theorem joinNames_concat {names : List String} (more : 2 ≤ names.length) (last : String) :
    joinNames (names ++ [last]) = String.join (names.map (· ++ ", ")) ++ "and " ++ last := by
  have several {all : List String} (many : 3 ≤ all.length) :
      joinNames all = ", ".intercalate all.dropLast ++ ", and " ++ all.getLastD "" := by
    match all, many with
    | _ :: _ :: _ :: _, _ => rfl
  have named : names ≠ [] := by
    rintro rfl
    cases more
  have separator : ", and " = ", " ++ "and " := rfl
  rw [several (by simp; omega), List.dropLast_concat, List.getLastD_concat, separator,
    ← String.append_assoc, intercalate_append ", " named]

theorem requiredSentence_eq (names : List String) :
    requiredSentence names =
      joinNames names ++ if names.length = 1 then " is required" else " are required" := by
  rw [requiredSentence, String.append_assoc]
  split
  · rfl
  · rfl

theorem requires_requiredSentence {names : List String} (named : names ≠ []) :
    Requires names (requiredSentence names) := by
  rw [requiredSentence_eq]
  match names, named with
  | [name], _ => exact .one name
  | [first, second], _ => exact .two first second
  | first :: second :: third :: rest, _ =>
      rcases List.eq_nil_or_concat (third :: rest) with none | ⟨front, last, split⟩
      · cases none
      · have more : 2 ≤ (first :: second :: front).length := by simp
        have whole : first :: second :: third :: rest = first :: second :: front ++ [last] := by
          rw [split]
          simp
        rw [whole, joinNames_concat more, if_neg (by simp)]
        exact .several more last

namespace Json

variable {entries : List (String × Json)} {key : String}

theorem isBlank_entry_eq_false_iff :
    (entry entries key).isBlank = false ↔
      ∃ value, entries.lookup key = some value ∧ value ≠ .null ∧ value ≠ .text "" := by
  rw [entry]
  rcases entries.lookup key with _ | value
  · simp [isBlank]
  · cases value <;> simp [isBlank]

theorem isArray_entry_iff :
    (entry entries key).isArray = true ↔ ∃ items, entries.lookup key = some (.array items) := by
  rw [entry]
  rcases entries.lookup key with _ | value
  · simp [isArray]
  · cases value <;> simp [isArray]

end Json

namespace Operation

/-- All parameters that are required are given, and those that must be arrays are arrays. A
parameter that is null or the empty text counts as not given. -/
structure Supplied (required arrays : List String) (parameters : List (String × Json)) : Prop where
  given : ∀ name, name ∈ required ∨ name ∈ arrays →
    ∃ value, parameters.lookup name = some value ∧ value ≠ .null ∧ value ≠ .text ""
  listed : ∀ name ∈ arrays, ∃ items, parameters.lookup name = some (.array items)

variable (name : String) (required arrays : List String) (label : Option String)
  (answer : ServiceSettings → List (String × Json) → Action Json)

theorem requiredNames_declare :
    (declare name required arrays label answer).requiredNames =
      (required ++ arrays.filter (· ∉ required)).map fun name =>
        if name ∈ arrays then name ++ " array" else name := by
  simp [requiredNames, declare]

theorem arrays_subset_required_declare :
    arrays ⊆ (declare name required arrays label answer).required := by
  intro array member
  by_cases known : array ∈ required
  · exact List.mem_append_left _ known
  · exact List.mem_append_right _ (List.mem_filter.mpr ⟨member, by simpa using known⟩)

theorem missing_declare_eq_nil_iff (parameters : List (String × Json)) :
    (declare name required arrays label answer).missing parameters = [] ↔
      Supplied required arrays parameters := by
  simp only [missing_eq_nil_iff, declare, Json.isBlank_entry_eq_false_iff, Json.isArray_entry_iff,
    List.mem_append, List.mem_filter]
  constructor
  · rintro ⟨given, listed⟩
    refine ⟨fun name asked => given name ?_, listed⟩
    by_cases known : name ∈ required
    · exact Or.inl known
    · exact Or.inr ⟨asked.resolve_left known, by simpa using known⟩
  · rintro ⟨given, listed⟩
    exact ⟨fun name asked => given name (asked.imp_right And.left), listed⟩

/-- A declared operation says of any parameters, without fail, that all that it requires are
supplied, or it names all of them. -/
theorem required_parameters_told (parameters : List (String × Json)) :
    ∃ told, (declare name required arrays label answer).missingMessage? parameters = .ok told ∧
      (told = none ↔ Supplied required arrays parameters) ∧
      ∀ message, told = some message →
        Requires ((required ++ arrays.filter (· ∉ required)).map fun name =>
          if name ∈ arrays then name ++ " array" else name) message := by
  have complete := missing_declare_eq_nil_iff name required arrays label answer parameters
  have covered := arrays_subset_required_declare name required arrays label answer
  rw [missingMessage?]
  by_cases supplied : Supplied required arrays parameters
  · rw [complaint?_of_missing_eq_nil (complete.mpr supplied)]
    exact ⟨none, rfl, iff_of_true rfl supplied, nofun⟩
  · rcases complaint?_of_missing_ne_nil covered fun none => supplied (complete.mp none) with
      ⟨named, complained⟩
    rw [complained]
    refine ⟨_, rfl, iff_of_false nofun supplied, ?_⟩
    rintro _ ⟨⟩
    rw [← requiredNames_declare name required arrays label answer]
    exact requires_requiredSentence named

/-- One parameter is required twice over, and null is as good as none. -/
example : (declare "mergeBatches" ["className", "first"] ["first", "second"] label
    answer).missingMessage? [("className", .null), ("first", .array []), ("second", .array [])] =
      .ok (some "className, first array, and second array are required") := rfl

end Operation

end TypedRecords
