import TypedRecords.Proofs.Selection

/-!
# Operators that do not exist

A lenient compilation passes over operators that do not exist and does not look at their operands.
It comes to what a strict compilation comes to once these operators are erased from the filter, be
it predicates or a reason to refuse it. A strict compilation succeeds exactly if there is nothing
to erase and the lenient one succeeds.
-/

namespace TypedRecords.Filter

variable {strict : Bool} {field : String} {content : Json} {entries : List (String × Json)}
  {predicates : List Predicate}

/-- The operators of a field that exist. -/
def knownOperators (entries : List (String × Json)) : List (String × Json) :=
  entries.filter fun entry => isOperatorKey entry.1

/-- The content of a field without operators that do not exist. Literals stay as they are. -/
def withoutUnknown (content : Json) : Json :=
  match content with
  | .object entries =>
      if isOperatorObject content then .object (knownOperators entries) else content
  | _ => content

/-- The filter without operators that do not exist. -/
def eraseUnknown : Json → Json
  | .object entries => .object (entries.map fun entry => (entry.1, withoutUnknown entry.2))
  | filters => filters

theorem lookup_knownOperators (entries : List (String × Json)) (key : String) :
    (knownOperators entries).lookup key =
      if isOperatorKey key then entries.lookup key else none :=
  Entries.lookup_filter isOperatorKey entries key

theorem unknownKeys_eq_nil_iff : unknownKeys entries = [] ↔ knownOperators entries = entries := by
  rw [knownOperators, List.filter_eq_self, List.eq_nil_iff_forall_not_mem]
  simp only [unknownKeys, List.mem_mergeSort, List.mem_filter, Entries.keys, List.mem_map]
  constructor
  · intro none entry member
    by_contra unknown
    apply none entry.1
    exact ⟨⟨entry, member, rfl⟩, by simpa using unknown⟩
  · rintro known _ ⟨⟨entry, member, rfl⟩, unknown⟩
    simp [known entry member] at unknown

theorem unknownKeys_knownOperators (entries : List (String × Json)) :
    unknownKeys (knownOperators entries) = [] := by
  rw [unknownKeys_eq_nil_iff]
  simp [knownOperators]

theorem isOperatorObject_iff :
    isOperatorObject (.object entries) = true ↔ entries.lookup Json.tagKey = none := by
  simp [isOperatorObject, Json.isTagged]

theorem compileOperators_knownOperators (field : String) (entries : List (String × Json)) :
    compileOperators field (knownOperators entries) operators =
      compileOperators field entries operators := by
  apply compileOperators_congr
  intro entry member
  have known : isOperatorKey entry.1 = true := by
    simpa [isOperatorKey, Entries.hasKey, Entries.keys] using ⟨entry.2, member⟩
  rw [lookup_knownOperators, if_pos known]

/-- Without operators that do not exist, strictness does not matter. -/
theorem compileField_withoutUnknown (strict : Bool) (field : String) (content : Json) :
    compileField strict field (withoutUnknown content) = compileField false field content := by
  cases content with
  | object entries =>
      cases kind : isOperatorObject (.object entries) with
      | false => simp [withoutUnknown, compileField, kind]
      | true =>
          have untagged : isOperatorObject (.object (knownOperators entries)) = true := by
            rw [isOperatorObject_iff] at kind ⊢
            rw [lookup_knownOperators, kind, ite_self]
          simp [withoutUnknown, compileField, kind, untagged, compileOperatorObject,
            unknownKeys_knownOperators, compileOperators_knownOperators]
  | null => rfl
  | bool => rfl
  | int => rfl
  | double => rfl
  | text => rfl
  | array => rfl
  | foreign => rfl

/-- A strict compilation of a field succeeds where the lenient one does and there is nothing to
erase. -/
theorem compileField_strict_eq_ok_iff :
    compileField true field content = .ok predicates ↔
      withoutUnknown content = content ∧ compileField false field content = .ok predicates := by
  cases content with
  | object entries =>
      cases kind : isOperatorObject (.object entries) with
      | false => simp [withoutUnknown, compileField, kind]
      | true =>
          simp only [withoutUnknown, compileField, kind, ↓reduceIte, compileOperatorObject,
            Json.object.injEq, ← unknownKeys_eq_nil_iff]
          rcases unknownKeys entries with _ | ⟨key, others⟩
          · simp
          · simp
  | null => simp [withoutUnknown, compileField]
  | bool => simp [withoutUnknown, compileField]
  | int => simp [withoutUnknown, compileField]
  | double => simp [withoutUnknown, compileField]
  | text => simp [withoutUnknown, compileField]
  | array => simp [withoutUnknown, compileField]
  | foreign => simp [withoutUnknown, compileField]

theorem compileEntries_withoutUnknown (strict : Bool) (entries : List (String × Json)) :
    compileEntries strict (entries.map fun entry => (entry.1, withoutUnknown entry.2)) =
      compileEntries false entries := by
  induction entries with
  | nil => rfl
  | cons entry rest ih =>
      rcases entry with ⟨field, content⟩
      rw [List.map_cons, compileEntries, compileEntries, compileField_withoutUnknown, ih]

theorem compileEntries_strict_eq_ok_iff :
    compileEntries true entries = .ok predicates ↔
      (entries.map fun entry => (entry.1, withoutUnknown entry.2)) = entries ∧
        compileEntries false entries = .ok predicates := by
  induction entries generalizing predicates with
  | nil => simp [compileEntries]
  | cons entry rest ih =>
      rcases entry with ⟨field, content⟩
      simp only [compileEntries_cons_eq_ok_iff, compileField_strict_eq_ok_iff, ih, List.map_cons,
        List.cons.injEq, Prod.mk.injEq, true_and]
      constructor
      · rintro ⟨first, later, ⟨kept, compiled⟩, ⟨keptToo, more⟩, joined⟩
        exact ⟨⟨kept, keptToo⟩, first, later, compiled, more, joined⟩
      · rintro ⟨⟨kept, keptToo⟩, first, later, compiled, more, joined⟩
        exact ⟨first, later, ⟨kept, compiled⟩, ⟨keptToo, more⟩, joined⟩

/-- A lenient compilation of a filter is the strict compilation of what is left of it when the
operators that do not exist are erased, failures included. A strict compilation succeeds exactly if
nothing is to be erased and the lenient one succeeds, with the same predicates. What an operator
that does not exist is given can be anything. -/
theorem lenient_eq_strict_erased (filters : Json) :
    compile false filters = compile true (eraseUnknown filters) ∧
      ∀ predicates, compile true filters = .ok predicates ↔
        eraseUnknown filters = filters ∧ compile false filters = .ok predicates := by
  cases filters with
  | object entries =>
      constructor
      · exact (compileEntries_withoutUnknown true entries).symm
      · intro predicates
        rw [eraseUnknown, Json.object.injEq]
        exact compileEntries_strict_eq_ok_iff
  | null => simp [compile, eraseUnknown]
  | bool => simp [compile, eraseUnknown]
  | int => simp [compile, eraseUnknown]
  | double => simp [compile, eraseUnknown]
  | text => simp [compile, eraseUnknown]
  | array => simp [compile, eraseUnknown]
  | foreign => simp [compile, eraseUnknown]

example :
    compile false (.object [("n", .object [("$near", .object [("__type", .text "Odd")]),
      ("$gt", .int 1)])]) = .ok [⟨"n", .gt, .int 1⟩] := rfl

end TypedRecords.Filter
