import TypedRecords.Proofs.FieldNames

/-!
# When a write is accepted

A schema takes fields whose names are accepted and whose values have the types that the schema gives
them; what it does not know it can learn. Null is always taken. So fields that a schema covers never
stand in the way of a write: if a patch is merged into them, it depends on the patch alone.
-/

namespace TypedRecords

namespace Schema

variable {schema larger : Schema} {fields patch : List (String × Value)}

/-- The value has the type that the schema gives the field, or any type if the schema does not know
the field. A value of a kind that no field can hold has no type, and fits no schema. -/
def Fits (schema : Schema) (entry : String × Value) : Prop :=
  ∃ descriptor, entry.2.descriptor? = .ok (some descriptor) ∧
    (schema.lookup entry.1 = none ∨ schema.lookup entry.1 = some descriptor)

/-- The schema takes the field: its value is null, or its name is accepted and its value fits. -/
def Admits (schema : Schema) (entry : String × Value) : Prop :=
  entry.2.isNull = false → isName entry.1 = true ∧ schema.Fits entry

/-- Of two fields with one name that the schema does not know, the second is null. -/
def LearnsOnce (schema : Schema) (fields : List (String × Value)) : Prop :=
  fields.Pairwise fun first second =>
    first.1 = second.1 → schema.lookup second.1 = none → second.2.isNull = true

theorem LearnsOnce.merge (once : schema.LearnsOnce fields) (patch : List (String × Value)) :
    schema.LearnsOnce (Entries.merge fields patch) :=
  Entries.Repeats.merge once patch

/-- What a schema covers it knows, unless it is null. -/
theorem Covers.learnsOnce (covered : schema.Covers fields) : schema.LearnsOnce fields := by
  refine List.pairwise_of_forall_mem_list ?_
  intro first _ second member _ unknown
  rw [← Bool.not_eq_false]
  intro given
  rcases covered second member given with ⟨descriptor, _, known⟩
  rw [unknown] at known
  cases known

theorem Covers.admits (wellFormed : schema.WellFormed) (covered : schema.Covers fields)
    {entry : String × Value} (member : entry ∈ fields) : schema.Admits entry := by
  intro given
  rcases covered entry member given with ⟨descriptor, described, known⟩
  exact ⟨wellFormed.isName_of_lookup known, descriptor, described, Or.inr known⟩

theorem lookup_of_add {className field other : String} {descriptor : FieldDescriptor}
    (added : schema.add className field descriptor = .ok larger) (different : other ≠ field) :
    larger.lookup other = schema.lookup other := by
  rcases add_eq_ok_iff.mp added with ⟨_, ⟨_, rfl⟩ | ⟨_, rfl⟩⟩
  · have unequal : (other == field) = false := by simpa using different
    simp [List.lookup_append, List.lookup_cons, unequal]
  · rfl

theorem lookup_eq_none_of_add {className field other : String} {descriptor : FieldDescriptor}
    (added : schema.add className field descriptor = .ok larger)
    (unknown : larger.lookup other = none) : schema.lookup other = none := by
  rcases known : schema.lookup other with _ | before
  · rfl
  · rw [(extends_of_add added).1.lookup_eq_some known] at unknown
    cases unknown

/-- A field that a schema takes it still takes once it has learnt another, or this one if that was
known. -/
theorem Admits.of_add {className field : String} {descriptor : FieldDescriptor}
    {entry : String × Value} (admitted : schema.Admits entry)
    (added : schema.add className field descriptor = .ok larger)
    (once : field = entry.1 → schema.lookup entry.1 = none → entry.2.isNull = true) :
    larger.Admits entry := by
  intro given
  rcases admitted given with ⟨named, found, described, unknown | known⟩
  · refine ⟨named, found, described, Or.inl ?_⟩
    have different : entry.1 ≠ field := by
      intro same
      rw [once same.symm unknown] at given
      cases given
    rw [lookup_of_add added different, unknown]
  · exact ⟨named, found, described, Or.inr ((extends_of_add added).1.lookup_eq_some known)⟩

theorem exists_add (className : String) {entry : String × Value} {descriptor : FieldDescriptor}
    (admitted : schema.Admits entry) (described : entry.2.descriptor? = .ok (some descriptor)) :
    ∃ larger, schema.add className entry.1 descriptor = .ok larger := by
  have given : entry.2.isNull = false := Value.isNull_eq_false (by simp [described])
  rcases admitted given with ⟨named, found, same, unknown | known⟩
  · exact ⟨_, add_eq_ok_iff.mpr ⟨named, Or.inl ⟨unknown, rfl⟩⟩⟩
  · rw [described] at same
    cases same
    exact ⟨_, add_eq_ok_iff.mpr ⟨named, Or.inr ⟨known, rfl⟩⟩⟩

/-- A schema that takes all of the fields has a larger one once they are written: each of their
values has a type or is null, and because the schema learns a field at most once, a later field of
the same name is null. -/
theorem exists_infer_merge (className : String) (admitted : ∀ entry ∈ fields, schema.Admits entry)
    (once : schema.LearnsOnce fields) :
    ∃ inferred larger, infer fields = .ok inferred ∧
      schema.merge className inferred = .ok larger := by
  induction fields generalizing schema with
  | nil => exact ⟨[], schema, rfl, rfl⟩
  | cons first rest ih =>
      rcases first with ⟨field, value⟩
      rw [LearnsOnce, List.pairwise_cons] at once
      have here := admitted (field, value) List.mem_cons_self
      have later : ∀ entry ∈ rest, schema.Admits entry :=
        fun entry member => admitted entry (List.mem_cons_of_mem _ member)
      rw [infer]
      rcases described : value.descriptor? with kind | _ | descriptor
      · have given : value.isNull = false := Value.isNull_eq_false (by simp [described])
        rcases here given with ⟨_, descriptor, same, _⟩
        rw [described] at same
        cases same
      · exact ih later once.2
      · rcases exists_add className here described with ⟨middle, added⟩
        have admittedLater : ∀ entry ∈ rest, middle.Admits entry :=
          fun entry member => (later entry member).of_add added (once.1 entry member)
        have onceLater : middle.LearnsOnce rest :=
          once.2.imp fun still same unknown => still same (lookup_eq_none_of_add added unknown)
        rcases ih admittedLater onceLater with ⟨inferred, larger, done, merged⟩
        refine ⟨(field, descriptor) :: inferred, larger, ?_, ?_⟩
        · simp only [done]
          rfl
        · rw [merge_cons, added]
          exact merged

end Schema

namespace Store

variable {name : String} {schema : Schema} {fields patch : List (String × Value)}

theorem exists_prepare (named : isName name = true)
    (admitted : ∀ entry ∈ fields, schema.Admits entry) (once : schema.LearnsOnce fields) :
    ∃ larger, prepare (.text name) schema fields = .ok larger := by
  rcases Schema.exists_infer_merge name admitted once with ⟨inferred, larger, done, merged⟩
  refine ⟨larger, ?_⟩
  simp only [prepare, checkClassName_eq_ok_iff.mpr ⟨rfl, named⟩, done]
  exact merged

/-- Writing a patch over fields that the schema covers is accepted if the schema takes each entry of
the patch. -/
theorem exists_prepare_merge (named : isName name = true)
    (wellFormed : schema.WellFormed) (covered : schema.Covers fields)
    (admitted : ∀ entry ∈ patch, schema.Admits entry) :
    ∃ larger, prepare (.text name) schema (Entries.merge fields patch) = .ok larger := by
  apply exists_prepare named _ (covered.learnsOnce.merge patch)
  intro entry member
  rcases Entries.mem_of_mem_merge member with old | new
  · exact covered.admits wellFormed old
  · exact admitted entry new

end Store

end TypedRecords
