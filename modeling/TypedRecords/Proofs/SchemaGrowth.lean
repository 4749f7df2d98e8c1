import Mathlib.Data.List.Nodup
import TypedRecords.Proofs.Action
import TypedRecords.Schema

/-!
# Growth of schemas

A write extends the schema of its class at the end and changes nothing that the schema already
says, and after it the schema covers what was written: every field that is not null is known with
the descriptor of its value. Covering is kept by every further extension, so what one write
established no later write undoes.
-/

namespace TypedRecords

/-- Null is what has no type without being an error. -/
theorem Value.isNull_iff {value : Value} : value.isNull = true ↔ value.descriptor? = .ok none := by
  cases value <;> simp [Value.descriptor?, Value.isNull]

theorem Value.isNull_eq_false {value : Value} (typed : value.descriptor? ≠ .ok none) :
    value.isNull = false := by
  rw [← Bool.not_eq_true, isNull_iff]
  exact typed

end TypedRecords

namespace TypedRecords.Schema

/-- The schema begins with the fields that every record has, the names of its further fields are
accepted names, and no field is declared twice. -/
structure WellFormed (schema : Schema) : Prop where
  begins : ∃ further : Schema,
    schema = builtin ++ further ∧ ∀ field ∈ further, isName field.1 = true
  keys_nodup : (Entries.keys schema).Nodup

/-- Every field that is not null is in the schema, with the descriptor of its value. -/
def Covers (schema : Schema) (fields : List (String × Value)) : Prop :=
  ∀ field ∈ fields, field.2.isNull = false → ∃ descriptor,
    field.2.descriptor? = .ok (some descriptor) ∧ schema.lookup field.1 = some descriptor

/-- The larger schema is the smaller one followed by new fields with accepted names. -/
inductive Extends (schema : Schema) : Schema → Prop where
  | refl : Extends schema schema
  | add {larger : Schema} (grown : Extends schema larger) (field : String)
      (descriptor : FieldDescriptor) (named : isName field = true)
      (absent : larger.lookup field = none) :
      Extends schema (larger ++ [(field, descriptor)])

namespace Extends

theorem trans {first second third : Schema} (earlier : Extends first second)
    (later : Extends second third) : Extends first third := by
  induction later with
  | refl => exact earlier
  | add _ field descriptor named absent ih => exact ih.add field descriptor named absent

theorem lookup_eq_some {schema larger : Schema} (grown : Extends schema larger) {field : String}
    {descriptor : FieldDescriptor} (known : schema.lookup field = some descriptor) :
    larger.lookup field = some descriptor := by
  induction grown with
  | refl => exact known
  | add _ _ _ _ _ ih => simp [List.lookup_append, ih]

theorem covers {schema larger : Schema} (grown : Extends schema larger)
    {fields : List (String × Value)} (covered : schema.Covers fields) : larger.Covers fields := by
  intro field present set
  rcases covered field present set with ⟨descriptor, described, known⟩
  exact ⟨descriptor, described, grown.lookup_eq_some known⟩

theorem wellFormed {schema larger : Schema} (grown : Extends schema larger)
    (wellFormed : schema.WellFormed) : larger.WellFormed := by
  induction grown with
  | refl => exact wellFormed
  | @add larger _ field descriptor named absent ih =>
      rcases ih.begins with ⟨further, rfl, names⟩
      refine ⟨⟨further ++ [(field, descriptor)], by simp, ?_⟩, ?_⟩
      · intro present member
        rcases List.mem_append.mp member with old | new
        · exact names present old
        · rw [List.mem_singleton.mp new]
          exact named
      · have fresh : field ∉ Entries.keys (builtin ++ further) := by
          intro present
          rcases List.mem_map.mp present with ⟨entry, member, rfl⟩
          have different := List.lookup_eq_none_iff.mp absent entry member
          simp at different
        rw [Entries.keys, List.map_append]
        exact List.Nodup.append ih.keys_nodup (List.nodup_singleton _)
          (by simpa [Entries.keys] using fresh)

end Extends

theorem wellFormed_builtin : builtin.WellFormed :=
  ⟨⟨[], rfl, by simp⟩, by decide⟩

/-- Adding a field either finds it with the same descriptor or appends it. -/
theorem add_eq_ok_iff {className field : String} {schema larger : Schema}
    {descriptor : FieldDescriptor} :
    schema.add className field descriptor = .ok larger ↔ isName field = true ∧
      ((schema.lookup field = none ∧ larger = schema ++ [(field, descriptor)]) ∨
        (schema.lookup field = some descriptor ∧ larger = schema)) := by
  rw [add]
  by_cases named : isName field = true
  · simp only [named, Bool.not_true, Bool.false_eq_true, ↓reduceIte, true_and]
    split
    · rename_i absent
      simp [absent, eq_comm]
    · rename_i known found
      by_cases same : known = descriptor
      · simp [same, found, eq_comm]
      · simp [same, found]
  · simp [named]

theorem extends_of_add {className field : String} {schema larger : Schema}
    {descriptor : FieldDescriptor} (added : schema.add className field descriptor = .ok larger) :
    schema.Extends larger ∧ larger.lookup field = some descriptor := by
  rcases add_eq_ok_iff.mp added with ⟨named, ⟨absent, rfl⟩ | ⟨known, rfl⟩⟩
  · exact ⟨Extends.refl.add field descriptor named absent, by simp [List.lookup_append, absent]⟩
  · exact ⟨.refl, known⟩

theorem merge_cons (className : String) (schema : Schema) (entry : String × FieldDescriptor)
    (rest : Schema) :
    schema.merge className (entry :: rest) =
      (schema.add className entry.1 entry.2 >>= fun larger => larger.merge className rest) := by
  simp [merge]

theorem extends_of_merge {className : String} {schema incoming larger : Schema}
    (merged : schema.merge className incoming = .ok larger) :
    schema.Extends larger ∧ ∀ entry ∈ incoming, larger.lookup entry.1 = some entry.2 := by
  induction incoming generalizing schema with
  | nil =>
      cases merged
      exact ⟨.refl, by simp⟩
  | cons entry rest ih =>
      rw [merge_cons, Except.bind_eq_ok_iff] at merged
      rcases merged with ⟨middle, added, merged⟩
      have first := extends_of_add added
      have later := ih merged
      refine ⟨first.1.trans later.1, ?_⟩
      intro present member
      rcases List.mem_cons.mp member with rfl | old
      · exact later.1.lookup_eq_some first.2
      · exact later.2 present old

/-- A schema that already says all that is merged into it stays as it is. -/
theorem eq_of_merge {className : String} {schema incoming larger : Schema}
    (known : ∀ entry ∈ incoming, schema.lookup entry.1 = some entry.2)
    (merged : schema.merge className incoming = .ok larger) : larger = schema := by
  induction incoming with
  | nil =>
      cases merged
      rfl
  | cons entry rest ih =>
      rw [merge_cons, Except.bind_eq_ok_iff] at merged
      rcases merged with ⟨middle, added, merged⟩
      have present := known entry List.mem_cons_self
      rcases add_eq_ok_iff.mp added with ⟨_, ⟨absent, _⟩ | ⟨_, rfl⟩⟩
      · rw [present] at absent
        cases absent
      · exact ih (fun other member => known other (List.mem_cons_of_mem entry member)) merged

/-- The descriptors that are inferred from fields are those of the fields that are not null; null
alone has none. -/
theorem mem_of_infer {fields : List (String × Value)} {inferred : Schema}
    (done : infer fields = .ok inferred) :
    ∀ field ∈ fields, field.2.isNull = false → ∃ descriptor,
      field.2.descriptor? = .ok (some descriptor) ∧ (field.1, descriptor) ∈ inferred := by
  induction fields generalizing inferred with
  | nil => simp
  | cons entry rest ih =>
      rcases entry with ⟨name, value⟩
      rw [infer] at done
      intro field member set
      rcases described : value.descriptor? with _ | _ | descriptor
      · simp [described] at done
      · have unset : value.isNull = true := Value.isNull_iff.mpr described
        simp only [described] at done
        rcases List.mem_cons.mp member with rfl | old
        · simp [unset] at set
        · exact ih done field old set
      · simp only [described, Except.bind_eq_ok_iff, Except.pure_eq_ok_iff] at done
        rcases done with ⟨others, inferredRest, rfl⟩
        rcases List.mem_cons.mp member with rfl | old
        · exact ⟨descriptor, described, List.mem_cons_self⟩
        · rcases ih inferredRest field old set with ⟨found, same, member⟩
          exact ⟨found, same, List.mem_cons_of_mem _ member⟩

theorem exists_of_mem_infer {fields : List (String × Value)} {inferred : Schema}
    (done : infer fields = .ok inferred) {entry : String × FieldDescriptor}
    (member : entry ∈ inferred) : ∃ field ∈ fields, field.1 = entry.1 ∧
      field.2.isNull = false ∧ field.2.descriptor? = .ok (some entry.2) := by
  induction fields generalizing inferred with
  | nil =>
      cases done
      simp at member
  | cons first rest ih =>
      rcases first with ⟨name, value⟩
      rw [infer] at done
      rcases described : value.descriptor? with _ | _ | descriptor
      · simp [described] at done
      · simp only [described] at done
        rcases ih done member with ⟨field, old, same⟩
        exact ⟨field, List.mem_cons_of_mem _ old, same⟩
      · simp only [described, Except.bind_eq_ok_iff, Except.pure_eq_ok_iff] at done
        rcases done with ⟨others, inferredRest, rfl⟩
        rcases List.mem_cons.mp member with rfl | old
        · have given : value.isNull = false := Value.isNull_eq_false (by simp [described])
          exact ⟨(name, value), List.mem_cons_self, rfl, given, described⟩
        · rcases ih inferredRest old with ⟨field, present, same⟩
          exact ⟨field, List.mem_cons_of_mem _ present, same⟩

/-- A schema that covers fields is not changed by them. -/
theorem eq_of_infer_merge {className : String} {schema inferred larger : Schema}
    {fields : List (String × Value)} (covered : schema.Covers fields)
    (done : infer fields = .ok inferred) (merged : schema.merge className inferred = .ok larger) :
    larger = schema := by
  apply eq_of_merge _ merged
  intro entry member
  rcases exists_of_mem_infer done member with ⟨field, present, same, set, described⟩
  rcases covered field present set with ⟨descriptor, describedAgain, known⟩
  rw [described] at describedAgain
  cases describedAgain
  rw [← same]
  exact known

theorem covers_of_infer_merge {className : String} {schema inferred larger : Schema}
    {fields : List (String × Value)} (done : infer fields = .ok inferred)
    (merged : schema.merge className inferred = .ok larger) : larger.Covers fields := by
  intro field present set
  rcases mem_of_infer done field present set with ⟨descriptor, described, member⟩
  exact ⟨descriptor, described, (extends_of_merge merged).2 _ member⟩

end TypedRecords.Schema
