import TypedRecords.Proofs.WellFormed

/-!
# Successful writes

Each call of the store succeeds in one way only. The lemmas below say, for each of them, what its
arguments were and what store it leaves.
-/

namespace TypedRecords.Store

variable {store after : Store} {source rest : IdSource} {now : Moment}
  {className objectId : Json} {fields : List (String × Value)} {record : Record}

theorem checkClassName_eq_ok_iff {name : String} :
    checkClassName className = .ok name ↔ className = .text name ∧ isName name = true := by
  cases className with
  | text written =>
      by_cases named : isName written = true
      · simp only [checkClassName, named, ↓reduceIte, Except.ok.injEq, Json.text.injEq]
        constructor
        · rintro rfl
          exact ⟨rfl, named⟩
        · exact And.left
      · simp only [checkClassName, named, Json.text.injEq]
        constructor
        · simp
        · rintro ⟨rfl, accepted⟩
          exact absurd accepted named
  | null => simp [checkClassName]
  | bool => simp [checkClassName]
  | int => simp [checkClassName]
  | double => simp [checkClassName]
  | array => simp [checkClassName]
  | object => simp [checkClassName]
  | foreign => simp [checkClassName]

theorem prepare_eq_ok {schema larger : Schema}
    (prepared : prepare className schema fields = .ok larger) :
    ∃ name, className = .text name ∧ isName name = true ∧ schema.Extends larger ∧
      larger.Covers fields := by
  simp only [prepare, Except.bind_eq_ok_iff, checkClassName_eq_ok_iff] at prepared
  rcases prepared with ⟨name, ⟨rfl, named⟩, inferred, done, merged⟩
  exact ⟨name, rfl, named, (Schema.extends_of_merge merged).1,
    Schema.covers_of_infer_merge done merged⟩

theorem eq_of_prepare {schema larger : Schema} (covered : schema.Covers fields)
    (prepared : prepare className schema fields = .ok larger) : larger = schema := by
  simp only [prepare, Except.bind_eq_ok_iff] at prepared
  rcases prepared with ⟨name, _, inferred, done, merged⟩
  exact Schema.eq_of_infer_merge covered done merged

theorem prepareAll_eq_ok {items : List (List (String × Value) × AccessPolicy)} {index : Nat}
    {schema larger : Schema} (prepared : prepareAll className index schema items = .ok larger) :
    schema.Extends larger ∧ (∀ item ∈ items, larger.Covers item.1) ∧
      (items = [] ∨ ∃ name, className = .text name ∧ isName name = true) := by
  induction items generalizing index schema with
  | nil =>
      cases prepared
      exact ⟨.refl, by simp, Or.inl rfl⟩
  | cons item others ih =>
      rcases item with ⟨fields, access⟩
      rw [prepareAll] at prepared
      split at prepared
      · simp at prepared
      · rename_i middle first
        rcases prepare_eq_ok first with ⟨name, text, named, grown, covered⟩
        rcases ih prepared with ⟨later, coveredLater, _⟩
        refine ⟨grown.trans later, ?_, Or.inr ⟨name, text, named⟩⟩
        intro item member
        rcases List.mem_cons.mp member with rfl | old
        · exact later.covers covered
        · exact coveredLater item old

theorem insert_eq_ok {access : AccessPolicy}
    (done : store.insert source now className fields access = .ok (record, after, rest)) :
    ∃ name schema, className = .text name ∧ isName name = true ∧
      (store.schemaOf (.text name)).Extends schema ∧ schema.Covers fields ∧
      (store.commitSchema (.text name) className schema).file source now (.text name) name fields
        access = (record, after, rest) := by
  simp only [insert, Except.bind_eq_ok_iff, Except.mapError_eq_ok_iff,
    Except.pure_eq_ok_iff] at done
  rcases done with ⟨key, keyed, schema, prepared, filed⟩
  rcases prepare_eq_ok prepared with ⟨name, rfl, named, grown, covered⟩
  cases keyed
  exact ⟨name, schema, rfl, named, grown, covered, filed⟩

theorem bulkInsert_eq_ok {items : List (List (String × Value) × AccessPolicy)}
    {records : List Record}
    (done : store.bulkInsert source now className items = .ok (records, after, rest)) :
    ∃ key schema, className.key = .ok key ∧
      (items = [] ∨ ∃ name, className = .text name ∧ isName name = true) ∧
      (store.schemaOf key).Extends schema ∧ (∀ item ∈ items, schema.Covers item.1) ∧
      (store.commitSchema key className schema).fileAll source now key className.display items =
        (records, after, rest) := by
  simp only [bulkInsert, Except.bind_eq_ok_iff, Except.mapError_eq_ok_iff,
    Except.pure_eq_ok_iff] at done
  rcases done with ⟨key, keyed, schema, prepared, filed⟩
  rcases prepareAll_eq_ok prepared with ⟨grown, covered, named⟩
  exact ⟨key, schema, keyed, named, grown, covered, filed⟩

theorem getById_eq_ok {found : Option Record}
    (done : store.getById className objectId = .ok found) :
    ∃ key objectKey, className.key = .ok key ∧ objectId.key = .ok objectKey ∧
      store.record? key objectKey = found := by
  simpa only [getById, Except.bind_eq_ok_iff, Except.mapError_eq_ok_iff, Except.pure_eq_ok_iff,
    exists_and_left] using done

theorem update_eq_ok (done : store.update now className objectId fields = .ok (record, after)) :
    ∃ name key existing schema, className = .text name ∧ objectId.key = .ok key ∧
      store.record? (.text name) key = some existing ∧
      prepare className (store.schemaOf (.text name)) fields = .ok schema ∧
      record = { existing with fields, updatedAt := now } ∧
      after = (store.commitSchema (.text name) className schema).setRecord (.text name) key
        record := by
  simp only [update, Except.bind_eq_ok_iff, Except.mapError_eq_ok_iff] at done
  rcases done with ⟨key, keyed, objectKey, objectKeyed, done⟩
  split at done
  · simp at done
  · rename_i existing found
    simp only [Except.bind_eq_ok_iff, Except.mapError_eq_ok_iff, Except.pure_eq_ok_iff,
      Prod.mk.injEq] at done
    rcases done with ⟨schema, prepared, rfl, rfl⟩
    rcases prepare_eq_ok prepared with ⟨name, rfl, _⟩
    cases keyed
    exact ⟨name, objectKey, existing, schema, rfl, objectKeyed, found, prepared, rfl, rfl⟩

theorem delete_eq_ok (done : store.delete className objectId = .ok after) :
    ∃ key objectKey existing, className.key = .ok key ∧ objectId.key = .ok objectKey ∧
      store.record? key objectKey = some existing ∧
      after = store.dropRecord key objectKey := by
  simp only [delete, Except.bind_eq_ok_iff, Except.mapError_eq_ok_iff] at done
  rcases done with ⟨key, keyed, objectKey, objectKeyed, done⟩
  split at done
  · simp at done
  · rename_i existing found
    simp only [Except.pure_eq_ok_iff] at done
    exact ⟨key, objectKey, existing, keyed, objectKeyed, found, done.symm⟩

theorem declareClass_eq_ok {added : Schema} {declared : Json × Schema}
    (done : store.declareClass className added = .ok (declared, after)) :
    ∃ name schema, className = .text name ∧ isName name = true ∧
      (store.schemaOf (.text name)).merge name added = .ok schema ∧
      after = store.commitSchema (.text name) className schema := by
  simp only [declareClass, Except.bind_eq_ok_iff, Except.mapError_eq_ok_iff,
    checkClassName_eq_ok_iff, Except.pure_eq_ok_iff, Prod.mk.injEq] at done
  rcases done with ⟨name, ⟨rfl, named⟩, key, keyed, schema, merged, _, rfl⟩
  cases keyed
  exact ⟨name, schema, rfl, named, merged, rfl⟩

theorem purgeClass_eq_ok (done : store.purgeClass className = .ok after) :
    ∃ key schema, className.key = .ok key ∧ store.schemas.lookup key = some schema ∧
      store.referrers key className = [] ∧ after = store.dropClass key := by
  simp only [purgeClass, Except.bind_eq_ok_iff, Except.mapError_eq_ok_iff] at done
  rcases done with ⟨key, keyed, done⟩
  split at done
  · simp at done
  · rename_i schema found
    split at done
    · rename_i free
      simp only [Except.pure_eq_ok_iff] at done
      exact ⟨key, schema, keyed, found, List.isEmpty_iff.mp free, done.symm⟩
    · simp at done

end TypedRecords.Store
