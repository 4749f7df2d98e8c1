import TypedRecords.Proofs.Effect

/-!
# The names of classes

A class comes into existence only by a request that gives its name. The name is an accepted one, or
the request is a batch without records, which gives a name that is set and nothing to check it
with. So in a store that a run of requests leads to, the empty text is not the key of a class.

Accepted are the proper names, and each of them with a line feed at its end.
-/

namespace TypedRecords

/-- What follows the first character of a name are characters of names, the last of which a line
feed may follow. -/
theorem isNameRest_iff {characters : List Char} :
    isNameRest characters = true ↔
      (∀ character ∈ characters, isNamePart character = true) ∨
        ∃ front, characters = front ++ ['\n'] ∧
          ∀ character ∈ front, isNamePart character = true := by
  have lineFeed : isNamePart '\n' = false := by decide
  fun_induction isNameRest characters with
  | case1 => simp
  | case2 =>
      simp only [true_iff]
      right
      refine ⟨[], rfl, ?_⟩
      simp
  | case3 first rest last ih =>
      simp only [Bool.and_eq_true, ih, List.mem_cons, forall_eq_or_imp]
      constructor
      · rintro ⟨start, plain | ⟨front, rfl, plain⟩⟩
        · exact Or.inl ⟨start, plain⟩
        · refine Or.inr ⟨first :: front, rfl, ?_⟩
          simpa using ⟨start, plain⟩
      · rintro (⟨start, plain⟩ | ⟨front, split, plain⟩)
        · exact ⟨start, Or.inl plain⟩
        · cases front with
          | nil =>
              cases split
              exact (last rfl rfl).elim
          | cons head front =>
              cases split
              simp only [List.mem_cons, forall_eq_or_imp] at plain
              exact ⟨plain.1, Or.inr ⟨front, rfl, plain.2⟩⟩

/-- Accepted as names are the proper names, and each of them with a line feed at its end. -/
theorem isName_iff {name : String} :
    isName name = true ↔
      IsProperName name ∨ ∃ stem, IsProperName stem ∧ name = stem ++ "\n" := by
  rw [isName]
  constructor
  · intro accepted
    split at accepted
    · rename_i first rest characters
      simp only [Bool.and_eq_true, isNameRest_iff] at accepted
      rcases accepted with ⟨start, plain | ⟨front, rfl, plain⟩⟩
      · exact Or.inl ⟨first, rest, characters, start, plain⟩
      · right
        refine ⟨String.ofList (first :: front), ⟨first, front, by simp, start, plain⟩, ?_⟩
        apply String.toList_injective
        simp [characters]
    · cases accepted
  · rintro (⟨first, rest, characters, start, plain⟩ |
      ⟨stem, ⟨first, rest, characters, start, plain⟩, rfl⟩)
    · simp only [characters, Bool.and_eq_true, isNameRest_iff]
      exact ⟨start, Or.inl plain⟩
    · simp only [String.toList_append, characters, List.cons_append, Bool.and_eq_true,
        isNameRest_iff]
      exact ⟨start, Or.inr ⟨rest, rfl, plain⟩⟩

example : isName "Event_2" = true ∧ isName "Event\n" = true ∧ isName "2nd" = false := by decide

namespace Store

variable {store after : Store} {key other : Key} {source rest : IdSource} {now : Moment}
  {className : Json} {fields : List (String × Value)} {access : AccessPolicy} {record : Record}

theorem mem_schemas_commitSchema_iff {schema : Schema} :
    other ∈ Entries.keys (store.commitSchema key className schema).schemas ↔
      other ∈ Entries.keys store.schemas ∨ other = key := by
  rw [commitSchema, Entries.keys_set]
  split
  · constructor
    · exact Or.inl
    · rintro (present | rfl)
      · exact present
      · assumption
  · simp

theorem schemas_of_file {name : String}
    (done : store.file source now key name fields access = (record, after, rest)) :
    after.schemas = store.schemas := by
  rcases file_eq done with ⟨_, _, rfl⟩
  rfl

theorem schemas_of_fileAll {name : String} {items : List (List (String × Value) × AccessPolicy)}
    {records : List Record}
    (done : store.fileAll source now key name items = (records, after, rest)) :
    after.schemas = store.schemas := by
  induction items generalizing store source records with
  | nil =>
      cases done
      rfl
  | cons item others ih =>
      rcases fileAll_cons_eq done with ⟨record, middle, left, later, filed, more, rfl⟩
      rw [ih more, schemas_of_file filed]

theorem mem_schemas_of_insert
    (done : store.insert source now className fields access = .ok (record, after, rest))
    (present : key ∈ Entries.keys after.schemas) :
    key ∈ Entries.keys store.schemas ∨ ∃ name, key = .text name ∧ isName name = true := by
  rcases insert_eq_ok done with ⟨name, schema, rfl, named, _, _, filed⟩
  rw [schemas_of_file filed, mem_schemas_commitSchema_iff] at present
  exact present.imp_right fun same => ⟨name, same, named⟩

end Store

theorem Records.eq_nil_of_decodeBatch {items : List Json} {index : Nat}
    (decoded : decodeBatch index items = .ok []) : items = [] := by
  cases items with
  | nil => rfl
  | cons data rest =>
      simp only [decodeBatch, Except.bind_eq_ok_iff, Except.pure_eq_ok_iff] at decoded
      rcases decoded with ⟨_, _, _, _, impossible⟩
      cases impossible

namespace Request

variable {request : Request} {store after : Store} {key : Key}

/-- The request is a batch without records, for the class under a key. -/
structure BatchesNothing (request : Request) (key : Key) : Prop where
  named : request.name = .text "batchCreateRecords"
  empty : request.parameter "records" = .array []
  set : (request.parameter "className").isTruthy = true
  keyed : (request.parameter "className").key = .ok key

/-- A class that a request brings into existence has an accepted name, or the request is a batch
without records. -/
theorem Effect.mem_schemas (effect : request.Effect store after)
    (present : key ∈ Entries.keys after.schemas) :
    key ∈ Entries.keys store.schemas ∨ (∃ name, key = .text name ∧ isName name = true) ∨
      request.BatchesNothing key := by
  cases effect with
  | unchanged => exact Or.inl present
  | created _ _ done => exact (Store.mem_schemas_of_insert done present).imp_right Or.inl
  | updated _ _ _ done =>
      rcases Store.update_eq_ok done with ⟨name, _, _, schema, text, _, _, prepared, _, rfl⟩
      rcases Store.prepare_eq_ok prepared with ⟨_, again, named, _⟩
      rw [text] at again
      cases again
      exact (Store.mem_schemas_commitSchema_iff.mp present).imp_right
        fun same => Or.inl ⟨name, same, named⟩
  | deleted _ done =>
      rcases Store.delete_eq_ok done with ⟨_, _, _, _, _, _, rfl⟩
      exact Or.inl present
  | batched named set listed decoded done =>
      rcases Store.bulkInsert_eq_ok done with ⟨written, schema, keyed, items, _, _, filed⟩
      rw [Store.schemas_of_fileAll filed, Store.mem_schemas_commitSchema_iff] at present
      refine present.imp_right ?_
      rintro rfl
      rcases items with rfl | ⟨name, text, accepted⟩
      · rw [Records.eq_nil_of_decodeBatch decoded] at listed
        exact Or.inr ⟨named, listed, set, keyed⟩
      · rw [text] at keyed
        cases keyed
        exact Or.inl ⟨name, rfl, accepted⟩
  | seeded _ _ _ done => exact (Store.mem_schemas_of_insert done present).imp_right Or.inl
  | declared _ _ _ _ done =>
      rcases Store.declareClass_eq_ok done with ⟨name, schema, _, named, _, rfl⟩
      exact (Store.mem_schemas_commitSchema_iff.mp present).imp_right
        fun same => Or.inl ⟨name, same, named⟩
  | purged _ _ done =>
      rcases Store.purgeClass_eq_ok done with ⟨gone, _, _, _, _, rfl⟩
      left
      rw [Store.dropClass, Entries.keys_erase] at present
      exact List.mem_of_mem_filter present

end Request

/-- No class has the empty text for its name. -/
theorem Store.empty_not_mem_schemas (requests : List Request) :
    .text "" ∉ Entries.keys (({} : Store).after requests).schemas := by
  refine holds_after (fun store => .text "" ∉ Entries.keys store.schemas) ?_ .empty ?_ requests
  · intro request store after effect _ absent present
    rcases effect.mem_schemas present with old | ⟨name, same, named⟩ | nothing
    · exact absent old
    · cases same
      exact absurd named (by decide)
    · have set := nothing.set
      rw [Json.eq_text_of_key nothing.keyed] at set
      exact absurd set (by decide)
  · intro present
    cases present

/-- The text that names a class in a store that a run of requests leads to is not empty. -/
theorem Store.ne_empty_of_mem_schemas {requests : List Request} {name : String}
    (present : .text name ∈ Entries.keys (({} : Store).after requests).schemas) : name ≠ "" := by
  rintro rfl
  exact empty_not_mem_schemas requests present

end TypedRecords
