import TypedRecords.Proofs.BulkInsert
import TypedRecords.Proofs.UpdateFootprint

/-!
# The order of merging

Fields are merged into a schema one after the other, and the first conflict ends the merge. Whether
there is a conflict, and what the schema says of each field in the end, can nevertheless be told
from the fields as a set: `Schema.Reconciles` and `Schema.TakesAll` mention only which fields are
there. So a batch is accepted in every order of its items or in none, and declarations of a class
succeed in every order or in none; only the order in which the schema lists its fields can differ.
-/

namespace TypedRecords

namespace Schema

variable {className : String} {schema incoming larger : Schema} {field : String}
  {descriptor : FieldDescriptor}

/-- The incoming fields have accepted names, and each of them has the descriptor that the schema or
another incoming field has under the same name. -/
structure Reconciles (schema incoming : Schema) : Prop where
  named : ∀ entry ∈ incoming, isName entry.1 = true
  known : ∀ entry ∈ incoming, ∀ found, schema.lookup entry.1 = some found → found = entry.2
  agreed : ∀ first ∈ incoming, ∀ second ∈ incoming, first.1 = second.1 → first.2 = second.2

theorem Reconciles.of_perm {permuted : Schema} (reconciles : schema.Reconciles incoming)
    (perm : incoming.Perm permuted) : schema.Reconciles permuted where
  named entry member := reconciles.named entry (perm.mem_iff.mpr member)
  known entry member := reconciles.known entry (perm.mem_iff.mpr member)
  agreed first firstMember second secondMember :=
    reconciles.agreed first (perm.mem_iff.mpr firstMember) second (perm.mem_iff.mpr secondMember)

theorem isName_of_merge (merged : schema.merge className incoming = .ok larger) :
    ∀ entry ∈ incoming, isName entry.1 = true := by
  induction incoming generalizing schema with
  | nil => simp
  | cons entry rest ih =>
      rw [merge_cons, Except.bind_eq_ok_iff] at merged
      rcases merged with ⟨middle, added, merged⟩
      intro other member
      rcases List.mem_cons.mp member with rfl | later
      · exact (add_eq_ok_iff.mp added).1
      · exact ih merged other later

/-- Incoming fields can be merged into a schema exactly if they agree with it and with each other.
What the schema has learnt from the first field agrees with the others, so the condition passes on
to the rest. -/
theorem exists_merge_iff :
    (∃ larger, schema.merge className incoming = .ok larger) ↔ schema.Reconciles incoming := by
  constructor
  · rintro ⟨larger, merged⟩
    rcases extends_of_merge merged with ⟨grown, learnt⟩
    refine ⟨isName_of_merge merged, ?_, ?_⟩
    · intro entry member found known
      have kept := grown.lookup_eq_some known
      rw [learnt entry member] at kept
      exact (Option.some.inj kept).symm
    · intro first firstMember second secondMember same
      have found := learnt first firstMember
      rw [same, learnt second secondMember] at found
      exact (Option.some.inj found).symm
  · intro reconciles
    induction incoming generalizing schema with
    | nil => exact ⟨schema, rfl⟩
    | cons entry rest ih =>
        have here : entry ∈ entry :: rest := List.mem_cons_self
        have added : ∃ middle, schema.add className entry.1 entry.2 = .ok middle := by
          have named := reconciles.named entry here
          rcases known : schema.lookup entry.1 with _ | found
          · exact ⟨_, add_eq_ok_iff.mpr ⟨named, Or.inl ⟨known, rfl⟩⟩⟩
          · rw [reconciles.known entry here found known] at known
            exact ⟨_, add_eq_ok_iff.mpr ⟨named, Or.inr ⟨known, rfl⟩⟩⟩
        rcases added with ⟨middle, added⟩
        have later : middle.Reconciles rest := by
          refine ⟨?_, ?_, ?_⟩
          · intro other member
            exact reconciles.named other (List.mem_cons_of_mem _ member)
          · intro other member found known
            by_cases same : other.1 = entry.1
            · rw [same, (extends_of_add added).2] at known
              rw [← Option.some.inj known]
              exact reconciles.agreed entry here other (List.mem_cons_of_mem _ member) same.symm
            · rw [lookup_of_add added same] at known
              exact reconciles.known other (List.mem_cons_of_mem _ member) found known
          · intro first firstMember second secondMember
            exact reconciles.agreed first (List.mem_cons_of_mem _ firstMember) second
              (List.mem_cons_of_mem _ secondMember)
        rcases ih later with ⟨larger, merged⟩
        refine ⟨larger, ?_⟩
        rw [merge_cons, added]
        exact merged

/-- After a merge the schema says what it said before and what came in. -/
theorem lookup_merge_iff (merged : schema.merge className incoming = .ok larger) :
    larger.lookup field = some descriptor ↔
      schema.lookup field = some descriptor ∨ (field, descriptor) ∈ incoming := by
  rcases extends_of_merge merged with ⟨grown, learnt⟩
  constructor
  · exact lookup_of_merge merged
  · rintro (known | member)
    · exact grown.lookup_eq_some known
    · exact learnt _ member

theorem merge_append (className : String) (schema first second : Schema) :
    schema.merge className (first ++ second) =
      (schema.merge className first >>= fun larger => larger.merge className second) := by
  rw [merge, List.foldlM_append]
  rfl

/-- All fields are taken by the schema, in whatever order they come: each of them that is not null
has an accepted name and a type, and this is the type that the schema or another value has for the
field. -/
structure TakesAll (schema : Schema) (fields : List (String × Value)) : Prop where
  admitted : ∀ entry ∈ fields, schema.Admits entry
  agreed : ∀ first ∈ fields, ∀ second ∈ fields, first.1 = second.1 →
    first.2.isNull = false → second.2.isNull = false → first.2.descriptor? = second.2.descriptor?

theorem TakesAll.of_perm {fields permuted : List (String × Value)} (taken : schema.TakesAll fields)
    (perm : fields.Perm permuted) : schema.TakesAll permuted where
  admitted entry member := taken.admitted entry (perm.mem_iff.mpr member)
  agreed first firstMember second secondMember :=
    taken.agreed first (perm.mem_iff.mpr firstMember) second (perm.mem_iff.mpr secondMember)

theorem infer_append (first second : List (String × Value)) :
    infer (first ++ second) = (do
      let inferred ← infer first
      let others ← infer second
      return inferred ++ others) := by
  induction first with
  | nil =>
      rw [List.nil_append]
      rcases infer second with reason | inferred
      · rfl
      · rfl
  | cons entry rest ih =>
      rcases entry with ⟨name, value⟩
      rw [List.cons_append, infer, infer]
      rcases value.descriptor? with kind | _ | described
      · rfl
      · exact ih
      · simp only [ih]
        rcases infer rest with reason | inferred
        · rfl
        · rcases infer second with reason | others
          · rfl
          · rfl

/-- The descriptors that are inferred are those of the values that have one. -/
theorem mem_infer_iff {fields : List (String × Value)} {inferred : Schema}
    (done : infer fields = .ok inferred) :
    (field, descriptor) ∈ inferred ↔
      ∃ value, (field, value) ∈ fields ∧ value.descriptor? = .ok (some descriptor) := by
  constructor
  · intro member
    rcases exists_of_mem_infer done member with ⟨⟨name, value⟩, present, rfl, _, described⟩
    exact ⟨value, present, described⟩
  · rintro ⟨value, present, described⟩
    rcases mem_of_infer done _ present (Value.isNull_eq_false (by simp [described])) with
      ⟨found, same, member⟩
    rw [described] at same
    cases same
    exact member

/-- Descriptors can be inferred if every value that is not null has one. -/
theorem exists_infer {fields : List (String × Value)}
    (described : ∀ entry ∈ fields, entry.2.isNull = false →
      ∃ descriptor, entry.2.descriptor? = .ok (some descriptor)) :
    ∃ inferred, infer fields = .ok inferred := by
  induction fields with
  | nil => exact ⟨[], rfl⟩
  | cons entry rest ih =>
      rcases entry with ⟨name, value⟩
      rcases ih fun other member => described other (List.mem_cons_of_mem _ member) with
        ⟨others, done⟩
      rw [infer]
      rcases typed : value.descriptor? with kind | _ | descriptor
      · have given : value.isNull = false := Value.isNull_eq_false (by simp [typed])
        rcases described (name, value) List.mem_cons_self given with ⟨descriptor, same⟩
        rw [typed] at same
        cases same
      · exact ⟨others, done⟩
      · refine ⟨(name, descriptor) :: others, ?_⟩
        simp only [done]
        rfl

/-- Fields can be written exactly if the schema takes all of them. -/
theorem exists_infer_merge_iff {fields : List (String × Value)} :
    (∃ inferred larger, infer fields = .ok inferred ∧
      schema.merge className inferred = .ok larger) ↔ schema.TakesAll fields := by
  constructor
  · rintro ⟨inferred, larger, done, merged⟩
    have reconciles := exists_merge_iff.mp ⟨larger, merged⟩
    refine ⟨?_, ?_⟩
    · intro entry present given
      rcases mem_of_infer done entry present given with ⟨descriptor, described, member⟩
      refine ⟨reconciles.named _ member, descriptor, described, ?_⟩
      rcases known : schema.lookup entry.1 with _ | found
      · exact Or.inl rfl
      · exact Or.inr (congrArg some (reconciles.known _ member found known))
    · intro first firstPresent second secondPresent same firstGiven secondGiven
      rcases mem_of_infer done first firstPresent firstGiven with ⟨_, firstTyped, firstMember⟩
      rcases mem_of_infer done second secondPresent secondGiven with ⟨_, secondTyped, secondMember⟩
      have agreed := reconciles.agreed _ firstMember _ secondMember same
      simp only at agreed
      rw [firstTyped, secondTyped, agreed]
  · intro taken
    have described : ∀ entry ∈ fields, entry.2.isNull = false →
        ∃ descriptor, entry.2.descriptor? = .ok (some descriptor) := by
      intro entry present given
      rcases taken.admitted entry present given with ⟨_, descriptor, typed, _⟩
      exact ⟨descriptor, typed⟩
    rcases exists_infer described with ⟨inferred, done⟩
    have reconciles : schema.Reconciles inferred := by
      refine ⟨?_, ?_, ?_⟩
      · rintro ⟨name, descriptor⟩ member
        rcases (mem_infer_iff done).mp member with ⟨value, present, typed⟩
        exact (taken.admitted _ present (Value.isNull_eq_false (by simp [typed]))).1
      · rintro ⟨name, descriptor⟩ member found known
        rcases (mem_infer_iff done).mp member with ⟨value, present, typed⟩
        rcases taken.admitted _ present (Value.isNull_eq_false (by simp [typed])) with
          ⟨_, _, same, fits⟩
        rw [typed] at same
        cases same
        rw [known] at fits
        simpa using fits
      · rintro ⟨name, first⟩ firstMember ⟨_, second⟩ secondMember rfl
        rcases (mem_infer_iff done).mp firstMember with ⟨value, present, typed⟩
        rcases (mem_infer_iff done).mp secondMember with ⟨other, otherPresent, otherTyped⟩
        have same := taken.agreed _ present _ otherPresent rfl
          (Value.isNull_eq_false (by simp [typed])) (Value.isNull_eq_false (by simp [otherTyped]))
        rw [typed, otherTyped] at same
        simpa using same
    rcases exists_merge_iff.mpr reconciles with ⟨larger, merged⟩
    exact ⟨inferred, larger, done, merged⟩

end Schema

namespace Store

variable {store after : Store} {source rest : IdSource} {now : Moment} {name : String}
  {items permuted : List (List (String × Value) × AccessPolicy)} {schema larger : Schema}
  {index : Nat}

theorem prepare_eq_ok_iff (named : isName name = true) {fields : List (String × Value)} :
    prepare (.text name) schema fields = .ok larger ↔
      ∃ inferred, Schema.infer fields = .ok inferred ∧ schema.merge name inferred = .ok larger := by
  have checked : checkClassName (.text name) = .ok name :=
    checkClassName_eq_ok_iff.mpr ⟨rfl, named⟩
  simp only [prepare, checked, Except.bind_eq_ok_iff, Except.ok.injEq, exists_eq_left']

theorem prepareAll_cons_eq_ok_iff {className : Json}
    {item : List (String × Value) × AccessPolicy} :
    prepareAll className index schema (item :: items) = .ok larger ↔
      ∃ middle, prepare className schema item.1 = .ok middle ∧
        prepareAll className (index + 1) middle items = .ok larger := by
  rw [prepareAll]
  rcases prepare className schema item.1 with reason | middle
  · simp
  · simp

/-- Preparing the items of a batch in turn comes to preparing all their fields at once. -/
theorem prepareAll_eq_ok_iff (named : isName name = true) :
    prepareAll (.text name) index schema items = .ok larger ↔
      ∃ inferred, Schema.infer (items.flatMap Prod.fst) = .ok inferred ∧
        schema.merge name inferred = .ok larger := by
  induction items generalizing index schema with
  | nil =>
      simp only [prepareAll, List.flatMap_nil, Schema.infer, Except.pure_eq_ok_iff]
      constructor
      · intro same
        exact ⟨[], rfl, same⟩
      · rintro ⟨_, rfl, merged⟩
        exact merged
  | cons item others ih =>
      simp only [prepareAll_cons_eq_ok_iff, prepare_eq_ok_iff named, ih, List.flatMap_cons,
        Schema.infer_append, Except.bind_eq_ok_iff, Except.pure_eq_ok_iff]
      constructor
      · rintro ⟨middle, ⟨first, done, merged⟩, second, doneLater, mergedLater⟩
        refine ⟨first ++ second, ⟨first, done, second, doneLater, rfl⟩, ?_⟩
        rw [Schema.merge_append, merged]
        exact mergedLater
      · rintro ⟨_, ⟨first, done, second, doneLater, rfl⟩, merged⟩
        rw [Schema.merge_append, Except.bind_eq_ok_iff] at merged
        rcases merged with ⟨middle, merged, mergedLater⟩
        exact ⟨middle, ⟨first, done, merged⟩, second, doneLater, mergedLater⟩

theorem exists_prepareAll_iff (named : isName name = true) :
    (∃ larger, prepareAll (.text name) index schema items = .ok larger) ↔
      schema.TakesAll (items.flatMap Prod.fst) := by
  rw [← @Schema.exists_infer_merge_iff name]
  simp only [prepareAll_eq_ok_iff named]
  exact exists_comm

/-- A batch is accepted exactly if the schema of its class takes all fields of its items. -/
theorem exists_bulkInsert_iff (named : isName name = true) :
    (∃ created, store.bulkInsert source now (.text name) items = .ok created) ↔
      (store.schemaOf (.text name)).TakesAll (items.flatMap Prod.fst) := by
  rw [← @exists_prepareAll_iff name items (store.schemaOf (.text name)) 0 named, bulkInsert_text]
  rcases prepareAll (.text name) 0 (store.schemaOf (.text name)) items with reason | schema
  · simp
  · simp

/-- What the schemas say after a batch: what they said before, and in its class the types of the
values that were written. -/
theorem lookup_schemaOf_bulkInsert (named : isName name = true) {records : List Record}
    (done : store.bulkInsert source now (.text name) items = .ok (records, after, rest))
    {key : Key} {field : String} {descriptor : FieldDescriptor} :
    (after.schemaOf key).lookup field = some descriptor ↔
      (store.schemaOf key).lookup field = some descriptor ∨
        key = .text name ∧ ∃ value, (field, value) ∈ items.flatMap Prod.fst ∧
          value.descriptor? = .ok (some descriptor) := by
  rw [bulkInsert_text] at done
  split at done
  · cases done
  · rename_i schema prepared
    rcases (prepareAll_eq_ok_iff named).mp prepared with ⟨inferred, inferredAll, merged⟩
    rw [schemaOf, schemas_of_fileAll (Except.ok.inj done), ← schemaOf, schemaOf_commitSchema]
    by_cases same : key = .text name
    · subst same
      rw [if_pos rfl, Schema.lookup_merge_iff merged, Schema.mem_infer_iff inferredAll]
      simp
    · simp [same]

/-- Declare fields of a class by several calls, one after the other. -/
def declareEach (store : Store) (className : Json) : List Schema → Except Failure Store
  | [] => .ok store
  | fields :: rest => do
      let (_, declared) ← store.declareClass className fields
      declared.declareEach className rest

section Declaring

variable {className : Json} {calls : List Schema}

theorem declareEach_cons_eq_ok_iff {fields : Schema} :
    store.declareEach className (fields :: calls) = .ok after ↔
      ∃ declared middle, store.declareClass className fields = .ok (declared, middle) ∧
        middle.declareEach className calls = .ok after := by
  simp only [declareEach, Except.bind_eq_ok_iff, Prod.exists]

theorem declareClass_of_merge (named : isName name = true) {fields : Schema}
    (merged : (store.schemaOf (.text name)).merge name fields = .ok larger) :
    store.declareClass (.text name) fields =
      .ok ((.text name, larger), store.commitSchema (.text name) (.text name) larger) := by
  simp only [declareClass, checkClassName_eq_ok_iff.mpr ⟨rfl, named⟩, Json.key,
    Except.mapError_ok, bind, Except.bind, merged]
  rfl

/-- Several declarations succeed exactly if all their fields can be merged at once. -/
theorem exists_declareEach_text_iff (named : isName name = true) :
    (∃ after, store.declareEach (.text name) calls = .ok after) ↔
      ∃ larger, (store.schemaOf (.text name)).merge name calls.flatten = .ok larger := by
  induction calls generalizing store with
  | nil => exact ⟨fun _ => ⟨_, rfl⟩, fun _ => ⟨_, rfl⟩⟩
  | cons fields others ih =>
      simp only [declareEach_cons_eq_ok_iff, List.flatten_cons, Schema.merge_append,
        Except.bind_eq_ok_iff]
      constructor
      · rintro ⟨after, _, middle, declared, later⟩
        rcases declareClass_eq_ok declared with ⟨_, schema, text, _, merged, rfl⟩
        cases text
        rcases ih.mp ⟨after, later⟩ with ⟨larger, mergedLater⟩
        rw [schemaOf_commitSchema, if_pos rfl] at mergedLater
        exact ⟨larger, schema, merged, mergedLater⟩
      · rintro ⟨larger, schema, merged, mergedLater⟩
        have grown : (store.commitSchema (.text name) (.text name) schema).schemaOf (.text name) =
            schema := by rw [schemaOf_commitSchema, if_pos rfl]
        rcases ih.mpr ⟨larger, grown.symm ▸ mergedLater⟩ with ⟨after, later⟩
        exact ⟨after, _, _, declareClass_of_merge named merged, later⟩

/-- When several declarations of a class succeed. -/
theorem exists_declareEach_iff :
    (∃ after, store.declareEach className calls = .ok after) ↔
      calls = [] ∨ ∃ name, className = .text name ∧ isName name = true ∧
        (store.schemaOf (.text name)).Reconciles calls.flatten := by
  constructor
  · rintro ⟨after, done⟩
    cases calls with
    | nil => exact Or.inl rfl
    | cons fields others =>
        rcases declareEach_cons_eq_ok_iff.mp done with ⟨_, middle, declared, _⟩
        rcases declareClass_eq_ok declared with ⟨name, _, rfl, named, _⟩
        exact Or.inr ⟨name, rfl, named,
          Schema.exists_merge_iff.mp ((exists_declareEach_text_iff named).mp ⟨after, done⟩)⟩
  · rintro (rfl | ⟨name, rfl, named, reconciles⟩)
    · exact ⟨store, rfl⟩
    · exact (exists_declareEach_text_iff named).mpr (Schema.exists_merge_iff.mpr reconciles)

/-- What the schemas say after several declarations: what they said before, and in the class what
was declared. -/
theorem lookup_schemaOf_declareEach (done : store.declareEach className calls = .ok after)
    {key : Key} {field : String} {descriptor : FieldDescriptor} :
    (after.schemaOf key).lookup field = some descriptor ↔
      (store.schemaOf key).lookup field = some descriptor ∨
        className.key = .ok key ∧ (field, descriptor) ∈ calls.flatten := by
  induction calls generalizing store with
  | nil =>
      cases done
      simp
  | cons fields others ih =>
      rcases declareEach_cons_eq_ok_iff.mp done with ⟨_, middle, declared, later⟩
      rcases declareClass_eq_ok declared with ⟨name, schema, rfl, _, merged, rfl⟩
      rw [ih later, schemaOf_commitSchema, List.flatten_cons, List.mem_append]
      by_cases same : key = .text name
      · subst same
        rw [if_pos rfl, Schema.lookup_merge_iff merged, or_assoc]
        simp [Json.key]
      · have other : (Json.text name).key ≠ .ok key := fun keyed => same (Except.ok.inj keyed).symm
        simp [same, other]

end Declaring

/-- A batch is accepted exactly if every field of its items that is not null has an accepted name,
all values for one field have one type, and this is the type that the class has for the field, if it
has one. So it is accepted in every order of its items or in none, and the classes have the same
types for the same fields afterwards. The same holds of several declarations of a class. Both orders
are judged alike because the condition mentions only which fields there are. -/
theorem merging_ignores_order (store : Store) (source : IdSource) (now : Moment) {name : String}
    (named : isName name = true) (items : List (List (String × Value) × AccessPolicy)) :
    ((∃ created, store.bulkInsert source now (.text name) items = .ok created) ↔
        (store.schemaOf (.text name)).TakesAll (items.flatMap Prod.fst)) ∧
      (∀ permuted, items.Perm permuted →
        ((∃ created, store.bulkInsert source now (.text name) items = .ok created) ↔
          ∃ created, store.bulkInsert source now (.text name) permuted = .ok created) ∧
        ∀ first second : List Record × Store × IdSource,
          store.bulkInsert source now (.text name) items = .ok first →
          store.bulkInsert source now (.text name) permuted = .ok second →
            ∀ key field, (first.2.1.schemaOf key).lookup field =
              (second.2.1.schemaOf key).lookup field) ∧
      ∀ className calls permuted, calls.Perm permuted →
        ((∃ after, store.declareEach className calls = .ok after) ↔
          ∃ after, store.declareEach className permuted = .ok after) ∧
        ∀ first second, store.declareEach className calls = .ok first →
          store.declareEach className permuted = .ok second →
            ∀ key field,
              (first.schemaOf key).lookup field = (second.schemaOf key).lookup field := by
  refine ⟨exists_bulkInsert_iff named, ?_, ?_⟩
  · intro permuted perm
    have fields := perm.flatMap_right Prod.fst
    refine ⟨?_, ?_⟩
    · rw [exists_bulkInsert_iff named, exists_bulkInsert_iff named]
      exact ⟨fun taken => taken.of_perm fields, fun taken => taken.of_perm fields.symm⟩
    · rintro ⟨_, first, _⟩ ⟨_, second, _⟩ done permutedDone key field
      apply Option.ext
      intro descriptor
      simp only [lookup_schemaOf_bulkInsert named done,
        lookup_schemaOf_bulkInsert named permutedDone, fields.mem_iff]
  · intro className calls permuted perm
    have fields := perm.flatten
    refine ⟨?_, ?_⟩
    · rw [exists_declareEach_iff, exists_declareEach_iff]
      constructor
      · rintro (rfl | ⟨name, text, named, reconciles⟩)
        · exact Or.inl perm.nil_eq.symm
        · exact Or.inr ⟨name, text, named, reconciles.of_perm fields⟩
      · rintro (rfl | ⟨name, text, named, reconciles⟩)
        · exact Or.inl perm.eq_nil
        · exact Or.inr ⟨name, text, named, reconciles.of_perm fields.symm⟩
    · intro first second done permutedDone key field
      apply Option.ext
      intro descriptor
      simp only [lookup_schemaOf_declareEach done, lookup_schemaOf_declareEach permutedDone,
        fields.mem_iff]

/-- Two items, of which the second one brings a field that the first one has not. -/
def growing (content : Value) : List (List (String × Value) × AccessPolicy) :=
  [([("n", .int 1)], .everyone), ([("m", .text "x"), ("n", content)], .everyone)]

/-- A null for the number is accepted in both orders, which differ only in the order of the fields;
a text is accepted in none. -/
theorem growing_in_both_orders :
    isName "A" = true ∧
      (∃ first second,
        ({} : Store).bulkInsert {} { instant := 0, offset := 0 } (.text "A") (growing .null) =
          .ok first ∧
        ({} : Store).bulkInsert {} { instant := 0, offset := 0 } (.text "A")
          (growing .null).reverse = .ok second ∧
        first.2.1.schemaOf (.text "A") ≠ second.2.1.schemaOf (.text "A") ∧
        ∀ key field, (first.2.1.schemaOf key).lookup field =
          (second.2.1.schemaOf key).lookup field) ∧
      ¬ ∃ created, ({} : Store).bulkInsert {} { instant := 0, offset := 0 } (.text "A")
        (growing (.text "one")).reverse = .ok created := by
  have named : isName "A" = true := by decide
  have reversed (content : Value) : (growing content).Perm (growing content).reverse :=
    (List.reverse_perm _).symm
  have taken := merging_ignores_order {} {} { instant := 0, offset := 0 } named (growing .null)
  have refused := merging_ignores_order {} {} { instant := 0, offset := 0 } named
    (growing (.text "one"))
  refine ⟨named, ?_, ?_⟩
  · refine ⟨_, _, rfl, rfl, by decide, ?_⟩
    exact (taken.2.1 _ (reversed .null)).2 _ _ rfl rfl
  · rw [← (refused.2.1 _ (reversed _)).1, refused.1]
    rintro ⟨_, agreed⟩
    have same := agreed ("n", .int 1) (by simp [growing]) ("n", .text "one") (by simp [growing]) rfl
      rfl rfl
    cases same

end Store

end TypedRecords
