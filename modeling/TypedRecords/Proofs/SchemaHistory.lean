import TypedRecords.Proofs.Effect
import TypedRecords.Proofs.ClassNames

/-!
# The history of a schema

As long as no request removes a class, the fields that are known of it stay known, in their order
and with their descriptors; what a write adds comes after them. This does not depend on the records
of the class: a field remains in the schema when no record has it any more.
-/

namespace TypedRecords

theorem Schema.Extends.isPrefix {schema larger : Schema} (grown : schema.Extends larger) :
    schema <+: larger := by
  induction grown with
  | refl => exact List.prefix_refl schema
  | add _ field descriptor _ _ ih => exact ih.trans (List.prefix_append _ _)

namespace Store

variable {store middle after : Store} {key other : Key} {source rest : IdSource} {now : Moment}
  {className objectId : Json} {fields : List (String × Value)} {access : AccessPolicy}
  {record : Record}

/-- If the class under a key exists in the earlier store then it exists in the later one, where its
fields begin with those that it had. -/
def Prolongs (key : Key) (earlier later : Store) : Prop :=
  ∀ known, earlier.schemas.lookup key = some known →
    ∃ grown, later.schemas.lookup key = some grown ∧ known.fields <+: grown.fields

namespace Prolongs

theorem refl (store : Store) : Prolongs key store store :=
  fun known present => ⟨known, present, List.prefix_refl _⟩

theorem trans (first : Prolongs key store middle) (second : Prolongs key middle after) :
    Prolongs key store after := by
  intro known present
  rcases first known present with ⟨larger, between, grown⟩
  rcases second larger between with ⟨largest, final, grownLater⟩
  exact ⟨largest, final, grown.trans grownLater⟩

theorem of_schemas_eq (same : after.schemas = store.schemas) : Prolongs key store after := by
  intro known present
  rw [← same] at present
  exact ⟨known, present, List.prefix_refl _⟩

theorem commitSchema {schema : Schema} (grown : (store.schemaOf other).Extends schema) :
    Prolongs key store (store.commitSchema other className schema) := by
  intro known present
  by_cases same : key = other
  · subst same
    refine ⟨_, Entries.lookup_set_self _ _ _, ?_⟩
    simp only [schemaOf, present] at grown
    exact grown.isPrefix
  · refine ⟨known, ?_, List.prefix_refl _⟩
    rw [Store.commitSchema, Entries.lookup_set_of_ne _ _ same]
    exact present

theorem dropClass (different : key ≠ other) : Prolongs key store (store.dropClass other) := by
  intro known present
  refine ⟨known, ?_, List.prefix_refl _⟩
  rw [Store.dropClass, Entries.lookup_erase, if_neg different]
  exact present

theorem of_insert
    (done : store.insert source now className fields access = .ok (record, after, rest)) :
    Prolongs key store after := by
  rcases insert_eq_ok done with ⟨name, schema, _, _, grown, _, filed⟩
  exact (commitSchema grown).trans (of_schemas_eq (schemas_of_file filed))

/-- An update prolongs the schemas as its commit does, since setting the record leaves them. -/
theorem of_update (done : store.update now className objectId fields = .ok (record, after)) :
    Prolongs key store after := by
  rcases update_eq_ok done with ⟨name, _, _, schema, _, _, _, prepared, _, rfl⟩
  rcases prepare_eq_ok prepared with ⟨_, _, _, grown, _⟩
  exact (commitSchema grown).trans (of_schemas_eq rfl)

theorem of_delete (done : store.delete className objectId = .ok after) :
    Prolongs key store after := by
  rcases delete_eq_ok done with ⟨_, _, _, _, _, _, rfl⟩
  exact of_schemas_eq rfl

theorem of_bulkInsert {items : List (List (String × Value) × AccessPolicy)}
    {records : List Record}
    (done : store.bulkInsert source now className items = .ok (records, after, rest)) :
    Prolongs key store after := by
  rcases bulkInsert_eq_ok done with ⟨written, schema, _, _, grown, _, filed⟩
  exact (commitSchema grown).trans (of_schemas_eq (schemas_of_fileAll filed))

theorem of_declareClass {added : Schema} {declared : Json × Schema}
    (done : store.declareClass className added = .ok (declared, after)) :
    Prolongs key store after := by
  rcases declareClass_eq_ok done with ⟨name, schema, _, _, merged, rfl⟩
  exact commitSchema (Schema.extends_of_merge merged).1

theorem of_purgeClass (done : store.purgeClass className = .ok after)
    (different : className.key ≠ .ok key) : Prolongs key store after := by
  rcases purgeClass_eq_ok done with ⟨gone, _, keyed, _, _, rfl⟩
  apply dropClass
  rintro rfl
  exact different keyed

end Prolongs

end Store

namespace Request

variable {request : Request} {store after : Store} {key : Key}

/-- The request succeeds in removing the class under a key. -/
def Drops (request : Request) (store : Store) (key : Key) : Prop :=
  request.name = .text "deleteTable" ∧ (request.parameter "className").key = .ok key ∧
    ∃ answer, request.outcome store = .ok answer

theorem Effect.prolongs (effect : request.Effect store after) (kept : ¬ request.Drops store key) :
    Store.Prolongs key store after := by
  cases effect with
  | unchanged => exact .refl store
  | created _ _ done => exact .of_insert done
  | updated _ _ _ done => exact .of_update done
  | deleted _ done => exact .of_delete done
  | batched _ _ _ _ done => exact .of_bulkInsert done
  | seeded _ _ _ done => exact .of_insert done
  | declared _ _ _ _ done => exact .of_declareClass done
  | purged named answered done =>
      apply Store.Prolongs.of_purgeClass done
      intro keyed
      exact kept ⟨named, keyed, _, answered⟩

end Request

namespace Store

variable {store : Store} {key : Key}

/-- A run that does not drop the class prolongs its schema, because the requests of the rest come
after the first one. -/
theorem prolongs_after {requests : List Request}
    (kept : ∀ before request rest, requests = before ++ request :: rest →
      ¬ request.Drops (store.after before) key) :
    Prolongs key store (store.after requests) := by
  induction requests generalizing store with
  | nil => exact .refl store
  | cons request rest ih =>
      have first := (request.effect store).prolongs (kept [] request rest rfl)
      apply first.trans
      apply ih
      intro before later others split
      exact kept (request :: before) later others (congrArg (List.cons request) split)

/-- Between two states of a run, without a request that removes the class between them, the fields
of a class are only added to, at the end. -/
theorem fields_prefix_after (earlier later : List Request) (key : Key) {known : ClassSchema}
    (present : (({} : Store).after earlier).schemas.lookup key = some known)
    (kept : ∀ before request rest, later = before ++ request :: rest →
      ¬ request.Drops (({} : Store).after (earlier ++ before)) key) :
    ∃ grown, (({} : Store).after (earlier ++ later)).schemas.lookup key = some grown ∧
      known.fields <+: grown.fields := by
  rw [after_append]
  apply prolongs_after _ known present
  intro before request rest split
  rw [← after_append]
  exact kept before request rest split

/-- A class with one record and one field, and another class that points to it. -/
def pointedTo : List Request :=
  [.call "createRecord" [("className", .text "A"), ("data", .object [("n", .int 1)])] ["x"],
    .call "createRecord" [("className", .text "B"), ("data", .object [("to", .object
      [("__type", .text "Pointer"), ("className", .text "A"), ("objectId", .text "x")])])] ["y"]]

/-- The class cannot be removed, its one record loses the field and is removed, and another record
brings a field of its own. -/
def emptied : List Request :=
  [.call "deleteTable" [("className", .text "A")] [],
    .call "updateRecord" [("className", .text "A"), ("objectId", .text "x"),
      ("data", .object [("n", .null)])] [],
    .call "deleteRecord" [("className", .text "A"), ("objectId", .text "x")] [],
    .call "createRecord" [("className", .text "A"), ("data", .object [("m", .bool true)])] ["z"]]

/-- The fields of a class are kept through requests that leave it without records: only the first of
them is for the removal of the class, and it fails. -/
theorem fields_prefix_after_emptied :
    (({} : Store).after pointedTo).schemas.lookup (.text "A") =
        some ⟨.text "A", Schema.builtin ++ [("n", { type := .number })]⟩ ∧
      (({} : Store).after (pointedTo ++ emptied)).record? (.text "A") (.text "x") = none ∧
      ∃ grown, (({} : Store).after (pointedTo ++ emptied)).schemas.lookup (.text "A") =
          some grown ∧ Schema.builtin ++ [("n", { type := .number })] <+: grown.fields := by
  refine ⟨rfl, ?_, fields_prefix_after pointedTo emptied (.text "A") rfl ?_⟩
  · rw [← Option.isNone_iff_eq_none]
    decide +kernel
  · rintro before request rest split ⟨named, _, answer, answered⟩
    rcases before with _ | ⟨first, before⟩
    · cases split
      have failed : ((Request.call "deleteTable" [("className", .text "A")] []).outcome
          (({} : Store).after pointedTo)).isOk = false := by decide +kernel
      rw [List.append_nil] at answered
      rw [answered] at failed
      cases failed
    · have later : request ∈ emptied.tail := by
        rw [split]
        exact List.mem_append_right before List.mem_cons_self
      simp only [emptied, List.tail_cons, List.mem_cons, List.not_mem_nil, or_false] at later
      rcases later with rfl | rfl | rfl
      · exact absurd (Json.text.inj named) (by decide)
      · exact absurd (Json.text.inj named) (by decide)
      · exact absurd (Json.text.inj named) (by decide)

end Store

end TypedRecords
