import TypedRecords.Proofs.Effect

/-!
# Stores that agree on a class

Two stores agree on a class if they have the same schema of it, the same records in the same order,
and the same issued ids. A call of the store leaves a store that agrees with the one before on every
class but its own. And on two stores that agree on its class a call has the same result and leaves
stores that agree on the class, with one exception: whether a class can be removed depends on the
fields of the others.
-/

namespace Except

variable {Error Value Other Next Final : Type}

theorem ok_bind (value : Value) (next : Value → Except Error Next) :
    (Except.ok value >>= next) = next value :=
  rfl

/-- Two computations fail with the same error, or they have related results. -/
inductive Alike (related : Value → Other → Prop) : Except Error Value → Except Error Other → Prop
    where
  | error (error : Error) : Alike related (.error error) (.error error)
  | ok {value : Value} {other : Other} (same : related value other) :
      Alike related (.ok value) (.ok other)

namespace Alike

variable {related : Value → Other → Prop} {final : Next → Final → Prop}

theorem bind {first : Except Error Value} {second : Except Error Other}
    {next : Value → Except Error Next} {further : Other → Except Error Final}
    (alike : Alike related first second)
    (rest : ∀ value other, related value other → Alike final (next value) (further other)) :
    Alike final (first >>= next) (second >>= further) := by
  cases alike with
  | error error => exact .error error
  | ok same => exact rest _ _ same

/-- What follows one and the same check. -/
theorem after {check : Except Error Value} {next : Value → Except Error Next}
    {further : Value → Except Error Final}
    (rest : ∀ value, check = .ok value → Alike final (next value) (further value)) :
    Alike final (check >>= next) (check >>= further) := by
  rcases check with error | value
  · exact .error error
  · exact rest value rfl

end Alike

end Except

namespace TypedRecords

namespace IdSource

theorem drawUnissued_congr {issued other : List String}
    (same : ∀ objectId, objectId ∈ issued ↔ objectId ∈ other) (retries : Nat)
    (source : IdSource) :
    drawUnissued issued retries source = drawUnissued other retries source := by
  induction retries generalizing source with
  | zero => rfl
  | succ retries ih =>
      rw [drawUnissued_succ, drawUnissued_succ, ih]
      exact if_congr (same _) rfl rfl

/-- Further retries do not matter once an unissued id is among the draws. The induction is on the
retries that suffice, each of which drops a draw that was issued. -/
theorem drawUnissued_of_le {issued : List String} {retries more : Nat} (source : IdSource)
    (unissued : ∃ drawn ∈ draws (retries + 1) source, drawn ∉ issued) (enough : retries ≤ more) :
    drawUnissued issued more source = drawUnissued issued retries source := by
  induction retries generalizing source more with
  | zero =>
      cases more with
      | zero => rfl
      | succ more =>
          rcases unissued with ⟨drawn, among, free⟩
          rw [draws, draws, List.mem_singleton] at among
          rw [drawUnissued_succ, if_neg (among ▸ free)]
          rfl
  | succ retries ih =>
      obtain ⟨more, rfl⟩ : ∃ further, more = further + 1 := ⟨more - 1, by omega⟩
      rw [drawUnissued_succ, drawUnissued_succ]
      by_cases taken : source.draw.1 ∈ issued
      · rw [if_pos taken, if_pos taken]
        rcases unissued with ⟨drawn, among, free⟩
        rcases List.mem_cons.mp among with rfl | later
        · exact absurd taken free
        · exact ih _ ⟨drawn, later, free⟩ (by omega)
      · rw [if_neg taken, if_neg taken]

/-- A fresh id depends only on which ids were issued, not on their order or number: with retries
enough for both lists, the same draws are passed over. -/
theorem fresh_congr {issued other : List String}
    (same : ∀ objectId, objectId ∈ issued ↔ objectId ∈ other) (source : IdSource) :
    source.fresh issued = source.fresh other := by
  let most := source.listed.length + (issued.length + other.length)
  calc source.fresh issued
      = drawUnissued issued most source :=
        (drawUnissued_of_le source (exists_draw_not_mem source issued) (by omega)).symm
    _ = drawUnissued other most source := drawUnissued_congr same most source
    _ = source.fresh other :=
        drawUnissued_of_le source (exists_draw_not_mem source other) (by omega)

end IdSource

namespace Store

variable {first second third store after : Store} {key other : Key} {source rest : IdSource}
  {now : Moment} {className : Json} {fields : List (String × Value)} {access : AccessPolicy}

/-- Two stores have the same schema, the same records and the same issued ids for a key. -/
structure AgreesOn (first second : Store) (key : Key) : Prop where
  schema : first.schemas.lookup key = second.schemas.lookup key
  records : first.tableOf key = second.tableOf key
  issued : ∀ objectId, objectId ∈ first.issuedFor key ↔ objectId ∈ second.issuedFor key

namespace AgreesOn

theorem refl (store : Store) (key : Key) : store.AgreesOn store key :=
  ⟨rfl, rfl, fun _ => Iff.rfl⟩

theorem trans (earlier : first.AgreesOn second key) (later : second.AgreesOn third key) :
    first.AgreesOn third key where
  schema := earlier.schema.trans later.schema
  records := earlier.records.trans later.records
  issued objectId := (earlier.issued objectId).trans (later.issued objectId)

section Frame

/-! ### What a call leaves of the other classes -/

variable (different : other ≠ key)
include different

theorem commitSchema_of_ne (schema : Schema) :
    (store.commitSchema key className schema).AgreesOn store other where
  schema := Entries.lookup_set_of_ne _ _ different
  records := by rw [tableOf_commitSchema, if_neg fun both => different both.1]
  issued _ := Iff.rfl

theorem setRecord_of_ne (objectId : Key) (record : Record) :
    (store.setRecord key objectId record).AgreesOn store other where
  schema := rfl
  records := by rw [tableOf_setRecord, if_neg different]
  issued _ := Iff.rfl

theorem dropRecord_of_ne (objectId : Key) :
    (store.dropRecord key objectId).AgreesOn store other where
  schema := rfl
  records := by rw [tableOf_dropRecord, if_neg different]
  issued _ := Iff.rfl

theorem dropClass_of_ne : (store.dropClass key).AgreesOn store other where
  schema := by rw [Store.dropClass, Entries.lookup_erase, if_neg different]
  records := by rw [tableOf_dropClass, if_neg different]
  issued _ := Iff.rfl

theorem noteIssued_of_ne (objectId : String) :
    (store.noteIssued key objectId).AgreesOn store other where
  schema := rfl
  records := rfl
  issued _ := by rw [issuedFor_noteIssued, if_neg different]

theorem file_of_ne {name : String} {record : Record}
    (done : store.file source now key name fields access = (record, after, rest)) :
    after.AgreesOn store other := by
  rcases file_eq done with ⟨_, _, rfl⟩
  exact (setRecord_of_ne different _ _).trans (noteIssued_of_ne different _)

theorem fileAll_of_ne {name : String} {items : List (List (String × Value) × AccessPolicy)}
    {records : List Record}
    (done : store.fileAll source now key name items = (records, after, rest)) :
    after.AgreesOn store other := by
  induction items generalizing store source records with
  | nil =>
      cases done
      exact refl _ other
  | cons item others ih =>
      rcases fileAll_cons_eq done with ⟨record, middle, left, later, filed, more, rfl⟩
      exact (ih more).trans (file_of_ne different filed)

theorem of_insert_of_ne {record : Record} (keyed : className.key = .ok key)
    (done : store.insert source now className fields access = .ok (record, after, rest)) :
    after.AgreesOn store other := by
  rcases insert_eq_ok done with ⟨name, schema, rfl, _, _, _, filed⟩
  cases keyed
  exact (file_of_ne different filed).trans (commitSchema_of_ne different schema)

end Frame

section Congruence

/-! ### What a call makes of stores that agree on its class -/

variable (agree : first.AgreesOn second key)
include agree

theorem schemaOf_eq : first.schemaOf key = second.schemaOf key := by
  rw [schemaOf, agree.schema, schemaOf]

theorem record?_eq (objectId : Key) : first.record? key objectId = second.record? key objectId := by
  rw [record?, agree.records, record?]

theorem commitSchema (schema : Schema) :
    (first.commitSchema key className schema).AgreesOn (second.commitSchema key className schema)
      key where
  schema := by
    rw [Store.commitSchema, Store.commitSchema, Entries.lookup_set_self, Entries.lookup_set_self]
  records := by
    simp only [tableOf_commitSchema, ← Entries.lookup_isSome_iff, agree.schema, agree.records]
  issued := agree.issued

theorem setRecord (objectId : Key) (record : Record) :
    (first.setRecord key objectId record).AgreesOn (second.setRecord key objectId record) key where
  schema := agree.schema
  records := by rw [tableOf_setRecord, tableOf_setRecord, agree.records]
  issued := agree.issued

theorem dropRecord (objectId : Key) :
    (first.dropRecord key objectId).AgreesOn (second.dropRecord key objectId) key where
  schema := agree.schema
  records := by rw [tableOf_dropRecord, tableOf_dropRecord, agree.records]
  issued := agree.issued

theorem noteIssued (objectId : String) :
    (first.noteIssued key objectId).AgreesOn (second.noteIssued key objectId) key where
  schema := agree.schema
  records := agree.records
  issued known := by
    rw [issuedFor_noteIssued, issuedFor_noteIssued, if_pos rfl, if_pos rfl, List.mem_append,
      List.mem_append, agree.issued]

/-- Filing a record gives the same record, with the same id. -/
theorem file (source : IdSource) (now : Moment) (name : String) (fields : List (String × Value))
    (access : AccessPolicy) :
    ∃ record left right rest,
      first.file source now key name fields access = (record, left, rest) ∧
        second.file source now key name fields access = (record, right, rest) ∧
        left.AgreesOn right key := by
  have drawn := IdSource.fresh_congr agree.issued source
  refine ⟨_, _, _, _, rfl, ?_, (agree.noteIssued _).setRecord _ _⟩
  rw [Store.file, ← drawn]
  rfl

/-- Filing one item after the other keeps the stores in agreement, so the same ids are drawn on
both. -/
theorem fileAll (source : IdSource) (now : Moment) (name : String)
    (items : List (List (String × Value) × AccessPolicy)) :
    ∃ records left right rest,
      first.fileAll source now key name items = (records, left, rest) ∧
        second.fileAll source now key name items = (records, right, rest) ∧
        left.AgreesOn right key := by
  induction items generalizing first second source with
  | nil => exact ⟨[], first, second, source, rfl, rfl, agree⟩
  | cons item others ih =>
      rcases item with ⟨fields, access⟩
      rcases agree.file source now name fields access with
        ⟨record, left, right, rest, filed, filedAlike, between⟩
      rcases ih between rest with ⟨records, lastLeft, lastRight, last, more, moreAlike, final⟩
      refine ⟨record :: records, lastLeft, lastRight, last, ?_, ?_, final⟩
      · simp only [Store.fileAll, filed, more]
      · simp only [Store.fileAll, filedAlike, moreAlike]

end Congruence

end AgreesOn

section Calls

/-! ### Calls on two stores -/

/-- Two successful calls have the same result and leave the same source of ids, and the stores that
they leave agree on a class. -/
structure SameOn (key : Key) {Result : Type} (left right : Result × Store × IdSource) : Prop where
  result : left.1 = right.1
  agree : left.2.1.AgreesOn right.2.1 key
  ids : left.2.2 = right.2.2

variable (agree : first.AgreesOn second key) (keyed : className.key = .ok key)
include agree keyed

theorem AgreesOn.select (predicates : List Predicate) :
    first.select className predicates = second.select className predicates := by
  simp only [Store.select, keyed, Except.mapError_ok, Except.ok_bind, agree.schema, agree.records]

theorem AgreesOn.getById (objectId : Json) :
    first.getById className objectId = second.getById className objectId := by
  simp only [Store.getById, keyed, Except.mapError_ok, Except.ok_bind, agree.record?_eq]

theorem AgreesOn.classFields : first.classFields className = second.classFields className := by
  simp only [Store.classFields, keyed, Except.mapError_ok, Except.ok_bind, agree.schema]

theorem AgreesOn.insert (source : IdSource) (now : Moment) (fields : List (String × Value))
    (access : AccessPolicy) :
    Except.Alike (SameOn key) (first.insert source now className fields access)
      (second.insert source now className fields access) := by
  simp only [Store.insert, keyed, Except.mapError_ok, Except.ok_bind, agree.schemaOf_eq]
  apply Except.Alike.after
  intro schema _
  rcases (agree.commitSchema schema).file source now className.display fields access with
    ⟨record, left, right, rest, filed, filedAlike, between⟩
  rw [filed, filedAlike]
  exact .ok ⟨rfl, between, rfl⟩

theorem AgreesOn.bulkInsert (source : IdSource) (now : Moment)
    (items : List (List (String × Value) × AccessPolicy)) :
    Except.Alike (SameOn key) (first.bulkInsert source now className items)
      (second.bulkInsert source now className items) := by
  simp only [Store.bulkInsert, keyed, Except.mapError_ok, Except.ok_bind, agree.schemaOf_eq]
  apply Except.Alike.after
  intro schema _
  rcases (agree.commitSchema schema).fileAll source now className.display items with
    ⟨records, left, right, rest, filed, filedAlike, between⟩
  rw [filed, filedAlike]
  exact .ok ⟨rfl, between, rfl⟩

theorem AgreesOn.update (now : Moment) (objectId : Json) (fields : List (String × Value)) :
    Except.Alike (fun left right => left.1 = right.1 ∧ left.2.AgreesOn right.2 key)
      (first.update now className objectId fields)
      (second.update now className objectId fields) := by
  simp only [Store.update, keyed, Except.mapError_ok, Except.ok_bind, agree.record?_eq,
    agree.schemaOf_eq]
  apply Except.Alike.after
  intro objectKey _
  rcases second.record? key objectKey with _ | existing
  · exact .error _
  · apply Except.Alike.after
    intro schema _
    exact .ok ⟨rfl, (agree.commitSchema schema).setRecord _ _⟩

theorem AgreesOn.delete (objectId : Json) :
    Except.Alike (fun left right => left.AgreesOn right key) (first.delete className objectId)
      (second.delete className objectId) := by
  simp only [Store.delete, keyed, Except.mapError_ok, Except.ok_bind, agree.record?_eq]
  apply Except.Alike.after
  intro objectKey _
  rcases second.record? key objectKey with _ | existing
  · exact .error _
  · exact .ok (agree.dropRecord objectKey)

theorem AgreesOn.declareClass (fields : Schema) :
    Except.Alike (fun left right => left.1 = right.1 ∧ left.2.AgreesOn right.2 key)
      (first.declareClass className fields) (second.declareClass className fields) := by
  simp only [Store.declareClass, keyed, Except.mapError_ok, Except.ok_bind, agree.schemaOf_eq]
  apply Except.Alike.after
  intro name _
  apply Except.Alike.after
  intro schema _
  exact .ok ⟨rfl, agree.commitSchema schema⟩

end Calls

end Store

end TypedRecords
