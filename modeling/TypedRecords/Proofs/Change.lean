import TypedRecords.Proofs.StoreWrites

/-!
# Changes of a store

`Store.Step` says what one step of a write can do to a store: commit a grown schema, file a new
record, give a record new fields, remove a record, or remove a class. A `Store.Change` is a
sequence of steps, together with the records that are filed in it, and every call that writes is a
change. A change keeps the store well-formed. It issues exactly the ids of the records that it
files, and no other record becomes live by it.
-/

namespace TypedRecords.Store

/-- One step of a write, with the records that it files. -/
inductive Step (before : Store) : List Record → Store → Prop where
  | committed {key : Key} {className : Json} {schema : Schema} (named : className.key = .ok key)
      (grown : (before.schemaOf key).Extends schema) :
      Step before [] (before.commitSchema key className schema)
  | filed {source rest : IdSource} {now : Moment} {className : String}
      {fields : List (String × Value)} {record : Record} {after : Store}
      (present : .text className ∈ Entries.keys before.schemas)
      (unreserved : Schema.Unreserved fields)
      (covered : (before.schemaOf (.text className)).Covers fields)
      (done : before.file source now (.text className) className fields AccessPolicy.everyone =
        (record, after, rest)) : Step before [record] after
  | updated {key objectId : Key} {className : Json} {existing : Record} {schema : Schema}
      {patch : List (String × Value)} {now : Moment}
      (found : before.record? key objectId = some existing)
      (named : className.key = .ok key) (grown : (before.schemaOf key).Extends schema)
      (unreserved : Schema.Unreserved patch)
      (covered : schema.Covers (Entries.merge existing.fields patch)) :
      Step before [] ((before.commitSchema key className schema).setRecord key objectId
        { existing with fields := Entries.merge existing.fields patch, updatedAt := now })
  | removed {key objectId : Key} {existing : Record}
      (found : before.record? key objectId = some existing) :
      Step before [] (before.dropRecord key objectId)
  | purged {key : Key} : Step before [] (before.dropClass key)

/-- A sequence of steps, with all records that they file. -/
inductive Change : Store → List Record → Store → Prop where
  | none {store : Store} : Change store [] store
  | step {before middle after : Store} {first rest : List Record}
      (earlier : Step before first middle) (later : Change middle rest after) :
      Change before (first ++ rest) after

/-- The ids of those of the records that belong to the class under a key. -/
def idsFor (key : Key) (records : List Record) : List String :=
  (records.filter fun record => Key.text record.className = key).map (·.objectId)

@[simp]
theorem idsFor_nil (key : Key) : idsFor key [] = [] :=
  rfl

theorem idsFor_append (key : Key) (first second : List Record) :
    idsFor key (first ++ second) = idsFor key first ++ idsFor key second := by
  simp [idsFor]

/-- A class has a record under an id. -/
def Live (store : Store) (key : Key) (objectId : String) : Prop :=
  ∃ record, store.record? key (.text objectId) = some record

variable {before middle after : Store} {records : List Record} {key : Key}

namespace Step

theorem change (step : before.Step records after) : before.Change records after := by
  simpa using Change.step step .none

theorem wellFormed (step : before.Step records after) (wellFormed : before.WellFormed) :
    after.WellFormed := by
  cases step with
  | committed named grown => exact wellFormed.commitSchema named grown
  | filed present unreserved covered done =>
      rcases file_eq done with ⟨fresh, new, rfl⟩
      refine (wellFormed.noteIssued fresh).setRecord present ?_
      rw [new]
      exact {
        className := rfl
        identified := rfl
        objectId := by simp [issuedFor_noteIssued]
        unreserved := unreserved
        covered := covered
        access := rfl }
  | updated found named grown unreserved covered =>
      have old := wellFormed.records _ _ _ found
      refine (wellFormed.commitSchema named grown).setRecord (mem_schemas_commitSchema _ _) ?_
      rw [schemaOf_commitSchema, if_pos rfl]
      exact {
        className := old.className
        identified := old.identified
        objectId := old.objectId
        unreserved := old.unreserved.merge unreserved
        covered := covered
        access := old.access }
  | removed found => exact wellFormed.dropRecord _ _ (wellFormed.mem_schemas_of_record? found)
  | purged => exact wellFormed.dropClass _

/-- A step issues the ids of the records that it files and no others. -/
theorem issuedFor_eq (step : before.Step records after) (key : Key) :
    after.issuedFor key = before.issuedFor key ++ idsFor key records := by
  cases step with
  | committed named grown => simp
  | filed present unreserved covered done =>
      rcases file_eq done with ⟨_, new, rfl⟩
      rw [issuedFor_setRecord, issuedFor_noteIssued, new]
      split
      · rename_i same
        simp [idsFor, same]
      · rename_i different
        simp [idsFor, Ne.symm different]
  | updated found named grown unreserved covered => simp
  | removed found => simp
  | purged => simp

/-- No record becomes live by a step but those that it files. -/
theorem live (step : before.Step records after) (wellFormed : before.WellFormed)
    {objectId : String} (live : after.Live key objectId) :
    before.Live key objectId ∨ objectId ∈ idsFor key records := by
  rcases live with ⟨record, found⟩
  cases step with
  | committed named grown =>
      rw [record?, wellFormed.tableOf_commitSchema] at found
      exact Or.inl ⟨record, found⟩
  | filed present unreserved covered done =>
      rcases file_eq done with ⟨_, new, rfl⟩
      rw [record?_setRecord] at found
      split at found
      · rename_i same
        rcases same with ⟨rfl, identified⟩
        right
        cases identified
        simp only [idsFor]
        rw [new]
        simp
      · exact Or.inl ⟨record, found⟩
  | updated old named grown unreserved covered =>
      left
      rw [record?_setRecord] at found
      split at found
      · rename_i same
        rcases same with ⟨rfl, rfl⟩
        exact ⟨_, old⟩
      · rw [record?, wellFormed.tableOf_commitSchema] at found
        exact ⟨record, found⟩
  | removed old =>
      left
      rw [record?_dropRecord] at found
      split at found
      · cases found
      · exact ⟨record, found⟩
  | purged =>
      left
      rw [record?_dropClass] at found
      split at found
      · cases found
      · exact ⟨record, found⟩

end Step

namespace Change

theorem trans {first rest : List Record} (earlier : before.Change first middle)
    (later : middle.Change rest after) : before.Change (first ++ rest) after := by
  induction earlier with
  | none => exact later
  | step start _ ih =>
      rw [List.append_assoc]
      exact .step start (ih later)

theorem wellFormed (change : before.Change records after) (wellFormed : before.WellFormed) :
    after.WellFormed := by
  induction change with
  | none => exact wellFormed
  | step earlier _ ih => exact ih (earlier.wellFormed wellFormed)

theorem issuedFor_eq (change : before.Change records after) (key : Key) :
    after.issuedFor key = before.issuedFor key ++ idsFor key records := by
  induction change with
  | none => simp
  | step earlier _ ih => rw [ih, earlier.issuedFor_eq, idsFor_append, List.append_assoc]

theorem live (change : before.Change records after) (wellFormed : before.WellFormed)
    {objectId : String} (live : after.Live key objectId) :
    before.Live key objectId ∨ objectId ∈ idsFor key records := by
  induction change with
  | none => exact Or.inl live
  | step earlier _ ih =>
      rw [idsFor_append, List.mem_append]
      rcases ih (earlier.wellFormed wellFormed) live with present | filed
      · exact (earlier.live wellFormed present).imp_right Or.inl
      · exact Or.inr (Or.inr filed)

/-- An id that was issued and has no record gets none, because a record filed under it would have
issued it a second time. -/
theorem not_live (change : before.Change records after) (wellFormed : before.WellFormed)
    {objectId : String} (issued : objectId ∈ before.issuedFor key)
    (gone : ¬ before.Live key objectId) : ¬ after.Live key objectId := by
  intro live
  rcases change.live wellFormed live with present | filed
  · exact gone present
  · have distinct := (change.wellFormed wellFormed).issuedOnce key
    rw [change.issuedFor_eq, List.nodup_append] at distinct
    exact distinct.2.2 objectId issued objectId filed rfl

end Change

section Writes

variable {store : Store} {source rest : IdSource} {now : Moment} {className objectId : Json}
  {record : Record}

theorem change_of_insert {fields : List (String × Value)} (unreserved : Schema.Unreserved fields)
    (done : store.insert source now className fields AccessPolicy.everyone =
      .ok (record, after, rest)) :
    store.Change [record] after ∧ className = .text record.className := by
  rcases insert_eq_ok done with ⟨name, schema, rfl, _, grown, covered, filed⟩
  have commit : store.Step [] (store.commitSchema (.text name) (.text name) schema) :=
    .committed rfl grown
  have file := Step.filed (mem_schemas_commitSchema _ _) unreserved
    (by rwa [schemaOf_commitSchema, if_pos rfl]) filed
  refine ⟨.step commit file.change, ?_⟩
  rw [(file_eq filed).2.1]

theorem change_of_fileAll {name : String}
    {items : List (List (String × Value) × AccessPolicy)}
    (present : .text name ∈ Entries.keys store.schemas)
    (unreserved : ∀ item ∈ items, Schema.Unreserved item.1 ∧ item.2 = AccessPolicy.everyone)
    (covered : ∀ item ∈ items, (store.schemaOf (.text name)).Covers item.1)
    (done : store.fileAll source now (.text name) name items = (records, after, rest)) :
    store.Change records after ∧ ∀ record ∈ records, record.className = name := by
  induction items generalizing store source records with
  | nil =>
      cases done
      exact ⟨.none, by simp⟩
  | cons item others ih =>
      rcases item with ⟨fields, access⟩
      rcases unreserved _ List.mem_cons_self with ⟨clean, rfl⟩
      rcases fileAll_cons_eq done with ⟨record, middle, left, later, filed, more, rfl⟩
      have first := Step.filed present clean (covered _ List.mem_cons_self) filed
      rcases file_eq filed with ⟨_, new, stored⟩
      have stays : .text name ∈ Entries.keys middle.schemas := by
        rw [stored]
        exact present
      have knows : ∀ item ∈ others, (middle.schemaOf (.text name)).Covers item.1 := by
        rw [stored]
        exact fun item member => covered item (List.mem_cons_of_mem _ member)
      rcases ih stays (fun item member => unreserved item (List.mem_cons_of_mem _ member)) knows
        more with ⟨change, named⟩
      refine ⟨.step first change, ?_⟩
      intro other member
      rcases List.mem_cons.mp member with rfl | filedLater
      · rw [new]
      · exact named other filedLater

theorem change_of_bulkInsert {items : List (List (String × Value) × AccessPolicy)}
    (unreserved : ∀ item ∈ items, Schema.Unreserved item.1 ∧ item.2 = AccessPolicy.everyone)
    (done : store.bulkInsert source now className items = .ok (records, after, rest)) :
    store.Change records after ∧ ∀ record ∈ records, className = .text record.className := by
  rcases bulkInsert_eq_ok done with ⟨key, schema, keyed, named, grown, covered, filed⟩
  have commit := Step.committed keyed grown
  rcases named with rfl | ⟨name, rfl, _⟩
  · cases filed
    exact ⟨commit.change, by simp⟩
  · cases keyed
    rcases change_of_fileAll (mem_schemas_commitSchema _ _) unreserved
      (by simpa [schemaOf_commitSchema] using covered) filed with ⟨change, named⟩
    refine ⟨.step commit change, ?_⟩
    intro record member
    rw [named record member]

theorem change_of_update {existing : Record} {patch : List (String × Value)}
    (unreserved : Schema.Unreserved patch)
    (found : store.getById className objectId = .ok (some existing))
    (done : store.update now className objectId (Entries.merge existing.fields patch) =
      .ok (record, after)) : store.Change [] after := by
  rcases getById_eq_ok found with ⟨key, objectKey, keyed, objectKeyed, found⟩
  rcases update_eq_ok done with ⟨name, otherKey, same, schema, rfl, otherKeyed, foundAgain,
    prepared, rfl, rfl⟩
  rcases prepare_eq_ok prepared with ⟨_, _, _, grown, covered⟩
  cases keyed
  rw [objectKeyed] at otherKeyed
  cases otherKeyed
  rw [found] at foundAgain
  cases foundAgain
  exact (Step.updated found rfl grown unreserved covered).change

theorem change_of_delete (done : store.delete className objectId = .ok after) :
    store.Change [] after := by
  rcases delete_eq_ok done with ⟨key, objectKey, existing, _, _, found, rfl⟩
  exact (Step.removed found).change

theorem change_of_declareClass {added : Schema} {declared : Json × Schema}
    (done : store.declareClass className added = .ok (declared, after)) :
    store.Change [] after := by
  rcases declareClass_eq_ok done with ⟨name, schema, rfl, _, merged, rfl⟩
  exact (Step.committed rfl (Schema.extends_of_merge merged).1).change

theorem change_of_purgeClass (done : store.purgeClass className = .ok after) :
    store.Change [] after := by
  rcases purgeClass_eq_ok done with ⟨key, schema, _, _, _, rfl⟩
  exact Step.purged.change

end Writes

end TypedRecords.Store
