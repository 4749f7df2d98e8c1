import TypedRecords.Proofs.Persistence

/-!
# How a store evolves

While a record lives, the schema of its class only grows; and an id that was issued and has no
record never has one again. `Store.Evolves` says both of two stores, and it holds across any number
of writes, even across one that replaces the fields of a record with fields read long before.
-/

namespace TypedRecords

namespace Store

variable {before middle after : Store} {records : List Record} {key : Key} {objectId : String}

/-- The store is well-formed, and the class of every record has an accepted name. -/
structure Sound (store : Store) : Prop where
  wellFormed : store.WellFormed
  named : ∀ className objectId, store.Live (.text className) objectId → isName className = true

/-- What was issued stays issued. A record that lives under an id issued before lived before, and
the schema of its class has only grown. -/
structure Evolves (before after : Store) : Prop where
  issued : ∀ key, before.issuedFor key ⊆ after.issuedFor key
  lived : ∀ key objectId, objectId ∈ before.issuedFor key → after.Live key objectId →
    before.Live key objectId ∧ (before.schemaOf key).Extends (after.schemaOf key)

theorem Evolves.refl (store : Store) : store.Evolves store where
  issued _ := List.Subset.refl _
  lived _ _ _ live := ⟨live, .refl⟩

theorem Evolves.trans (earlier : before.Evolves middle) (later : middle.Evolves after) :
    before.Evolves after where
  issued key := List.Subset.trans (earlier.issued key) (later.issued key)
  lived key objectId issued live := by
    rcases later.lived key objectId (earlier.issued key issued) live with ⟨between, grownLater⟩
    rcases earlier.lived key objectId issued between with ⟨lived, grown⟩
    exact ⟨lived, grown.trans grownLater⟩

theorem Evolves.not_live (evolves : before.Evolves after) (issued : objectId ∈ before.issuedFor key)
    (gone : ¬ before.Live key objectId) : ¬ after.Live key objectId :=
  fun live => gone (evolves.lived key objectId issued live).1

theorem WellFormed.issued_of_live (wellFormed : before.WellFormed)
    (live : before.Live key objectId) : objectId ∈ before.issuedFor key := by
  rcases live with ⟨record, found⟩
  have filed := wellFormed.records _ _ record found
  cases filed.identified
  exact filed.objectId

/-- A step leaves the schema of a class that has a record afterwards, or lets it grow; a class that
is purged has no record. -/
theorem Step.extends (step : before.Step records after) (live : after.Live key objectId) :
    (before.schemaOf key).Extends (after.schemaOf key) := by
  cases step with
  | committed named grown =>
      rw [schemaOf_commitSchema]
      split
      · rename_i same
        exact same ▸ grown
      · exact .refl
  | filed present unreserved covered done =>
      rcases file_eq done with ⟨_, _, rfl⟩
      exact .refl
  | @updated written _ _ _ schema _ _ found named grown unreserved covered =>
      change (before.schemaOf key).Extends ((before.commitSchema written _ schema).schemaOf key)
      rw [schemaOf_commitSchema]
      split
      · rename_i same
        exact same ▸ grown
      · exact .refl
  | removed found => exact .refl
  | purged =>
      rw [schemaOf_dropClass]
      split
      · rename_i same
        rcases live with ⟨record, found⟩
        rw [record?_dropClass, if_pos same] at found
        cases found
      · exact .refl

theorem Change.evolves (change : before.Change records after) (wellFormed : before.WellFormed) :
    before.Evolves after := by
  induction change with
  | none => exact .refl _
  | @step before middle after first rest earlier later ih =>
      refine .trans ?_ (ih (earlier.wellFormed wellFormed))
      refine ⟨?_, ?_⟩
      · intro key
        rw [earlier.issuedFor_eq]
        exact List.subset_append_left _ _
      · intro key objectId issued live
        refine ⟨?_, earlier.extends live⟩
        by_contra gone
        exact earlier.change.not_live wellFormed issued gone live

/-- Whatever class the new records of a change belong to has an accepted name, and so has every
class with a record afterwards. -/
theorem Change.sound (change : before.Change records after) (sound : before.Sound)
    (accepted : ∀ record ∈ records, isName record.className = true) : after.Sound where
  wellFormed := change.wellFormed sound.wellFormed
  named className objectId live := by
    rcases change.live sound.wellFormed live with old | new
    · exact sound.named className objectId old
    · rcases List.mem_map.mp new with ⟨record, member, _⟩
      rcases List.mem_filter.mp member with ⟨filed, same⟩
      cases of_decide_eq_true same
      exact accepted record filed

theorem sound_empty : ({} : Store).Sound where
  wellFormed := .empty
  named _ _ live := by
    rcases live with ⟨record, found⟩
    cases found

end Store

theorem Store.exists_change_of_insert {store after : Store} {source rest : IdSource} {now : Moment}
    {className : Json} {fields : List (String × Value)} {record : Record}
    (unreserved : Schema.Unreserved fields)
    (done : store.insert source now className fields AccessPolicy.everyone =
      .ok (record, after, rest)) :
    ∃ records, store.Change records after ∧
      ∀ record ∈ records, isName record.className = true := by
  rcases change_of_insert unreserved done with ⟨change, text⟩
  rcases insert_eq_ok done with ⟨name, _, same, named, _⟩
  rw [same] at text
  cases text
  exact ⟨[record], change, by simpa using named⟩

/-- What a request does to a store is a change, and every class that it files a record in has an
accepted name. -/
theorem Request.Effect.change {request : Request} {store after : Store}
    (effect : request.Effect store after) :
    ∃ records, store.Change records after ∧
      ∀ record ∈ records, isName record.className = true := by
  cases effect with
  | unchanged => exact ⟨[], .none, by simp⟩
  | created _ decoded done =>
      exact Store.exists_change_of_insert (Records.unreserved_of_decodeData decoded) done
  | updated _ decoded found done =>
      exact ⟨[], Store.change_of_update (Records.unreserved_of_decodeData decoded) found done,
        by simp⟩
  | deleted _ done => exact ⟨[], Store.change_of_delete done, by simp⟩
  | batched _ _ _ decoded done =>
      rcases Store.change_of_bulkInsert (Records.unreserved_of_decodeBatch decoded) done with
        ⟨change, text⟩
      refine ⟨_, change, ?_⟩
      intro record member
      rcases Store.bulkInsert_eq_ok done with
        ⟨key, schema, _, rfl | ⟨name, same, named⟩, _, _, filed⟩
      · cases filed
        cases member
      · have inClass := text record member
        rw [same] at inClass
        cases inClass
        exact named
  | seeded _ _ decoded done =>
      exact Store.exists_change_of_insert (Tables.decodeSamples_eq_ok decoded).1 done
  | declared _ _ _ _ done => exact ⟨[], Store.change_of_declareClass done, by simp⟩
  | purged _ _ done => exact ⟨[], Store.change_of_purgeClass done, by simp⟩

theorem Request.evolves_next (request : Request) {store : Store} (sound : store.Sound) :
    (request.next store).Sound ∧ store.Evolves (request.next store) := by
  rcases (request.effect store).change with ⟨records, change, accepted⟩
  exact ⟨change.sound sound accepted, change.evolves sound.wellFormed⟩

theorem Store.Sound.after {store : Store} (sound : store.Sound) (requests : List Request) :
    (store.after requests).Sound := by
  induction requests generalizing store with
  | nil => exact sound
  | cons request rest ih => exact ih (request.evolves_next sound).1

namespace Store

variable {store after : Store} {now : Moment} {className objectId : Json} {record : Record}
  {fields : List (String × Value)}

theorem evolves_of_delete (sound : store.Sound)
    (done : store.delete className objectId = .ok after) :
    after.Sound ∧ store.Evolves after := by
  have change := change_of_delete done
  exact ⟨change.sound sound (by simp), change.evolves sound.wellFormed⟩

theorem live_of_update (wellFormed : store.WellFormed)
    (done : store.update now className objectId fields = .ok (record, after)) {key : Key}
    {issued : String} (live : after.Live key issued) : store.Live key issued := by
  rcases live with ⟨stored, found⟩
  rw [record?_update wellFormed done] at found
  split at found
  · rename_i same
    rcases same with ⟨rfl, identified⟩
    cases identified
    rcases names_of_update wellFormed done with ⟨rfl, rfl⟩
    rcases update_eq_ok done with ⟨name, objectKey, existing, _, sameClass, keyed, old, _⟩
    cases sameClass
    cases keyed
    exact ⟨existing, old⟩
  · exact ⟨stored, found⟩

/-- An update may replace the fields of a record by any that the schema of its class takes, and not
only by its own with those of a patch set, which is what a `Step` does. -/
theorem evolves_of_update (sound : store.Sound) (unreserved : Schema.Unreserved fields)
    (done : store.update now className objectId fields = .ok (record, after)) :
    after.Sound ∧ store.Evolves after := by
  have lived : ∀ {key issued}, after.Live key issued → store.Live key issued :=
    fun live => live_of_update sound.wellFormed done live
  rcases update_eq_ok done with ⟨name, key, existing, schema, rfl, _, found, prepared, rfl, rfl⟩
  rcases prepare_eq_ok prepared with ⟨_, _, _, grown, covered⟩
  have old := sound.wellFormed.records _ _ existing found
  refine ⟨⟨?_, fun _ _ live => sound.named _ _ (lived live)⟩, fun _ => List.Subset.refl _, ?_⟩
  · refine (sound.wellFormed.commitSchema rfl grown).setRecord (mem_schemas_commitSchema _ _) ?_
    rw [schemaOf_commitSchema, if_pos rfl]
    exact {
      className := old.className
      identified := old.identified
      objectId := old.objectId
      unreserved := unreserved
      covered := covered
      access := old.access }
  · intro other issued _ live
    refine ⟨lived live, ?_⟩
    change (store.schemaOf other).Extends
      ((store.commitSchema (.text name) (.text name) schema).schemaOf other)
    rw [schemaOf_commitSchema]
    split
    · rename_i same
      exact same ▸ grown
    · exact .refl

end Store

end TypedRecords
