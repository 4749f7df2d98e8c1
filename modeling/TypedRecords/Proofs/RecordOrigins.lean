import TypedRecords.Proofs.Persistence

/-!
# Where records come from

A record that a request leaves in the store stood there before, or the request has written it: anew,
with the moment of the request for both of its moments, or in the place of a record from which it
differs in its fields and in the moment of its last write. The fields are decoded from a parameter
of the request, and merged into those that were there before.

So a property of records holds after every run if it holds of all that each request writes.
-/

namespace TypedRecords

namespace Request

/-- The request gives the fields of a new record in one of its parameters: as its data, as an item
of a batch, or as the samples of a class. -/
inductive Gives (request : Request) (fields : List (String × Value)) : Prop where
  | data (decoded : Records.decodeData "data" (request.parameter "data") = .ok fields)
  | item {items : List Json} {batch : List (List (String × Value) × AccessPolicy)}
      {access : AccessPolicy} (listed : request.parameter "records" = .array items)
      (decoded : Records.decodeBatch 0 items = .ok batch) (member : (fields, access) ∈ batch)
  | samples {entries : List (String × Json)}
      (listed : Tables.sampleEntries (request.parameter "schema") = .ok entries)
      (decoded : Tables.decodeSamples entries = .ok fields)

/-- The request puts a record into the store, in the place of another one if there is one before. -/
inductive Puts (request : Request) : Option Record → Record → Prop where
  | filed {record : Record} (given : request.Gives record.fields)
      (created : record.createdAt = request.now.truncated)
      (updated : record.updatedAt = request.now.truncated) : Puts request none record
  | rewritten (existing : Record) {patch : List (String × Value)}
      (decoded : Records.decodeData "data" (request.parameter "data") = .ok patch) :
      Puts request (some existing)
        { existing with
          fields := Entries.merge existing.fields patch
          updatedAt := request.now.truncated }

end Request

namespace Store

variable {store after : Store} {key other : Key} {source rest : IdSource} {now : Moment}
  {fields : List (String × Value)} {access : AccessPolicy} {record : Record}

/-- A record that stands in the store after a batch was filed stood there before, or is filed with
the fields of an item. -/
theorem record?_of_fileAll_cases {className : String} {objectId : Key}
    {items : List (List (String × Value) × AccessPolicy)} {records : List Record}
    (done : store.fileAll source now key className items = (records, after, rest))
    (stands : after.record? other objectId = some record) :
    store.record? other objectId = some record ∨
      (∃ access, (record.fields, access) ∈ items) ∧ record.createdAt = now ∧
        record.updatedAt = now := by
  induction items generalizing store source records with
  | nil =>
      cases done
      exact Or.inl stands
  | cons item others ih =>
      rcases fileAll_cons_eq done with ⟨first, middle, left, later, filed, more, rfl⟩
      rcases ih more with before | ⟨⟨policy, member⟩, moments⟩
      · rcases file_eq filed with ⟨_, new, rfl⟩
        rw [record?_setRecord] at before
        split at before
        · cases before
          rw [new]
          exact Or.inr ⟨⟨item.2, List.mem_cons_self⟩, rfl, rfl⟩
        · exact Or.inl before
      · exact Or.inr ⟨⟨policy, List.mem_cons_of_mem _ member⟩, moments⟩

/-- What an insertion adds is a record with the fields that are given, and the moment. -/
theorem record?_of_insert_cases (wellFormed : store.WellFormed) {className : Json}
    {new : Record} {objectId : Key}
    (done : store.insert source now className fields access = .ok (new, after, rest))
    (stands : after.record? other objectId = some record) :
    store.record? other objectId = some record ∨
      record.fields = fields ∧ record.createdAt = now ∧ record.updatedAt = now := by
  rw [record?_insert wellFormed done] at stands
  split at stands
  · cases stands
    rcases insert_eq_ok done with ⟨name, schema, _, _, _, _, filed⟩
    rw [(file_eq filed).2.1]
    exact Or.inr ⟨rfl, rfl, rfl⟩
  · exact Or.inl stands

end Store

namespace Request

variable {request : Request} {store after : Store} {key objectId : Key} {record : Record}

/-- A record that a request leaves stood in the store before, or the request has written it. -/
theorem Effect.record?_cases (effect : request.Effect store after) (wellFormed : store.WellFormed)
    (stands : after.record? key objectId = some record) :
    store.record? key objectId = some record ∨
      ∃ before, (∀ existing ∈ before, store.record? key objectId = some existing) ∧
        request.Puts before record := by
  have filed : request.Gives record.fields ∧ record.createdAt = request.now.truncated ∧
      record.updatedAt = request.now.truncated →
      ∃ before, (∀ existing ∈ before, store.record? key objectId = some existing) ∧
        request.Puts before record := by
    rintro ⟨given, created, updated⟩
    exact ⟨none, by simp, .filed given created updated⟩
  cases effect with
  | unchanged => exact Or.inl stands
  | created _ decoded done =>
      refine (Store.record?_of_insert_cases wellFormed done stands).imp_right ?_
      rintro ⟨same, moments⟩
      exact filed ⟨.data (same ▸ decoded), moments⟩
  | @updated existing written patch _ _ decoded found done =>
      rw [Store.record?_update wellFormed done] at stands
      split at stands
      · rename_i place
        cases stands
        rcases place with ⟨rfl, rfl⟩
        rcases Store.names_of_update wellFormed done with ⟨inClass, known⟩
        rw [inClass, known] at found done
        rcases Store.update_eq_ok done with ⟨name, target, _, _, text, keyed, stood, _, same, _⟩
        cases text
        cases keyed
        cases stood.symm.trans (Except.ok.inj found)
        refine Or.inr ⟨some existing, by simpa using stood, ?_⟩
        rw [same]
        exact .rewritten existing decoded
      · exact Or.inl stands
  | deleted _ done =>
      rcases Store.delete_eq_ok done with ⟨_, _, _, _, _, _, rfl⟩
      rw [Store.record?_dropRecord] at stands
      split at stands
      · cases stands
      · exact Or.inl stands
  | batched _ _ listed decoded done =>
      rcases Store.bulkInsert_eq_ok done with ⟨_, _, _, _, _, _, done⟩
      have cases := Store.record?_of_fileAll_cases done stands
      rw [Store.record?_commitSchema wellFormed] at cases
      refine cases.imp_right ?_
      rintro ⟨⟨access, member⟩, moments⟩
      exact filed ⟨.item listed decoded member, moments⟩
  | seeded _ listed decoded done =>
      refine (Store.record?_of_insert_cases wellFormed done stands).imp_right ?_
      rintro ⟨same, moments⟩
      exact filed ⟨.samples listed (same ▸ decoded), moments⟩
  | declared _ _ _ _ done =>
      rw [Store.record?_of_declareClass wellFormed done] at stands
      exact Or.inl stands
  | purged _ _ done =>
      rcases Store.purgeClass_eq_ok done with ⟨_, _, _, _, _, rfl⟩
      rw [Store.record?_dropClass] at stands
      split at stands
      · cases stands
      · exact Or.inl stands

end Request

namespace Store

/-- Every record of the store has a property. -/
def AllRecords (property : Record → Prop) (store : Store) : Prop :=
  ∀ key objectId record, store.record? key objectId = some record → property record

variable {store : Store} {property : Record → Prop}

theorem allRecords_empty (property : Record → Prop) : ({} : Store).AllRecords property := by
  intro key objectId record found
  cases found

/-- A property that each request of a run gives to what it writes is one of all records. -/
theorem AllRecords.after (all : store.AllRecords property) (wellFormed : store.WellFormed)
    {requests : List Request}
    (puts : ∀ request ∈ requests, ∀ before record, request.Puts before record →
      (∀ existing ∈ before, property existing) → property record) :
    (store.after requests).AllRecords property := by
  induction requests generalizing store with
  | nil => exact all
  | cons request rest ih =>
      have next : (request.next store).AllRecords property := by
        intro key objectId record stands
        rcases (request.effect store).record?_cases wellFormed stands with
          old | ⟨before, stood, written⟩
        · exact all key objectId record old
        · exact puts request List.mem_cons_self before record written
            fun existing known => all key objectId existing (stood existing known)
      exact ih next (request.wellFormed_next wellFormed)
        fun other member => puts other (List.mem_cons_of_mem _ member)

end Store

end TypedRecords
