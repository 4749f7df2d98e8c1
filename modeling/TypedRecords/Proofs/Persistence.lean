import TypedRecords.Proofs.Effect

/-!
# What keeps a record

A record stands in the store as it is until a request names it, or removes its class. Each call of
the store leaves all records but those that it is about, and the ids of new records are fresh, so
no call puts a record in the place of one that stands there.
-/

namespace TypedRecords

namespace Store

variable {store after : Store} {key other : Key} {objectId : String} {source rest : IdSource}
  {now : Moment} {fields : List (String × Value)} {access : AccessPolicy} {record : Record}

/-- In a well-formed store committing a schema leaves the records. -/
theorem record?_commitSchema (wellFormed : store.WellFormed) (className : Json) (schema : Schema)
    (objectId : Key) :
    (store.commitSchema key className schema).record? other objectId =
      store.record? other objectId := by
  rw [record?, wellFormed.tableOf_commitSchema, record?]

/-- Filing a new record leaves what stands under the ids that were issued before. -/
theorem record?_of_file {className : String} (issued : objectId ∈ store.issuedFor other)
    (done : store.file source now key className fields access = (record, after, rest)) :
    after.record? other (.text objectId) = store.record? other (.text objectId) ∧
      objectId ∈ after.issuedFor other := by
  rcases file_eq done with ⟨fresh, _, rfl⟩
  constructor
  · rw [record?_setRecord, if_neg]
    · rfl
    · rintro ⟨rfl, same⟩
      cases same
      exact fresh issued
  · rw [issuedFor_setRecord, issuedFor_noteIssued]
    split
    · rename_i same
      exact List.mem_append_left _ (same ▸ issued)
    · exact issued

/-- Filing new records leaves what stands under an id that was issued before: it stays issued from
item to item, so every draw passes it over. -/
theorem record?_of_fileAll {className : String}
    {items : List (List (String × Value) × AccessPolicy)} {records : List Record}
    (issued : objectId ∈ store.issuedFor other)
    (done : store.fileAll source now key className items = (records, after, rest)) :
    after.record? other (.text objectId) = store.record? other (.text objectId) := by
  induction items generalizing store source records with
  | nil =>
      cases done
      rfl
  | cons item others ih =>
      rcases fileAll_cons_eq done with ⟨record, middle, left, later, filed, more, rfl⟩
      have first := record?_of_file issued filed
      rw [ih first.2 more, first.1]

variable {className target : Json}

/-- An insertion leaves all that stands in the store, and adds the new record. -/
theorem record?_insert (wellFormed : store.WellFormed)
    (done : store.insert source now className fields access = .ok (record, after, rest))
    (objectKey : Key) :
    after.record? other objectKey =
      if other = .text record.className ∧ objectKey = .text record.objectId then some record
      else store.record? other objectKey := by
  rcases insert_eq_ok done with ⟨name, schema, rfl, _, _, _, filed⟩
  rcases file_eq filed with ⟨_, new, rfl⟩
  have inClass : record.className = name := by rw [new]
  have kept : (store.commitSchema (.text name) (.text name) schema).record? other objectKey =
      store.record? other objectKey := record?_commitSchema wellFormed _ _ _
  rw [record?_setRecord, inClass, ← kept]
  rfl

theorem className_of_insert
    (done : store.insert source now className fields access = .ok (record, after, rest)) :
    className = .text record.className := by
  rcases insert_eq_ok done with ⟨name, schema, rfl, _, _, _, filed⟩
  rw [(file_eq filed).2.1]

theorem record?_of_insert_of_issued (wellFormed : store.WellFormed)
    (issued : objectId ∈ store.issuedFor other)
    (done : store.insert source now className fields access = .ok (record, after, rest)) :
    after.record? other (.text objectId) = store.record? other (.text objectId) := by
  rcases insert_eq_ok done with ⟨name, schema, rfl, _, _, _, filed⟩
  rw [(record?_of_file (by simpa using issued) filed).1, record?_commitSchema wellFormed]

theorem record?_of_bulkInsert {items : List (List (String × Value) × AccessPolicy)}
    {records : List Record} (wellFormed : store.WellFormed)
    (issued : objectId ∈ store.issuedFor other)
    (done : store.bulkInsert source now className items = .ok (records, after, rest)) :
    after.record? other (.text objectId) = store.record? other (.text objectId) := by
  rcases bulkInsert_eq_ok done with ⟨key, schema, _, _, _, _, filed⟩
  rw [record?_of_fileAll (by simpa using issued) filed, record?_commitSchema wellFormed]

theorem record?_of_declareClass {added : Schema} {declared : Json × Schema}
    (wellFormed : store.WellFormed)
    (done : store.declareClass className added = .ok (declared, after)) (objectId : Key) :
    after.record? other objectId = store.record? other objectId := by
  rcases declareClass_eq_ok done with ⟨name, schema, rfl, _, _, rfl⟩
  exact record?_commitSchema wellFormed _ _ _

theorem names_of_update (wellFormed : store.WellFormed)
    (done : store.update now className target fields = .ok (record, after)) :
    className = .text record.className ∧ target = .text record.objectId := by
  rcases update_eq_ok done with ⟨name, key, existing, schema, rfl, keyed, found, _, rfl, _⟩
  have filed := wellFormed.records _ _ existing found
  rw [filed.identified] at keyed
  exact ⟨congrArg Json.text (Key.text.inj filed.className), Json.eq_text_of_key keyed⟩

/-- An update leaves all records but the one that it names. -/
theorem record?_update (wellFormed : store.WellFormed)
    (done : store.update now className target fields = .ok (record, after)) (objectKey : Key) :
    after.record? other objectKey =
      if other = .text record.className ∧ objectKey = .text record.objectId then some record
      else store.record? other objectKey := by
  rcases names_of_update wellFormed done with ⟨rfl, rfl⟩
  rcases update_eq_ok done with ⟨name, key, _, schema, sameClass, keyed, _, _, _, rfl⟩
  cases sameClass
  cases keyed
  rw [record?_setRecord, record?_commitSchema wellFormed]

theorem record?_of_delete_of_ne {name : String}
    (done : store.delete className target = .ok after)
    (different : ¬ (className = .text name ∧ target = .text objectId)) :
    after.record? (.text name) (.text objectId) = store.record? (.text name) (.text objectId) := by
  rcases delete_eq_ok done with ⟨key, targetKey, _, keyed, targetKeyed, _, rfl⟩
  rw [record?_dropRecord, if_neg]
  rintro ⟨rfl, rfl⟩
  exact different ⟨Json.eq_text_of_key keyed, Json.eq_text_of_key targetKeyed⟩

theorem record?_of_purgeClass_of_ne {name : String} (done : store.purgeClass className = .ok after)
    (different : className ≠ .text name) (objectId : Key) :
    after.record? (.text name) objectId = store.record? (.text name) objectId := by
  rcases purgeClass_eq_ok done with ⟨key, _, keyed, _, _, rfl⟩
  rw [record?_dropClass, if_neg]
  rintro rfl
  exact different (Json.eq_text_of_key keyed)

end Store

namespace Request

variable {request : Request} {store after : Store} {className objectId : String} {record : Record}

/-- The request asks to update or to delete the record of a class under an id. -/
def Names (request : Request) (className objectId : String) : Prop :=
  (request.name = .text "updateRecord" ∨ request.name = .text "deleteRecord") ∧
    request.parameter "className" = .text className ∧
    request.parameter "objectId" = .text objectId

/-- The request succeeds in deleting a class. -/
def RemovesClass (request : Request) (store : Store) (className : String) : Prop :=
  request.name = .text "deleteTable" ∧ request.parameter "className" = .text className ∧
    ∃ answer, request.outcome store = .ok answer

/-- A record stays unless the request names it or removes its class. -/
theorem Effect.record?_eq_some (effect : request.Effect store after)
    (wellFormed : store.WellFormed)
    (found : store.record? (.text className) (.text objectId) = some record)
    (unnamed : ¬ request.Names className objectId)
    (kept : ¬ request.RemovesClass store className) :
    after.record? (.text className) (.text objectId) = some record := by
  have filed := wellFormed.records _ _ record found
  have issued : objectId ∈ store.issuedFor (.text className) := by
    rw [Key.text.inj filed.identified]
    exact filed.objectId
  cases effect with
  | unchanged => exact found
  | created _ _ done => rwa [Store.record?_of_insert_of_issued wellFormed issued done]
  | updated named _ _ done =>
      rcases Store.names_of_update wellFormed done with ⟨inClass, known⟩
      rw [Store.record?_update wellFormed done, if_neg, found]
      rintro ⟨sameClass, same⟩
      cases sameClass
      cases same
      exact unnamed ⟨Or.inl named, inClass, known⟩
  | deleted named done =>
      rwa [Store.record?_of_delete_of_ne done fun same => unnamed ⟨Or.inr named, same⟩]
  | batched _ _ _ _ done => rwa [Store.record?_of_bulkInsert wellFormed issued done]
  | seeded _ _ _ done => rwa [Store.record?_of_insert_of_issued wellFormed issued done]
  | declared _ _ _ _ done => rwa [Store.record?_of_declareClass wellFormed done]
  | purged named answered done =>
      rwa [Store.record?_of_purgeClass_of_ne done fun same => kept ⟨named, same, _, answered⟩]

end Request

namespace Store

variable {store : Store} {className objectId : String} {record : Record}

/-- None of some requests, each on the store that the one before leaves, names the record of a
class under an id or removes the class. -/
def Undisturbed (className objectId : String) : Store → List Request → Prop
  | _, [] => True
  | store, request :: rest =>
      ¬ request.Names className objectId ∧ ¬ request.RemovesClass store className ∧
        Undisturbed className objectId (request.next store) rest

/-- A record that is left undisturbed stays as it is. -/
theorem record?_after {requests : List Request} (wellFormed : store.WellFormed)
    (found : store.record? (.text className) (.text objectId) = some record)
    (undisturbed : store.Undisturbed className objectId requests) :
    (store.after requests).record? (.text className) (.text objectId) = some record := by
  induction requests generalizing store with
  | nil => exact found
  | cons request rest ih =>
      rcases undisturbed with ⟨unnamed, kept, later⟩
      have stays := (request.effect store).record?_eq_some wellFormed found unnamed kept
      exact ih (request.wellFormed_next wellFormed) stays later

end Store

end TypedRecords
