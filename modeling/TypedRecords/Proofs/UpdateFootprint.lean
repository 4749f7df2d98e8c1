import TypedRecords.Proofs.CreationOrder
import TypedRecords.Proofs.SchemaHistory
import TypedRecords.Proofs.UpdateAcceptance

/-!
# What an update touches

An update reads a record, merges its patch into all fields of it and writes them back with the
schema of the class. Of all this only the patch is to be seen afterwards: the fields that it gives,
the moment of the update, and in the schema the fields that it brings for the first time. Two
updates come to one whose patch is the second one over the first.
-/

namespace TypedRecords

namespace Json

/-- Decoding commutes with setting an entry. -/
theorem decodeEntries_set {entries : List (String × Json)} {fields : List (String × Value)}
    {content : Json} {value : Value} (decoded : decodeEntries entries = .ok fields)
    (read : content.decode = .ok value) (key : String) :
    decodeEntries (Entries.set entries key content) = .ok (Entries.set fields key value) := by
  induction entries generalizing fields with
  | nil =>
      cases decoded
      simp [Entries.set, decodeEntries, read]
  | cons entry rest ih =>
      rcases entry with ⟨present, old⟩
      simp only [decodeEntries, Except.bind_eq_ok_iff, Except.pure_eq_ok_iff] at decoded
      rcases decoded with ⟨was, readOld, others, more, rfl⟩
      rw [Entries.set, Entries.set]
      split
      · simp only [decodeEntries, read, more]
        rfl
      · simp only [decodeEntries, readOld, ih more]
        rfl

theorem decodeEntries_merge {first second : List (String × Json)}
    {fields patch : List (String × Value)} (decoded : decodeEntries first = .ok fields)
    (decodedLater : decodeEntries second = .ok patch) :
    decodeEntries (Entries.merge first second) = .ok (Entries.merge fields patch) := by
  induction second generalizing first fields patch with
  | nil =>
      cases decodedLater
      exact decoded
  | cons entry rest ih =>
      rcases entry with ⟨key, content⟩
      simp only [decodeEntries, Except.bind_eq_ok_iff, Except.pure_eq_ok_iff] at decodedLater
      rcases decodedLater with ⟨value, read, others, more, rfl⟩
      have written := decodeEntries_set decoded read key
      exact @ih (Entries.set first key content) (Entries.set fields key value) others written more

end Json

namespace Records

theorem unreserved_of_decodeData_object {label : String} {entries : List (String × Json)}
    {fields : List (String × Value)} (decoded : decodeData label (.object entries) = .ok fields) :
    Schema.Unreserved entries := by
  intro name reserved
  rw [← Json.keys_decodeEntries (decodeEntries_of_decodeData decoded)]
  exact unreserved_of_decodeData decoded name reserved

/-- Data that is merged decodes to what the parts of it decode to, merged. -/
theorem decodeData_merge {label : String} {first second : List (String × Json)}
    {fields patch : List (String × Value)} (decoded : decodeData label (.object first) = .ok fields)
    (decodedLater : decodeData label (.object second) = .ok patch) :
    decodeData label (.object (Entries.merge first second)) =
      .ok (Entries.merge fields patch) := by
  have unreserved := (unreserved_of_decodeData_object decoded).merge
    (unreserved_of_decodeData_object decodedLater)
  rw [decodeData, Schema.reservedAmong_eq_nil_iff.mpr unreserved]
  exact Json.decodeEntries_merge (decodeEntries_of_decodeData decoded)
    (decodeEntries_of_decodeData decodedLater)

end Records

namespace Schema

variable {schema incoming larger : Schema} {field : String} {descriptor : FieldDescriptor}

/-- Merging brings no field but the incoming ones. -/
theorem lookup_of_merge {className : String} (merged : schema.merge className incoming = .ok larger)
    (known : larger.lookup field = some descriptor) :
    schema.lookup field = some descriptor ∨ (field, descriptor) ∈ incoming := by
  induction incoming generalizing schema with
  | nil =>
      cases merged
      exact Or.inl known
  | cons entry rest ih =>
      rw [merge_cons, Except.bind_eq_ok_iff] at merged
      rcases merged with ⟨middle, added, merged⟩
      rcases ih merged with before | later
      · by_cases same : field = entry.1
        · subst same
          rw [(extends_of_add added).2] at before
          cases before
          exact Or.inr List.mem_cons_self
        · rw [lookup_of_add added same] at before
          exact Or.inl before
      · exact Or.inr (List.mem_cons_of_mem _ later)

/-- What a schema has gained are the fields that it did not know. -/
theorem mem_gained_iff {gained : Schema} (distinct : (Entries.keys (schema ++ gained)).Nodup) :
    (field, descriptor) ∈ gained ↔
      schema.lookup field = none ∧ (schema ++ gained).lookup field = some descriptor := by
  constructor
  · intro member
    refine ⟨?_, Entries.lookup_of_mem distinct (List.mem_append_right schema member)⟩
    rw [Entries.keys, List.map_append, List.nodup_append] at distinct
    rw [← Option.not_isSome_iff_eq_none, Entries.lookup_isSome_iff]
    intro known
    exact distinct.2.2 field known field (List.mem_map.mpr ⟨_, member, rfl⟩) rfl
  · rintro ⟨unknown, known⟩
    rw [List.lookup_append, unknown, Option.none_or] at known
    exact Entries.mem_of_lookup known

/-- If a schema takes what a patch gives, and once it has grown what another one gives, then it
takes what the second one merged into the first gives. -/
theorem admits_of_merge {patch more : List (String × Value)}
    (distinct : (Entries.keys patch).Nodup) (grown : schema.Extends larger)
    (first : ∀ field value, Entries.given? patch field = some value →
      schema.Admits (field, value))
    (second : ∀ field value, Entries.given? more field = some value →
      larger.Admits (field, value)) :
    ∀ field value, Entries.given? (Entries.merge patch more) field = some value →
      schema.Admits (field, value) := by
  intro field value given
  rw [Entries.given?_merge distinct, Option.or_eq_some_iff] at given
  rcases given with new | ⟨_, old⟩
  · exact (second field value new).of_extends grown
  · exact first field value old

end Schema

namespace Store

/-- What is written over fields that the schema covers brings the fields that the patch gives and
the schema did not know. What the record had before is known already. -/
theorem exists_gained_of_prepare {className : Json} {schema larger : Schema}
    {fields patch : List (String × Value)} (wellFormed : schema.WellFormed)
    (covered : schema.Covers fields)
    (prepared : prepare className schema (Entries.merge fields patch) = .ok larger) :
    ∃ gained, larger = schema ++ gained ∧ (Entries.keys gained).Nodup ∧
      ∀ field descriptor, (field, descriptor) ∈ gained ↔ schema.lookup field = none ∧
        ∃ value, Entries.given? patch field = some value ∧
          value.descriptor? = .ok (some descriptor) := by
  rcases prepare_eq_ok prepared with ⟨name, _, _, grown, takes⟩
  rcases grown.isPrefix with ⟨gained, rfl⟩
  have distinct := (grown.wellFormed wellFormed).keys_nodup
  refine ⟨gained, rfl, ?_, ?_⟩
  · rw [Entries.keys, List.map_append] at distinct
    exact distinct.of_append_right
  intro field descriptor
  rw [Schema.mem_gained_iff distinct]
  refine and_congr_right fun unknown => ?_
  constructor
  · intro known
    simp only [prepare, Except.bind_eq_ok_iff] at prepared
    rcases prepared with ⟨_, _, inferred, done, merged⟩
    rcases Schema.lookup_of_merge merged known with before | brought
    · rw [unknown] at before
      cases before
    · rcases Schema.exists_of_mem_infer done brought with ⟨⟨_, value⟩, member, rfl, set, described⟩
      rcases Entries.mem_merge_cases member with given | old
      · exact ⟨value, given, described⟩
      · rcases covered _ old set with ⟨_, _, before⟩
        rw [unknown] at before
        cases before
  · rintro ⟨value, given, described⟩
    have merged : (Entries.merge fields patch).lookup field = some value := by
      rw [Entries.lookup_merge, given, Option.some_or]
    have set : value.isNull = false := Value.isNull_eq_false (by simp [described])
    rcases takes _ (Entries.mem_of_lookup merged) set with ⟨found, same, known⟩
    rw [described] at same
    cases same
    exact known

/-- What an update of a record with a patch leaves of the store before. -/
structure UpdateFootprint (before after : Store) (time : Moment) (patch : List (String × Value))
    (existing record : Record) : Prop where
  found : before.record? (.text record.className) (.text record.objectId) = some existing
  stands : after.record? (.text record.className) (.text record.objectId) = some record
  fields : ∀ field, record.fields.lookup field =
    (Entries.given? patch field).or (existing.fields.lookup field)
  kept : record = { existing with fields := record.fields, updatedAt := time }
  places : ∀ key, Entries.keys (after.tableOf key) = Entries.keys (before.tableOf key)
  others : ∀ key objectId,
    ¬ (key = .text record.className ∧ objectId = .text record.objectId) →
      after.record? key objectId = before.record? key objectId
  classes : Entries.keys after.schemas = Entries.keys before.schemas
  schemas : ∀ key, key ≠ .text record.className →
    after.schemas.lookup key = before.schemas.lookup key
  gained : ∃ gained,
    after.schemaOf (.text record.className) =
      before.schemaOf (.text record.className) ++ gained ∧
    (Entries.keys gained).Nodup ∧
    ∀ field descriptor, (field, descriptor) ∈ gained ↔
      (before.schemaOf (.text record.className)).lookup field = none ∧
        ∃ value, Entries.given? patch field = some value ∧
          value.descriptor? = .ok (some descriptor)
  issued : after.issued = before.issued

variable {store after : Store} {time : Moment} {className objectId : Json}
  {patch : List (String × Value)} {existing record : Record}

theorem footprint_of_update (wellFormed : store.WellFormed)
    (found : store.getById className objectId = .ok (some existing))
    (done : store.update time className objectId (Entries.merge existing.fields patch) =
      .ok (record, after)) : UpdateFootprint store after time patch existing record := by
  rcases names_of_update wellFormed done with ⟨rfl, rfl⟩
  rcases update_eq_ok done with ⟨name, key, old, schema, inClass, keyed, known, prepared, written,
    left⟩
  cases inClass
  cases keyed
  cases known.symm.trans (Except.ok.inj found)
  have present := wellFormed.mem_schemas_of_record? known
  have covered := (wellFormed.records _ _ existing known).covered
  refine {
    found := known
    stands := by rw [record?_update wellFormed done, if_pos ⟨rfl, rfl⟩]
    fields := fun field => by rw [written, Entries.lookup_merge]
    kept := by rw [written]
    places := ?_
    others := fun key objectId other => by rw [record?_update wellFormed done, if_neg other]
    classes := ?_
    schemas := ?_
    gained := ?_
    issued := by rw [left]; rfl }
  · intro key
    rw [left]
    exact wellFormed.keys_tableOf_setRecord known _ _ _
  · rw [left]
    change Entries.keys (Entries.set store.schemas _ _) = _
    rw [Entries.keys_set, if_pos present]
  · intro key different
    rw [left]
    exact Entries.lookup_set_of_ne _ _ different
  · have written : after.schemaOf (.text record.className) = schema := by
      rw [left]
      exact (schemaOf_commitSchema _ _).trans (if_pos rfl)
    rw [written]
    exact exists_gained_of_prepare (wellFormed.schemas _) covered prepared

end Store

namespace Records

variable {backend after final : Backend} {className objectId : Json} {record last : Record}

/-- An update writes the fields of the record with the patch merged into them. -/
theorem fields_of_run_update {data : Json} {patch : List (String × Value)} {existing : Record}
    (served : backend.outages = []) (decoded : decodeData "data" data = .ok patch)
    (found : backend.store.getById className objectId = .ok (some existing))
    (ran : (update className objectId data).run backend = (.ok record, after)) :
    record.fields = Entries.merge existing.fields patch := by
  rcases (run_update_eq_ok_iff served).mp ran with
    ⟨_, _, again, read, store, decodedAgain, foundAgain, done, _⟩
  rw [decoded] at decodedAgain
  rw [found] at foundAgain
  cases decodedAgain
  cases foundAgain
  exact (Store.getById_of_update done).2

/-- Two updates that succeed come to one, whose data is that of the second merged into that of the
first. -/
theorem exists_run_update_merge (sound : backend.store.Sound) (served : backend.outages = [])
    {first second : List (String × Json)} (distinct : (Entries.keys first).Nodup)
    (ran : (update className objectId (.object first)).run backend = (.ok record, after))
    {later : Moment}
    (ranLater : (update className objectId (.object second)).run { after with now := later } =
      (.ok last, final)) (now : Moment) :
    ∃ single left,
      (update className objectId (.object (Entries.merge first second))).run
        { backend with now } = (.ok single, left) ∧
      ∀ field, single.fields.lookup field = last.fields.lookup field := by
  rcases (run_update_eq_ok_iff served).mp ran with
    ⟨_, known, patch, existing, store, decoded, found, done, rfl⟩
  have servedLater : ({ backend with store, now := later } : Backend).outages = [] := served
  rcases (run_update_eq_ok_iff servedLater).mp ranLater with
    ⟨_, _, more, _, _, decodedLater, _, _, _⟩
  rcases Store.names_of_update sound.wellFormed done with ⟨rfl, rfl⟩
  have drawn : record.objectId ≠ "" := by
    simpa [Json.isBlank] using requireArgument_eq_ok known
  have footprint := Store.footprint_of_update sound.wellFormed found done
  have filed := sound.wellFormed.records _ _ existing footprint.found
  have unreserved := filed.unreserved.merge (unreserved_of_decodeData decoded)
  rcases Store.evolves_of_update sound unreserved done with ⟨next, evolves⟩
  have issued := sound.wellFormed.issued_of_live ⟨existing, footprint.found⟩
  rcases evolves.lived _ _ issued ⟨record, footprint.stands⟩ with ⟨_, grown⟩
  have merged := decodeData_merge decoded decodedLater
  have distinctFields : (Entries.keys patch).Nodup := by
    rw [Json.keys_decodeEntries (decodeEntries_of_decodeData decoded)]
    exact distinct
  have takes := (exists_run_update_iff sound served drawn footprint.found decoded).mp ⟨_, _, ran⟩
  have takesLater := (exists_run_update_iff next servedLater drawn footprint.stands
    decodedLater).mp ⟨_, _, ranLater⟩
  have admitted := Schema.admits_of_merge distinctFields grown takes takesLater
  have soundAgain : ({ backend with now } : Backend).store.Sound := sound
  have servedAgain : ({ backend with now } : Backend).outages = [] := served
  rcases (exists_run_update_iff soundAgain servedAgain drawn footprint.found merged).mpr
    admitted with ⟨single, left, ranOnce⟩
  refine ⟨single, left, ranOnce, ?_⟩
  intro field
  have standing : ({ backend with store, now := later } : Backend).store.getById
      (.text record.className) (.text record.objectId) = .ok (some record) :=
    congrArg Except.ok footprint.stands
  have foundAgain : ({ backend with now } : Backend).store.getById
      (.text record.className) (.text record.objectId) = .ok (some existing) := found
  rw [fields_of_run_update servedAgain merged foundAgain ranOnce,
    fields_of_run_update servedLater decodedLater standing ranLater, Entries.lookup_merge,
    Entries.lookup_merge, footprint.fields, Entries.given?_merge distinctFields,
    Option.or_assoc]

end Records

namespace Store

/-- In every store that requests lead to, an update that succeeds leaves its footprint and nothing
else, and draws no id. If then another update of the record succeeds, whenever that is, one update
at any moment does for both: the fields are the same if its data is that of the second update merged
into that of the first. (The keys of an object are distinct.) -/
theorem update_footprint (requests : List Request) {backend after : Backend}
    {className objectId data : Json} {patch : List (String × Value)} {record : Record}
    (stored : backend.store = ({} : Store).after requests) (served : backend.outages = [])
    (decoded : Records.decodeData "data" data = .ok patch)
    (ran : (Records.update className objectId data).run backend = (.ok record, after)) :
    (className = .text record.className ∧ objectId = .text record.objectId ∧
      after = { backend with store := after.store } ∧
      ∃ existing, backend.store.UpdateFootprint after.store backend.now.truncated patch existing
        record) ∧
    ∀ first second later now last final, data = .object first → (Entries.keys first).Nodup →
      (Records.update className objectId (.object second)).run { after with now := later } =
        (.ok last, final) →
      ∃ single left,
        (Records.update className objectId (.object (Entries.merge first second))).run
          { backend with now } = (.ok single, left) ∧
        ∀ field, single.fields.lookup field = last.fields.lookup field := by
  have sound := sound_empty.after requests
  rw [← stored] at sound
  constructor
  · rcases (Records.run_update_eq_ok_iff served).mp ran with
      ⟨_, _, read, existing, store, same, found, done, rfl⟩
    rw [decoded] at same
    cases same
    rcases names_of_update sound.wellFormed done with ⟨inClass, identified⟩
    exact ⟨inClass, identified, rfl, existing, footprint_of_update sound.wellFormed found done⟩
  · rintro first second later now last final rfl distinct ranLater
    exact Records.exists_run_update_merge sound served distinct ran ranLater now

/-- An update that gives the first record the later field, and sets its own to null. -/
def givingLater : Action Record :=
  Records.update (.text "A") (.text "x") (.object [("m", .text "old"), ("n", .null)])

/-- An update that gives the first record the later field anew, and one more. -/
def givingMore : Action Record :=
  Records.update (.text "A") (.text "x") (.object [("m", .text "older"), ("k", .bool true)])

/-- The first of the two updates leaves the other record and issues no id. One update does for
both. -/
theorem laterField_updated_at_once :
    ∃ record after last final, givingLater.run onLaterField = (.ok record, after) ∧
      givingMore.run after = (.ok last, final) ∧
      after.store.record? (.text "A") (.text "y") =
        onLaterField.store.record? (.text "A") (.text "y") ∧
      after.store.issued = onLaterField.store.issued ∧
      ∃ single left,
        (Records.update (.text "A") (.text "x") (.object [("m", .text "older"), ("n", .null),
          ("k", .bool true)])).run onLaterField = (.ok single, left) ∧
        ∀ field, single.fields.lookup field = last.fields.lookup field := by
  have stored : onLaterField.store = ({} : Store).after laterField := by rw [onLaterField]
  have served : onLaterField.outages = [] := rfl
  have decoded : Records.decodeData "data" (.object [("m", .text "old"), ("n", .null)]) =
      .ok [("m", .text "old"), ("n", .null)] := rfl
  have both : ∃ record after last final, givingLater.run onLaterField = (.ok record, after) ∧
      givingMore.run after = (.ok last, final) := ⟨_, _, _, _, rfl, rfl⟩
  rcases both with ⟨record, after, last, final, ran, ranLater⟩
  rcases update_footprint laterField stored served decoded ran with
    ⟨⟨inClass, identified, _, existing, footprint⟩, composed⟩
  refine ⟨record, after, last, final, ran, ranLater, ?_, footprint.issued, ?_⟩
  · apply footprint.others
    rintro ⟨_, same⟩
    rw [← Json.text.inj identified] at same
    exact absurd same (by decide)
  · have once := composed [("m", .text "old"), ("n", .null)]
      [("m", .text "older"), ("k", .bool true)] after.now onLaterField.now last final rfl
      (by decide) ranLater
    exact once

end Store

end TypedRecords
