import TypedRecords.Proofs.ReadBack

/-!
# The names of fields

A write is accepted only if the schema of the class comes to know every field that is not null, and
a schema knows only fields with accepted names. So every field of a record that is not null has an
accepted name, and a request that sets a field of another name to anything but null fails. A field
that is null has no type and is not looked at: it may have any name that is not reserved.
-/

namespace TypedRecords

theorem Schema.WellFormed.isName_of_lookup {schema : Schema} (wellFormed : schema.WellFormed)
    {field : String} {descriptor : FieldDescriptor}
    (known : schema.lookup field = some descriptor) : isName field = true := by
  have builtin : ∀ entry ∈ Schema.builtin, isName entry.1 = true := by decide
  rcases wellFormed.begins with ⟨further, rfl, named⟩
  rcases List.mem_append.mp (Entries.mem_of_lookup known) with first | later
  · exact builtin _ first
  · exact named _ later

theorem Schema.WellFormed.isName_of_covers {schema : Schema} (wellFormed : schema.WellFormed)
    {fields : List (String × Value)} (covered : schema.Covers fields) {field : String × Value}
    (member : field ∈ fields) (given : field.2.isNull = false) : isName field.1 = true := by
  rcases covered field member given with ⟨descriptor, _, known⟩
  exact wellFormed.isName_of_lookup known

namespace Store

variable {store after : Store} {source rest : IdSource} {now : Moment} {className : Json}

/-- The schema of a class can grow so as to cover the fields. -/
def Takes (store : Store) (fields : List (String × Value)) : Prop :=
  ∃ key schema, (store.schemaOf key).Extends schema ∧ schema.Covers fields

theorem Takes.isName (wellFormed : store.WellFormed) {fields : List (String × Value)}
    (takes : store.Takes fields) {field : String × Value} (member : field ∈ fields)
    (given : field.2.isNull = false) : isName field.1 = true := by
  rcases takes with ⟨key, schema, grown, covered⟩
  exact (grown.wellFormed (wellFormed.schemas key)).isName_of_covers covered member given

theorem takes_of_insert {fields : List (String × Value)} {access : AccessPolicy} {record : Record}
    (done : store.insert source now className fields access = .ok (record, after, rest)) :
    store.Takes fields := by
  rcases insert_eq_ok done with ⟨name, schema, _, _, grown, covered, _⟩
  exact ⟨_, schema, grown, covered⟩

theorem takes_of_update {objectId : Json} {fields : List (String × Value)} {record : Record}
    (done : store.update now className objectId fields = .ok (record, after)) :
    store.Takes fields := by
  rcases update_eq_ok done with ⟨name, _, _, schema, _, _, _, prepared, _⟩
  rcases prepare_eq_ok prepared with ⟨_, _, _, grown, covered⟩
  exact ⟨_, schema, grown, covered⟩

theorem takes_of_bulkInsert {items : List (List (String × Value) × AccessPolicy)}
    {records : List Record}
    (done : store.bulkInsert source now className items = .ok (records, after, rest)) :
    ∀ item ∈ items, store.Takes item.1 := by
  rcases bulkInsert_eq_ok done with ⟨key, schema, _, _, grown, covered, _⟩
  intro item member
  exact ⟨key, schema, grown, covered item member⟩

theorem takes_of_declareClass {fields : List (String × Value)} {added : Schema}
    {declared : Json × Schema} (inferred : Schema.infer fields = .ok added)
    (done : store.declareClass className added = .ok (declared, after)) : store.Takes fields := by
  rcases declareClass_eq_ok done with ⟨name, schema, _, _, merged, _⟩
  exact ⟨_, schema, (Schema.extends_of_merge merged).1,
    Schema.covers_of_infer_merge inferred merged⟩

end Store

namespace Records

open TypedRecords.Action

variable {backend after : Backend}

theorem createBatch_eq_ok {className : Json} {items : List Json} {records : List Record}
    (ran : (createBatch className (.array items)).run backend = (.ok records, after)) :
    ∃ batch, decodeBatch 0 items = .ok batch ∧
      backend.store.bulkInsert backend.ids backend.time className batch =
        .ok (records, after.store, after.ids) := by
  rcases KeepsBackend.bind_eq_ok (.ofInput _) ran with ⟨_, _, ran⟩
  rcases KeepsBackend.bind_eq_ok (.ofInput _) ran with ⟨batch, decoded, ran⟩
  exact ⟨batch, of_run_ofInput decoded, Backend.run_writing_eq_ok ran⟩

end Records

namespace Tables

open TypedRecords.Action

variable {backend after : Backend}

/-- Whether it seeds or declares, the creation of a table checks the sample values against the
schema of the class. -/
theorem create_eq_ok {seedByDefault : Bool} {className seed : Json}
    {entries : List (String × Json)} {creation : TableCreation}
    (ran : (create seedByDefault className (.object entries) seed).run backend =
      (.ok creation, after)) :
    ∃ fields, decodeSamples entries = .ok fields ∧ backend.store.Takes fields := by
  rcases KeepsBackend.bind_eq_ok (.ofInput _) ran with ⟨_, _, ran⟩
  rcases KeepsBackend.bind_eq_ok (.ofInput _) ran with ⟨samples, listed, ran⟩
  cases of_run_ofInput listed
  rcases KeepsBackend.bind_eq_ok (.ofInput _) ran with ⟨seeding, _, ran⟩
  rcases KeepsBackend.bind_eq_ok (.ofInput _) ran with ⟨fields, decoded, ran⟩
  refine ⟨fields, of_run_ofInput decoded, ?_⟩
  split at ran
  · rcases run_eq_ok_of_keepsBackend (fun _ => .pure _) ran with ⟨record, inserted⟩
    exact Store.takes_of_insert (Backend.run_writing_eq_ok inserted)
  · rcases KeepsBackend.bind_eq_ok (.ofInput _) ran with ⟨schema, sampled, ran⟩
    rcases run_eq_ok_of_keepsBackend (fun _ => .pure _) ran with ⟨declared, written⟩
    have added := Backend.eq_ok_of_result (Backend.run_writing_eq_ok written)
    exact Store.takes_of_declareClass (infer_of_sampleSchema (of_run_ofInput sampled)) added

end Tables

namespace Request

open TypedRecords.Action

variable {request : Request} {store : Store} {field : String} {content : Json}

/-- The request sets the field of a record, or of a new table, to the content. -/
inductive Sets (request : Request) (field : String) (content : Json) : Prop where
  | created {entries : List (String × Json)} (named : request.name = .text "createRecord")
      (given : request.parameter "data" = .object entries) (member : (field, content) ∈ entries)
  | updated {entries : List (String × Json)} (named : request.name = .text "updateRecord")
      (given : request.parameter "data" = .object entries)
      (distinct : (Entries.keys entries).Nodup) (member : (field, content) ∈ entries)
  | batched {items : List Json} {entries : List (String × Json)}
      (named : request.name = .text "batchCreateRecords")
      (given : request.parameter "records" = .array items) (among : .object entries ∈ items)
      (member : (field, content) ∈ entries)
  | tabled {entries : List (String × Json)} (named : request.name = .text "createTable")
      (given : request.parameter "schema" = .object entries) (member : (field, content) ∈ entries)

/-- A request that sets a field and succeeds has found a class that takes the field. -/
theorem Sets.takes (sets : request.Sets field content) {answer : Json}
    (answered : request.outcome store = .ok answer) :
    ∃ fields value, store.Takes fields ∧ (field, value) ∈ fields ∧
      value.isNull = content.isNull := by
  cases sets with
  | @created entries named given member =>
      have registered : Operation.createRecord ∈ Operation.builtin := by simp [Operation.builtin]
      rcases exists_recordShown_of_ok registered named rfl answered with ⟨_, _, _, written, _⟩
      rcases Records.create_eq_ok written with ⟨_, _, fields, decoded, done⟩
      change Records.decodeData "data" (request.parameter "data") = .ok fields at decoded
      rw [given] at decoded
      replace decoded := Records.decodeEntries_of_decodeData decoded
      rcases Json.exists_of_mem_decodeEntries decoded member with ⟨value, present, read⟩
      exact ⟨fields, value, Store.takes_of_insert done, present, Json.isNull_of_decode read⟩
  | @updated entries named given distinct member =>
      have registered : Operation.updateRecord ∈ Operation.builtin := by simp [Operation.builtin]
      rcases exists_recordShown_of_ok registered named rfl answered with ⟨_, _, _, written, _⟩
      rcases Records.update_eq_ok written with ⟨_, _, _, existing, patch, decoded, done⟩
      change Records.decodeData "data" (request.parameter "data") = .ok patch at decoded
      rw [given] at decoded
      replace decoded := Records.decodeEntries_of_decodeData decoded
      rcases Json.exists_of_mem_decodeEntries decoded member with ⟨value, present, read⟩
      have patched : (Entries.keys patch).Nodup := by
        rwa [Json.keys_decodeEntries decoded]
      exact ⟨_, value, Store.takes_of_update done, Entries.mem_merge_of_mem patched present,
        Json.isNull_of_decode read⟩
  | @batched items entries named given among member =>
      have registered : Operation.batchCreateRecords ∈ Operation.builtin := by
        simp [Operation.builtin]
      rcases answer_run_of_ok registered named answered with ⟨_, ran, _⟩
      rcases run_eq_ok_of_keepsBackend (fun _ => .ofHost _) ran with ⟨records, created⟩
      change (Records.createBatch (request.parameter "className")
        (request.parameter "records")).run _ = _ at created
      rw [given] at created
      rcases Records.createBatch_eq_ok created with ⟨batch, decoded, done⟩
      rcases Records.exists_of_mem_decodeBatch decoded among with ⟨_, item, filed, read⟩
      replace read := Records.decodeEntries_of_decodeData read
      rcases Json.exists_of_mem_decodeEntries read member with ⟨value, present, same⟩
      exact ⟨_, value, Store.takes_of_bulkInsert done item filed, present,
        Json.isNull_of_decode same⟩
  | @tabled entries named given member =>
      have registered : Operation.createTable ∈ Operation.builtin := by simp [Operation.builtin]
      rcases answer_run_of_ok registered named answered with ⟨_, ran, _⟩
      rcases run_eq_ok_of_keepsBackend (fun _ => .ofHost _) ran with ⟨creation, created⟩
      change (Tables.create _ (request.parameter "className") (request.parameter "schema")
        _).run _ = _ at created
      rw [given] at created
      rcases Tables.create_eq_ok created with ⟨fields, decoded, takes⟩
      rcases Json.exists_of_mem_decodeEntries (Tables.decodeSamples_eq_ok decoded).2 member with
        ⟨value, present, read⟩
      exact ⟨fields, value, takes, present, Json.isNull_of_decode read⟩

theorem Sets.failed (sets : request.Sets field content) (wellFormed : store.WellFormed)
    (misnamed : isName field = false) (given : content.isNull = false) :
    ∃ failure, request.outcome store = .error failure := by
  rcases answered : request.outcome store with failure | answer
  · exact ⟨failure, rfl⟩
  · rcases sets.takes answered with ⟨fields, value, takes, member, same⟩
    have named := takes.isName wellFormed member (same.trans given)
    rw [misnamed] at named
    cases named

end Request

namespace Store

variable {store : Store} {className field : String}

/-- A request for a new record that holds null for a field and nothing else. -/
def holdingNull (className field : String) : Request :=
  .call "createRecord" [("className", .text className), ("data", .object [(field, .null)])] []

theorem prepare_null {schema : Schema} (named : isName className = true) :
    prepare (.text className) schema [(field, .null)] = .ok schema := by
  simp only [prepare, checkClassName_eq_ok_iff.mpr ⟨rfl, named⟩]
  rfl

theorem run_create_null {backend : Backend} (named : isName className = true)
    (unreserved : field ∉ Schema.reservedNames) (served : backend.outages = []) :
    ∃ record after, record.fields = [(field, .null)] ∧ record.createdAt = backend.time ∧
      record.updatedAt = backend.time ∧
      (Records.create (.text className) (.object [(field, .null)])).run backend =
        (.ok record, after) := by
  have set : className ≠ "" := by
    rintro rfl
    exact absurd named (by decide)
  have unbroken := Backend.outage?_eq_none served .insert
  have free : Schema.reservedAmong [(field, Json.null)] = [] := by
    rw [Schema.reservedAmong_eq_nil_iff]
    rintro name reserved present
    cases List.mem_singleton.mp present
    exact unreserved reserved
  have decoded : Records.decodeData "data" (.object [(field, .null)]) = .ok [(field, .null)] := by
    simp only [Records.decodeData, free]
    rfl
  have filed : backend.store.insert backend.ids backend.time (.text className) [(field, .null)]
      AccessPolicy.everyone = .ok ((backend.store.commitSchema (.text className) (.text className)
        (backend.store.schemaOf (.text className))).file backend.ids backend.time (.text className)
          className [(field, .null)] AccessPolicy.everyone) := by
    simp only [insert, Json.key, Except.mapError_ok, prepare_null named]
    rfl
  have given : Records.requireArgument "data" (.object [(field, .null)]) = .ok () := rfl
  simp only [Records.create, Action.run_bind, Action.run_ofInput, Records.requireClass_text set,
    given, decoded, Except.mapError_ok, Backend.insert, Backend.run_writing, unbroken, filed]
  exact ⟨_, _, rfl, rfl, rfl, rfl⟩

/-- A null field is stored under any name that is not reserved, and the request succeeds. -/
theorem WellFormed.exists_record_holdingNull (wellFormed : store.WellFormed)
    (named : isName className = true) (unreserved : field ∉ Schema.reservedNames) :
    (∃ answer, (holdingNull className field).outcome store = .ok answer) ∧
      ∃ objectId record, ((holdingNull className field).next store).record? (.text className)
        (.text objectId) = some record ∧ (field, .null) ∈ record.fields := by
  have served : ((holdingNull className field).backend store).outages = [] := rfl
  rcases run_create_null named unreserved served with
    ⟨record, after, held, created, updated, written⟩
  have writes : (holdingNull className field).recordWrite? =
      some (Records.create (.text className) (.object [(field, .null)])) := rfl
  have stands := (Request.run_of_recordWrite wellFormed writes written).2.1
  have inClass := Request.className_of_recordWrite wellFormed writes written
  rcases Request.run_of_recordWrite wellFormed writes written with ⟨⟨message, label, ran⟩, _⟩
  rw [Request.change_of_recordWrite wellFormed writes written] at stands
  cases Json.text.inj (inClass : Json.text className = .text record.className)
  constructor
  · have beginning : (Moment.truncated { instant := 0, offset := 0 }).isWritable = true := by decide
    have time : ((holdingNull record.className field).backend store).time =
        Moment.truncated { instant := 0, offset := 0 } := rfl
    have writable : record.isWritable = true := by
      rw [Record.isWritable, held, created, updated, time, beginning]
      rfl
    rcases (Request.exists_encode_iff_of_recordWrite wellFormed writes written).mpr writable with
      ⟨entries, encoded⟩
    rw [Request.outcome, ran, Action.run_underLabel, Operation.run_recordAnswer, encoded]
    exact ⟨_, rfl⟩
  · refine ⟨record.objectId, record, stands, ?_⟩
    rw [held]
    exact List.mem_cons_self

/-- In a store that a run of requests leads to, every field that is not null has an accepted name,
and a request that sets a field of another name to anything but null fails. Null is stored under
every name that is not reserved. -/
theorem fields_named_unless_null (requests : List Request) :
    (∀ key objectId record,
      (({} : Store).after requests).record? key objectId = some record →
        ∀ field ∈ record.fields, field.2.isNull = false → isName field.1 = true) ∧
      (∀ (request : Request) (field : String) (content : Json), request.Sets field content →
        content.isNull = false → isName field = false →
          ∃ failure, request.outcome (({} : Store).after requests) = .error failure) ∧
      ∀ className field, isName className = true → field ∉ Schema.reservedNames →
        (∃ answer, (holdingNull className field).outcome (({} : Store).after requests) =
          .ok answer) ∧
        ∃ objectId record, (({} : Store).after (requests ++ [holdingNull className field])).record?
          (.text className) (.text objectId) = some record ∧ (field, .null) ∈ record.fields := by
  have wellFormed := WellFormed.empty.after requests
  refine ⟨?_, ?_, ?_⟩
  · intro key objectId record found field member given
    have filed := wellFormed.records key objectId record found
    exact (wellFormed.schemas key).isName_of_covers filed.covered member given
  · intro request field content sets given misnamed
    exact sets.failed wellFormed misnamed given
  · intro className field named unreserved
    rw [after_append]
    exact wellFormed.exists_record_holdingNull named unreserved

/-- A request to set a field with a hyphen in its name in a record of the class `A`. -/
def hyphening (content : Json) : Request :=
  .call "createRecord" [("className", .text "A"), ("data", .object [("bad-name", content)])] []

theorem sets_hyphening (content : Json) : (hyphening content).Sets "bad-name" content :=
  .created rfl rfl List.mem_cons_self

/-- The field with a hyphen in its name is refused if it is one and stored if it is null. -/
theorem hyphen_refused_unless_null :
    (hyphening (.int 1)).Sets "bad-name" (.int 1) ∧
      (∃ failure, (hyphening (.int 1)).outcome (({} : Store).after [hyphening .null]) =
        .error failure) ∧
      ∃ objectId record, (({} : Store).after [hyphening .null]).record? (.text "A")
        (.text objectId) = some record ∧ ("bad-name", .null) ∈ record.fields := by
  have first := fields_named_unless_null []
  have second := fields_named_unless_null [hyphening .null]
  have stored := first.2.2 "A" "bad-name" (by decide) (by decide)
  exact ⟨sets_hyphening _, second.2.1 _ _ _ (sets_hyphening _) rfl (by decide), stored.2⟩

/-- A record comes to hold null under a name with a hyphen, and the request for it succeeds. -/
theorem not_forall_fields_named :
    (¬ ∀ (requests : List Request) (key objectId : Key) (record : Record),
      (({} : Store).after requests).record? key objectId = some record →
        ∀ field ∈ record.fields, isName field.1 = true) ∧
      ¬ ∀ (requests : List Request) (request : Request) (field : String) (content : Json),
        request.Sets field content → isName field = false →
          ∃ failure, request.outcome (({} : Store).after requests) = .error failure := by
  have misnamed : isName "bad-name" = false := by decide
  have held := @WellFormed.exists_record_holdingNull {} "A" "bad-name" .empty (by decide)
    (by decide)
  rcases held with ⟨⟨answer, answered⟩, objectId, record, found, member⟩
  constructor
  · intro named
    have accepted := named [hyphening .null] _ _ record found _ member
    rw [misnamed] at accepted
    cases accepted
  · intro failing
    rcases failing [] (hyphening .null) "bad-name" .null (sets_hyphening _) misnamed with
      ⟨failure, failed⟩
    rw [after] at failed
    exact nomatch answered.symm.trans failed

end Store

end TypedRecords
