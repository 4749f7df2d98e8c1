import TypedRecords.Proofs.ClassNames
import TypedRecords.Proofs.Persistence

/-!
# Bulk insertion

Inserting several records in one call does the same as inserting them one after the other. It
checks all of them against the schema that the class would have by then, commits the last schema
once, and files the records. So it succeeds exactly if each insertion does, with the same store and
the same ids. If one fails, it tells which, and unlike the single insertions it has done nothing.
-/

namespace TypedRecords

namespace Store

variable {store after : Store} {key : Key} {source rest : IdSource} {now : Moment} {name : String}
  {fields : List (String × Value)} {access : AccessPolicy} {record : Record}

/-- The store has the record of an item of a batch. -/
def Holds (store : Store) (key : Key) (item : List (String × Value) × AccessPolicy)
    (record : Record) : Prop :=
  record.fields = item.1 ∧ record.access = item.2 ∧
    store.record? key (.text record.objectId) = some record

/-- The records of a batch stand in the store, in the order of its items. -/
theorem holds_of_fileAll {items : List (List (String × Value) × AccessPolicy)}
    {records : List Record}
    (done : store.fileAll source now key name items = (records, after, rest)) :
    List.Forall₂ (after.Holds key) items records := by
  induction items generalizing store source records with
  | nil =>
      cases done
      exact .nil
  | cons item others ih =>
      rcases fileAll_cons_eq done with ⟨record, middle, left, later, filed, more, rfl⟩
      refine .cons ?_ (ih more)
      rcases file_eq filed with ⟨_, new, stored⟩
      have issued : record.objectId ∈ middle.issuedFor key := by
        rw [stored, issuedFor_setRecord, issuedFor_noteIssued, if_pos rfl]
        exact List.mem_append_right _ List.mem_cons_self
      refine ⟨by rw [new], by rw [new], ?_⟩
      rw [record?_of_fileAll issued more, stored, record?_setRecord, if_pos ⟨rfl, rfl⟩]

theorem commitSchema_commitSchema (className : Json) (schema larger : Schema) :
    (store.commitSchema key className schema).commitSchema key className larger =
      store.commitSchema key className larger := by
  simp [commitSchema, Entries.set_set]

theorem commitSchema_noteIssued (className : Json) (schema : Schema) (objectId : String) :
    (store.noteIssued key objectId).commitSchema key className schema =
      (store.commitSchema key className schema).noteIssued key objectId :=
  rfl

theorem commitSchema_setRecord (present : key ∈ Entries.keys store.schemas) (className : Json)
    (schema : Schema) (objectId : Key) (record : Record) :
    (store.setRecord key objectId record).commitSchema key className schema =
      (store.commitSchema key className schema).setRecord key objectId record := by
  have known := Entries.lookup_isSome_iff.mpr present
  simp [commitSchema, setRecord, setTable, tableOf, known]

/-- It makes no difference whether a class gets its last schema before a record is filed or
afterwards. -/
theorem file_commitSchema {className : Json} {schema : Schema} (larger : Schema)
    (done : (store.commitSchema key className schema).file source now key name fields access =
      (record, after, rest)) :
    (store.commitSchema key className larger).file source now key name fields access =
      (record, after.commitSchema key className larger, rest) := by
  have present : ∀ objectId, key ∈ Entries.keys
      ((store.commitSchema key className schema).noteIssued key objectId).schemas :=
    fun _ => mem_schemas_commitSchema className schema
  simp only [file, issuedFor_commitSchema, Prod.mk.injEq] at done ⊢
  rcases done with ⟨rfl, rfl, rfl⟩
  refine ⟨rfl, ?_, rfl⟩
  rw [commitSchema_setRecord (present _), commitSchema_noteIssued, commitSchema_commitSchema]

theorem commitSchema_eq_self {className : Json} {schema : Schema}
    (known : store.schemas.lookup key = some { name := className, fields := schema }) :
    store.commitSchema key className schema = store := by
  rw [commitSchema, Entries.set_eq_self known, known]
  rfl

theorem lookup_schemas_of_file {className : Json} {schema : Schema}
    (done : (store.commitSchema key className schema).file source now key name fields access =
      (record, after, rest)) :
    after.schemas.lookup key = some { name := className, fields := schema } := by
  rw [schemas_of_file done, commitSchema, Entries.lookup_set_self]

theorem insert_text (store : Store) (source : IdSource) (now : Moment) (name : String)
    (fields : List (String × Value)) (access : AccessPolicy) :
    store.insert source now (.text name) fields access =
      match prepare (.text name) (store.schemaOf (.text name)) fields with
      | .error reason => .error (.rejected reason)
      | .ok schema => .ok ((store.commitSchema (.text name) (.text name) schema).file source now
          (.text name) name fields access) := by
  rcases prepared : prepare (.text name) (store.schemaOf (.text name)) fields with reason | schema
  · simp [insert, Json.key, prepared, bind, Except.bind]
  · simp [insert, Json.key, prepared, bind, Except.bind, Json.display, pure, Except.pure]

theorem bulkInsert_text (store : Store) (source : IdSource) (now : Moment) (name : String)
    (items : List (List (String × Value) × AccessPolicy)) :
    store.bulkInsert source now (.text name) items =
      match prepareAll (.text name) 0 (store.schemaOf (.text name)) items with
      | .error reason => .error (.rejected reason)
      | .ok schema => .ok ((store.commitSchema (.text name) (.text name) schema).fileAll source now
          (.text name) name items) := by
  rcases prepared : prepareAll (.text name) 0 (store.schemaOf (.text name)) items with
    reason | schema
  · simp [bulkInsert, Json.key, prepared, bind, Except.bind]
  · simp [bulkInsert, Json.key, prepared, bind, Except.bind, Json.display, pure, Except.pure]

end Store

namespace Backend

open TypedRecords.Action

variable {backend : Backend} {name : String}
  {items : List (List (String × Value) × AccessPolicy)} {schema larger : Schema} {index : Nat}
  {reason : Rejection}

/-- Insert records one after the other. -/
def insertEach (className : Json) (items : List (List (String × Value) × AccessPolicy)) :
    Action (List Record) :=
  items.mapM fun item => insert className item.1 item.2

theorem run_insert (served : backend.outage? .insert = none) (name : String)
    (fields : List (String × Value)) (access : AccessPolicy) :
    (insert (.text name) fields access).run backend =
      match Store.prepare (.text name) (backend.store.schemaOf (.text name)) fields with
      | .error reason => (.error (.rejected reason), backend)
      | .ok schema =>
          let (record, store, ids) := (backend.store.commitSchema (.text name) (.text name)
            schema).file backend.ids backend.time (.text name) name fields access
          (.ok record, { backend with store, ids }) := by
  simp only [insert, run_writing, served, Store.insert_text]
  rcases Store.prepare (.text name) (backend.store.schemaOf (.text name)) fields with
    reason | schema
  · rfl
  · rfl

theorem exists_run_insert {fields : List (String × Value)}
    (served : backend.outage? .insert = none) (access : AccessPolicy)
    (prepared : Store.prepare (.text name) (backend.store.schemaOf (.text name)) fields =
      .ok schema) :
    ∃ record middle source,
      (backend.store.commitSchema (.text name) (.text name) schema).file backend.ids backend.time
        (.text name) name fields access = (record, middle, source) ∧
      (insert (.text name) fields access).run backend =
        (.ok record, { backend with store := middle, ids := source }) ∧
      middle.schemas.lookup (.text name) = some { name := .text name, fields := schema } := by
  rcases stored : (backend.store.commitSchema (.text name) (.text name) schema).file
    backend.ids backend.time (.text name) name fields access with ⟨record, middle, source⟩
  refine ⟨record, middle, source, rfl, ?_, Store.lookup_schemas_of_file stored⟩
  rw [run_insert served, prepared]
  simp only [stored]

theorem run_bulkInsert (served : backend.outage? .bulkInsert = none) (name : String)
    (items : List (List (String × Value) × AccessPolicy)) :
    (bulkInsert (.text name) items).run backend =
      match Store.prepareAll (.text name) 0 (backend.store.schemaOf (.text name)) items with
      | .error reason => (.error (.rejected reason), backend)
      | .ok schema =>
          let (records, store, ids) := (backend.store.commitSchema (.text name) (.text name)
            schema).fileAll backend.ids backend.time (.text name) name items
          (.ok records, { backend with store, ids }) := by
  simp only [bulkInsert, run_writing, served, Store.bulkInsert_text]
  rcases Store.prepareAll (.text name) 0 (backend.store.schemaOf (.text name)) items with
    reason | schema
  · rfl
  · rfl

theorem insertEach_cons (className : Json) (item : List (String × Value) × AccessPolicy)
    (rest : List (List (String × Value) × AccessPolicy)) :
    insertEach className (item :: rest) = do
      let record ← insert className item.1 item.2
      let records ← insertEach className rest
      return record :: records :=
  List.mapM_cons

/-- If the schema takes all items of a batch in turn, then inserting them one after the other files
them as the batch does. Without items the class must have its schema already. What carries the
induction is that filing the first item under the last schema leaves the store on which the rest is
filed. -/
theorem run_insertEach_of_prepareAll (served : backend.outage? .insert = none)
    (settled : items = [] → backend.store.commitSchema (.text name) (.text name)
      (backend.store.schemaOf (.text name)) = backend.store)
    (prepared : Store.prepareAll (.text name) index (backend.store.schemaOf (.text name)) items =
      .ok larger) {records : List Record} {after : Store} {rest : IdSource}
    (filed : (backend.store.commitSchema (.text name) (.text name) larger).fileAll backend.ids
      backend.time (.text name) name items = (records, after, rest)) :
    (insertEach (.text name) items).run backend =
      (.ok records, { backend with store := after, ids := rest }) := by
  induction items generalizing backend index records with
  | nil =>
      cases prepared
      cases filed
      rw [settled rfl]
      rfl
  | cons item others ih =>
      rcases item with ⟨fields, access⟩
      rw [Store.prepareAll] at prepared
      split at prepared
      · cases prepared
      · rename_i schema first
        rcases exists_run_insert served access first with
          ⟨record, middle, source, stored, inserted, known⟩
        have grown : middle.schemaOf (.text name) = schema := by rw [Store.schemaOf, known]
        rcases more : (middle.commitSchema (.text name) (.text name) larger).fileAll source
          backend.time (.text name) name others with ⟨later, last, final⟩
        simp only [Store.fileAll, Store.file_commitSchema larger stored, more,
          Prod.mk.injEq] at filed
        rcases filed with ⟨rfl, rfl, rfl⟩
        have inner := @ih { backend with store := middle, ids := source } _ served
          (fun _ => by rw [grown]; exact Store.commitSchema_eq_self known)
          (by rw [grown]; exact prepared) later more
        rw [insertEach_cons, run_bind_of_ok inserted, run_bind_of_ok inner]
        rfl

/-- If the schema does not take all items of a batch in turn, then the failure tells the first of
them that cannot be inserted once those before it are. -/
theorem exists_of_prepareAll_eq_error (served : backend.outage? .insert = none)
    (refused : Store.prepareAll (.text name) index (backend.store.schemaOf (.text name)) items =
      .error reason) :
    ∃ earlier item later inner created middle, items = earlier ++ item :: later ∧
      reason = .item (index + earlier.length) inner ∧
      (insertEach (.text name) earlier).run backend = (.ok created, middle) ∧
      (insert (.text name) item.1 item.2).run middle = (.error (.rejected inner), middle) := by
  induction items generalizing backend index with
  | nil => cases refused
  | cons item others ih =>
      rcases item with ⟨fields, access⟩
      rw [Store.prepareAll] at refused
      split at refused
      · rename_i inner first
        cases refused
        refine ⟨[], (fields, access), others, inner, [], backend, rfl, rfl, rfl, ?_⟩
        rw [run_insert served, first]
      · rename_i schema first
        rcases exists_run_insert served access first with
          ⟨record, middle, source, _, inserted, known⟩
        have grown : middle.schemaOf (.text name) = schema := by rw [Store.schemaOf, known]
        rcases @ih { backend with store := middle, ids := source } _ served
          (by rw [grown]; exact refused) with
          ⟨earlier, item, later, inner, created, last, rfl, rfl, ran, failed⟩
        refine ⟨(fields, access) :: earlier, item, later, inner, record :: created, last, rfl, ?_,
          ?_, failed⟩
        · rw [List.length_cons]
          congr 1
          omega
        · rw [insertEach_cons, run_bind_of_ok inserted, run_bind_of_ok ran]
          rfl

theorem run_insertEach_append_of_error {className : Json} {created : List Record}
    {middle after : Backend} {failure : Failure}
    {earlier : List (List (String × Value) × AccessPolicy)}
    {item : List (String × Value) × AccessPolicy}
    (later : List (List (String × Value) × AccessPolicy))
    (ran : (insertEach className earlier).run backend = (.ok created, middle))
    (failed : (insert className item.1 item.2).run middle = (.error failure, after)) :
    (insertEach className (earlier ++ item :: later)).run backend = (.error failure, after) := by
  have rest : (insertEach className (item :: later)).run middle = (.error failure, after) := by
    rw [insertEach_cons, run_bind, failed]
  rw [insertEach, List.mapM_append, ← insertEach, ← insertEach, run_bind_of_ok ran, run_bind, rest]

/-- For a class that is named by a text and at least one item, inserting the items in one call
succeeds exactly if inserting them one after the other does. Then it leaves the same store, draws
the same ids and gives the same records, each of which stands in the store for its item. If it
fails, it leaves everything as it was, and its failure tells the position of the first item whose
insertion fails after those of all items before it. -/
theorem bulkInsert_sequential (insertServed : backend.outage? .insert = none)
    (bulkServed : backend.outage? .bulkInsert = none) (name : String) (nonempty : items ≠ []) :
    ((∃ records after, (bulkInsert (.text name) items).run backend = (.ok records, after)) ↔
        ∃ records after, (insertEach (.text name) items).run backend = (.ok records, after)) ∧
      (∀ records after, (bulkInsert (.text name) items).run backend = (.ok records, after) →
        (insertEach (.text name) items).run backend = (.ok records, after) ∧
          List.Forall₂ (after.store.Holds (.text name)) items records) ∧
      ∀ failure after, (bulkInsert (.text name) items).run backend = (.error failure, after) →
        after = backend ∧
          ∃ earlier item later created middle reason, items = earlier ++ item :: later ∧
            failure = .rejected (.item earlier.length reason) ∧
            failure.context = .object [("index", .int earlier.length)] ∧
            (insertEach (.text name) earlier).run backend = (.ok created, middle) ∧
            (insert (.text name) item.1 item.2).run middle =
              (.error (.rejected reason), middle) := by
  rw [run_bulkInsert bulkServed]
  rcases prepared : Store.prepareAll (.text name) 0 (backend.store.schemaOf (.text name)) items with
    reason | schema
  · rcases exists_of_prepareAll_eq_error insertServed prepared with
      ⟨earlier, item, later, inner, created, middle, rfl, rfl, ran, failed⟩
    refine ⟨?_, nofun, ?_⟩
    · have sequential := run_insertEach_append_of_error later ran failed
      constructor
      · rintro ⟨records, after, impossible⟩
        cases impossible
      · rintro ⟨records, after, done⟩
        rw [sequential] at done
        cases done
    · intro failure after same
      cases same
      rw [Nat.zero_add]
      exact ⟨rfl, earlier, item, later, created, middle, inner, rfl, rfl, rfl, ran, failed⟩
  · rcases filed : (backend.store.commitSchema (.text name) (.text name) schema).fileAll backend.ids
      backend.time (.text name) name items with ⟨records, after, rest⟩
    have sequential := run_insertEach_of_prepareAll insertServed
      (fun none => absurd none nonempty) prepared filed
    refine ⟨?_, ?_, nofun⟩
    · simp only [filed]
      exact ⟨fun _ => ⟨_, _, sequential⟩, fun _ => ⟨_, _, rfl⟩⟩
    · intro found left same
      simp only [filed] at same
      cases same
      exact ⟨sequential, Store.holds_of_fileAll filed⟩

/-- An empty backend whose clock stands at the start of the calendar. -/
def blank : Backend :=
  { name := .text "memory", now := { instant := 0, offset := 0 } }

/-- Two items that agree on the type of a field, and one that does not. -/
def numbered (last : Value) : List (List (String × Value) × AccessPolicy) :=
  [([("n", .int 1)], .everyone), ([("n", .int 2), ("m", .null)], .everyone),
    ([("n", last)], .everyone)]

/-- The third item clashes with the two before it, and without the clash all of them are stored. -/
theorem third_item_refused :
    (∃ failure, (bulkInsert (.text "A") (numbered (.text "three"))).run blank =
        (.error failure, blank) ∧ failure.context = .object [("index", .int 2)]) ∧
      ∃ records after, (bulkInsert (.text "A") (numbered (.int 3))).run blank =
          (.ok records, after) ∧
        (insertEach (.text "A") (numbered (.int 3))).run blank = (.ok records, after) ∧
        List.Forall₂ (after.store.Holds (.text "A")) (numbered (.int 3)) records := by
  have refused := @bulkInsert_sequential blank (numbered (.text "three")) rfl rfl "A"
    (by simp [numbered])
  have taken := @bulkInsert_sequential blank (numbered (.int 3)) rfl rfl "A"
    (by simp [numbered])
  have clash : (bulkInsert (.text "A") (numbered (.text "three"))).run blank =
      (.error (.rejected (.item 2 (.schemaMismatch "A" "n" "Number" "String"))), blank) := rfl
  rcases ran : (bulkInsert (.text "A") (numbered (.int 3))).run blank with
    ⟨failure | records, after⟩
  · have done : ((bulkInsert (.text "A") (numbered (.int 3))).run blank).1.isOk = true := by decide
    rw [ran] at done
    cases done
  · refine ⟨⟨_, clash, rfl⟩, records, after, rfl, taken.2.1 records after ran⟩

end Backend

end TypedRecords
