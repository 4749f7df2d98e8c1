import TypedRecords.Proofs.Agreement
import TypedRecords.Proofs.ClassActions

/-!
# Classes are isolated from each other

A request for a class leaves all other classes as they are, and with one exception neither its
answer nor what becomes of the class depends on them. The exception is the removal of a class, which
the fields of other classes can prevent.

The second part is a property of all actions on the class, `Action.On.localTo`.
-/

namespace TypedRecords

/-- Two backends have the same clock, the same source of ids and the same outages, and their stores
agree on a class. -/
structure Backend.AgreesOn (first second : Backend) (key : Key) : Prop where
  now : first.now = second.now
  ids : first.ids = second.ids
  outages : first.outages = second.outages
  store : first.store.AgreesOn second.store key

namespace Action

variable {Result Next : Type} {key : Key}

/-- On backends that agree on a class the action has the same outcome, and leaves backends that
agree on the class. -/
def LocalTo (key : Key) (action : Action Result) : Prop :=
  ∀ first second : Backend, first.AgreesOn second key →
    (action.run first).1 = (action.run second).1 ∧
      (action.run first).2.AgreesOn (action.run second).2 key

namespace LocalTo

theorem bind {action : Action Result} {next : Result → Action Next} (first : action.LocalTo key)
    (rest : ∀ result, (next result).LocalTo key) : (action >>= next).LocalTo key := by
  intro left right agree
  have alike := first left right agree
  rw [run_bind, run_bind]
  rcases ranLeft : action.run left with ⟨outcome, afterLeft⟩
  rcases ranRight : action.run right with ⟨other, afterRight⟩
  rw [ranLeft, ranRight] at alike
  rcases alike with ⟨same, between⟩
  simp only at same between
  subst same
  rcases outcome with failure | result
  · exact ⟨rfl, between⟩
  · exact rest result afterLeft afterRight between

theorem underLabel {action : Action Result} (isLocal : action.LocalTo key)
    (label : Option String) : (underLabel label action).LocalTo key := by
  intro left right agree
  rcases isLocal left right agree with ⟨same, after⟩
  rw [run_underLabel, run_underLabel, same]
  exact ⟨rfl, after⟩

theorem reading (call : StoreCall) {answer : Store → Except Failure Result}
    (answers : ∀ first second : Store, first.AgreesOn second key →
      answer first = answer second) : (Backend.reading call answer).LocalTo key := by
  intro left right agree
  rw [Backend.run_reading, Backend.run_reading, Backend.outage?, Backend.outage?, agree.outages,
    answers _ _ agree.store]
  rcases right.outages.lookup call with _ | failure
  · exact ⟨rfl, agree⟩
  · exact ⟨rfl, agree⟩

theorem writing (call : StoreCall) {change : Backend → Except Failure (Result × Store × IdSource)}
    (changes : ∀ first second : Backend, first.AgreesOn second key →
      Except.Alike (Store.SameOn key) (change first) (change second)) :
    (Backend.writing call change).LocalTo key := by
  intro left right agree
  have alike := changes left right agree
  rw [Backend.run_writing, Backend.run_writing, Backend.outage?, Backend.outage?, agree.outages]
  rcases right.outages.lookup call with _ | failure
  · generalize change left = changed at alike
    generalize change right = changedOther at alike
    cases alike with
    | error failure => exact ⟨rfl, agree⟩
    | ok same => exact ⟨congrArg Except.ok same.result, agree.now, same.ids, rfl, same.agree⟩
  · exact ⟨rfl, agree⟩

end LocalTo

/-- An action on a class depends on no other one. -/
theorem On.localTo {className : Json} {action : Action Result} (on : action.On className)
    (keyed : className.key = .ok key) : action.LocalTo key := by
  induction on with
  | pure | throw | ofInput | ofHost => exact fun _ _ agree => ⟨rfl, agree⟩
  | bind _ _ first rest => exact first.bind rest
  | timestamp =>
      intro left right agree
      refine ⟨?_, agree⟩
      change (Record.timestamp left.time).mapError Failure.host = _
      rw [Backend.time, agree.now]
      rfl
  | insert fields access =>
      apply LocalTo.writing
      intro first second agree
      rw [Backend.time, agree.now, agree.ids]
      exact agree.store.insert keyed second.ids second.time fields access
  | getById objectId =>
      apply LocalTo.reading
      intro first second agree
      exact agree.getById keyed objectId
  | query predicates limit skip =>
      apply LocalTo.reading
      intro first second agree
      rw [Store.query, agree.select keyed, Store.query]
  | update objectId fields =>
      apply LocalTo.writing
      intro first second agree
      rw [Backend.time, agree.now, agree.ids]
      apply (agree.store.update keyed second.time objectId fields).bind
      rintro left right ⟨same, stores⟩
      exact .ok ⟨same, stores, rfl⟩
  | delete objectId =>
      apply LocalTo.writing
      intro first second agree
      rw [agree.ids]
      apply (agree.store.delete keyed objectId).bind
      intro left right stores
      exact .ok ⟨rfl, stores, rfl⟩
  | bulkInsert items =>
      apply LocalTo.writing
      intro first second agree
      rw [Backend.time, agree.now, agree.ids]
      exact agree.store.bulkInsert keyed second.ids second.time items
  | count predicates =>
      apply LocalTo.reading
      intro first second agree
      rw [Store.count, agree.select keyed, Store.count]
  | classFields =>
      apply LocalTo.reading
      intro first second agree
      exact agree.classFields keyed
  | declareClass fields =>
      apply LocalTo.writing
      intro first second agree
      rw [agree.ids]
      apply (agree.store.declareClass keyed fields).bind
      rintro left right ⟨same, stores⟩
      exact .ok ⟨same, stores, rfl⟩

end Action

open TypedRecords.Action

namespace Request

variable {request : Request} {store after first second : Store} {key other : Key}

/-- A request leaves every class but the one that it names. -/
theorem Effect.agreesOn (effect : request.Effect store after)
    (keyed : (request.parameter "className").key = .ok key) (different : other ≠ key) :
    after.AgreesOn store other := by
  cases effect with
  | unchanged => exact .refl store other
  | created _ _ done => exact .of_insert_of_ne different keyed done
  | updated _ _ _ done =>
      rcases Store.update_eq_ok done with ⟨name, _, _, schema, text, _, _, _, _, rfl⟩
      rw [text] at keyed
      cases keyed
      exact (Store.AgreesOn.setRecord_of_ne different _ _).trans (.commitSchema_of_ne different _)
  | deleted _ done =>
      rcases Store.delete_eq_ok done with ⟨written, _, _, keyedAgain, _, _, rfl⟩
      rw [keyed] at keyedAgain
      cases keyedAgain
      exact .dropRecord_of_ne different _
  | batched _ _ _ _ done =>
      rcases Store.bulkInsert_eq_ok done with ⟨written, schema, keyedAgain, _, _, _, filed⟩
      rw [keyed] at keyedAgain
      cases keyedAgain
      exact (Store.AgreesOn.fileAll_of_ne different filed).trans (.commitSchema_of_ne different _)
  | seeded _ _ _ done => exact .of_insert_of_ne different keyed done
  | declared _ _ _ _ done =>
      rcases Store.declareClass_eq_ok done with ⟨name, schema, text, _, _, rfl⟩
      rw [text] at keyed
      cases keyed
      exact .commitSchema_of_ne different _
  | purged _ _ done =>
      rcases Store.purgeClass_eq_ok done with ⟨written, _, keyedAgain, _, _, rfl⟩
      rw [keyed] at keyedAgain
      cases keyedAgain
      exact .dropClass_of_ne different

/-- The names of the operations that only read. -/
def readers : List String :=
  ["listTables", "getTableSchema", "readTable", "countRecords", "getServerInfo", "healthCheck"]

theorem Effect.eq_of_mem_readers (effect : request.Effect store after) {name : String}
    (reads : name ∈ readers) (named : request.name = .text name) : after = store := by
  cases effect with
  | unchanged => rfl
  | created written | updated written | deleted written | batched written | seeded written
  | declared written | purged written =>
      rw [named] at written
      cases written
      exact absurd reads (by decide)

/-- On stores that agree on the class that it names, a request has the same outcome and leaves
stores that agree on the class, unless it is for the removal of a class or the list of all. A name
that is looked up in vain on one store is so on the other, as the operations are no part of the
stores. -/
theorem outcome_eq_of_agreesOn (keyed : (request.parameter "className").key = .ok key)
    (notRemoval : request.name ≠ .text "deleteTable")
    (notList : request.name ≠ .text "listTables") (agree : first.AgreesOn second key) :
    request.outcome first = request.outcome second ∧
      (request.next first).AgreesOn (request.next second) key := by
  have start : (request.backend first).AgreesOn (request.backend second) key :=
    ⟨rfl, rfl, rfl, agree⟩
  rcases find_cases request (request.backend first) with ⟨failure, failed⟩ | ⟨operation, registered,
    named⟩
  · have alike := (request.service.on_find request.name).localTo keyed _ _ start
    rcases found : (request.service.find request.name).run (request.backend second) with
      ⟨outcome, after⟩
    rw [failed, found] at alike
    rcases alike with ⟨rfl, left⟩
    simp only [Request.outcome, next, run, Service.run, run_bind, failed, found]
    exact ⟨trivial, left.store⟩
  · have isLocal : ∀ mapping, Mapping.ofJson request.parameters = .ok mapping →
        (operation.run request.settings mapping.textEntries).LocalTo key := by
      intro mapping converted
      have taken : request.given = mapping.textEntries := by rw [given, converted]
      rw [parameter, taken] at keyed
      apply LocalTo.bind ((operation.on_check _).localTo keyed)
      intro _
      apply LocalTo.underLabel
      refine On.localTo ?_ keyed
      apply Operation.on_answer registered
      · rintro rfl
        exact notRemoval named
      · rintro rfl
        exact notList named
    rw [outcome, outcome, next, next, run_of_registered first registered named,
      run_of_registered second registered named]
    rcases converted : Mapping.ofJson request.parameters with error | mapping
    · exact ⟨rfl, agree⟩
    · rcases isLocal mapping converted _ _ start with ⟨same, left⟩
      exact ⟨same, left.store⟩

/-- A request for a class leaves all other classes as they are, and the operations that only read
leave every class. Unless it is for the removal of a class, or for the list of all of them, its
outcome and what becomes of the class depend on no other class. -/
theorem classes_isolated (request : Request) :
    (∀ (store : Store) (className : String) (other : Key),
      request.parameter "className" = .text className → other ≠ .text className →
        (request.next store).AgreesOn store other) ∧
    (∀ (store : Store), ∀ name ∈ readers, request.name = .text name →
      request.next store = store) ∧
    ∀ (first second : Store) (className : String),
      request.parameter "className" = .text className →
        request.name ≠ .text "deleteTable" → request.name ≠ .text "listTables" →
          first.AgreesOn second (.text className) →
            request.outcome first = request.outcome second ∧
              (request.next first).AgreesOn (request.next second) (.text className) := by
  refine ⟨?_, ?_, ?_⟩
  · intro store className other inClass different
    exact (request.effect store).agreesOn (by rw [inClass, Json.key]) different
  · intro store name reads named
    exact (request.effect store).eq_of_mem_readers reads named
  · intro first second className inClass notRemoval notList agree
    exact outcome_eq_of_agreesOn (by rw [inClass, Json.key]) notRemoval notList agree

/-- A store with one class, which has one record. -/
def oneClass : Store :=
  ({} : Store).after
    [.call "createRecord" [("className", .text "A"), ("data", .object [("n", .int 1)])] ["x"]]

/-- A request for a record of another class that points to the one in the store. -/
def pointing : Request :=
  .call "createRecord" [("className", .text "B"), ("data", .object [("to", .object
    [("__type", .text "Pointer"), ("className", .text "A"), ("objectId", .text "x")])])] ["y"]

/-- The pointer leaves the class that it points to as it was. -/
theorem agreesOn_next_pointing : (pointing.next oneClass).AgreesOn oneClass (.text "A") :=
  (pointing.effect oneClass).agreesOn rfl (by decide)

/-- A request for a further record of the first class, for which the ids `x` and `z` are drawn. -/
def adding : Request :=
  .call "createRecord" [("className", .text "A"), ("data", .object [("n", .int 2)])] ["x", "z"]

/-- A record of another class between changes nothing for the request for a further record, though
it points to the class; and that request changes nothing for the other class. -/
theorem adding_isolated :
    ((pointing.next oneClass).AgreesOn oneClass (.text "A") ∧
      adding.outcome (pointing.next oneClass) = adding.outcome oneClass ∧
        (adding.next (pointing.next oneClass)).AgreesOn (adding.next oneClass) (.text "A")) ∧
      (adding.next (pointing.next oneClass)).AgreesOn (pointing.next oneClass) (.text "B") ∧
      (call "readTable" [("className", .text "A")] []).next oneClass = oneClass := by
  refine ⟨⟨agreesOn_next_pointing, ?_⟩, ?_, ?_⟩
  · have notRemoval : adding.name ≠ .text "deleteTable" := by simp [adding, call]
    have notList : adding.name ≠ .text "listTables" := by simp [adding, call]
    exact (classes_isolated adding).2.2 _ _ "A" rfl notRemoval notList agreesOn_next_pointing
  · exact (classes_isolated adding).1 _ "A" (.text "B") rfl (by decide)
  · exact (classes_isolated (call "readTable" [("className", .text "A")] [])).2.1 oneClass
      "readTable" (by decide) rfl

/-- Whether a class can be removed does depend on other classes. -/
theorem removal_not_isolated :
    (pointing.next oneClass).AgreesOn oneClass (.text "A") ∧
      ((call "deleteTable" [("className", .text "A")] []).outcome oneClass).isOk = true ∧
      ((call "deleteTable" [("className", .text "A")] []).outcome
        (pointing.next oneClass)).isOk = false :=
  ⟨agreesOn_next_pointing, by decide +kernel, by decide +kernel⟩

end Request

end TypedRecords
