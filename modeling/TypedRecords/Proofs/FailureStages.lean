import TypedRecords.Proofs.ClassActions
import TypedRecords.Proofs.Selection

/-!
# How a request fails

A request fails at one of three stages. No operation has the name; or a parameter is missing; or the
operation has run and raised a failure. At the first two stages nothing is called, and the failure
stands as it is. At the third the failure is surfaced under the label of the operation: it remains
what it was, and an error of the environment becomes a rejection that it is the cause of.

That a label never hides an error of the environment, `Failure.Genuine`, is a property of all that
operations raise.
-/

namespace Except

variable {Error OtherError Value Next : Type} {allowed : OtherError → Prop}

/-- Every error of the computation is an allowed one. -/
def Raises (allowed : Error → Prop) (computed : Except Error Value) : Prop :=
  ∀ error, computed = .error error → allowed error

namespace Raises

theorem ok (value : Value) : (ok value : Except OtherError Value).Raises allowed := by
  rintro error ⟨⟩

theorem error {error : OtherError} (fine : allowed error) :
    (Except.error error : Except OtherError Value).Raises allowed := by
  rintro _ ⟨⟩
  exact fine

theorem mapError {computed : Except Error Value} {translate : Error → OtherError}
    (fine : ∀ error, allowed (translate error)) : (computed.mapError translate).Raises allowed := by
  rcases computed with error | value
  · exact .error (fine error)
  · exact .ok value

theorem bind {first : Except OtherError Value} {next : Value → Except OtherError Next}
    (raises : first.Raises allowed) (rest : ∀ value, (next value).Raises allowed) :
    (first >>= next).Raises allowed := by
  rcases first with error | value
  · exact .error (raises error rfl)
  · exact rest value

end Raises

end Except

namespace TypedRecords

namespace Failure

/-- The failure belongs to the library's own family. -/
def IsOwn (failure : Failure) : Prop :=
  ∀ kind, failure.kind ≠ .host kind

theorem isOwn_iff {failure : Failure} : failure.IsOwn ↔ failure.hostError? = none := by
  induction failure with
  | host error => simp [IsOwn, kind, hostError?]
  | labelled label failure ih => exact ih
  | general | invalid | notFound | rejected => simp [IsOwn, kind, hostError?]

theorem Genuine.eq_host {failure : Failure} {error : HostError} (genuine : failure.Genuine)
    (foreign : failure.hostError? = some error) : failure = .host error := by
  cases failure with
  | host => exact congrArg host (Option.some.inj foreign)
  | labelled =>
      rw [Genuine] at genuine
      rw [hostError?, genuine] at foreign
      cases foreign
  | general | invalid | notFound | rejected => cases foreign

/-- How a failure is surfaced under a label. -/
structure Surfaces (label : String) (raised surfaced : Failure) : Prop where
  message : surfaced.message = label ++ ": " ++ raised.message
  own : surfaced.IsOwn
  kept : raised.IsOwn → surfaced.kind = raised.kind ∧ surfaced.context = raised.context ∧
    surfaced.field = raised.field ∧ surfaced.target? = raised.target? ∧
    surfaced.cause? = raised.cause?
  wrapped : ¬ raised.IsOwn → ∃ error, raised = .host error ∧ surfaced.kind = .rejected ∧
    surfaced.cause? = some (.host error.kind) ∧
    surfaced = .labelled label (.rejected (.hostError error))

theorem Genuine.surfaces {raised : Failure} (genuine : raised.Genuine) (label : String) :
    Surfaces label raised (raised.underLabel (some label)) := by
  rcases foreign : raised.hostError? with _ | error
  · have same : raised.underLabel (some label) = .labelled label raised := by
      simp only [underLabel, foreign]
    rw [same]
    refine ⟨rfl, isOwn_iff.mpr foreign, fun _ => ⟨rfl, rfl, rfl, rfl, rfl⟩, ?_⟩
    intro notOwn
    exact absurd (isOwn_iff.mpr foreign) notOwn
  · rcases genuine.eq_host foreign with rfl
    refine ⟨rfl, isOwn_iff.mpr rfl, ?_, ?_⟩
    · intro own
      exact absurd rfl (own error.kind)
    · intro _
      exact ⟨error, rfl, rfl, rfl, rfl⟩

end Failure

namespace Store

variable (store : Store) (className : Json)

theorem raises_select (predicates : List Predicate) :
    (store.select className predicates).Raises Failure.Genuine := by
  refine .bind (.mapError fun _ => trivial) fun key => ?_
  exact .mapError fun _ => trivial

theorem raises_getById (objectId : Json) :
    (store.getById className objectId).Raises Failure.Genuine := by
  refine .bind (.mapError fun _ => trivial) fun key => ?_
  refine .bind (.mapError fun _ => trivial) fun objectKey => ?_
  exact .ok _

theorem raises_classFields : (store.classFields className).Raises Failure.Genuine := by
  refine .bind (.mapError fun _ => trivial) fun key => ?_
  exact .ok _

theorem raises_insert (ids : IdSource) (now : Moment) (fields : List (String × Value))
    (access : AccessPolicy) :
    (store.insert ids now className fields access).Raises Failure.Genuine := by
  refine .bind (.mapError fun _ => trivial) fun key => ?_
  refine .bind (.mapError fun _ => trivial) fun schema => ?_
  exact .ok _

theorem raises_bulkInsert (ids : IdSource) (now : Moment)
    (items : List (List (String × Value) × AccessPolicy)) :
    (store.bulkInsert ids now className items).Raises Failure.Genuine := by
  refine .bind (.mapError fun _ => trivial) fun key => ?_
  refine .bind (.mapError fun _ => trivial) fun schema => ?_
  exact .ok _

theorem raises_update (now : Moment) (objectId : Json) (fields : List (String × Value)) :
    (store.update now className objectId fields).Raises Failure.Genuine := by
  refine .bind (.mapError fun _ => trivial) fun key => ?_
  refine .bind (.mapError fun _ => trivial) fun objectKey => ?_
  rcases store.record? key objectKey with _ | existing
  · exact .error trivial
  · refine .bind (.mapError fun _ => trivial) fun schema => ?_
    exact .ok _

theorem raises_delete (objectId : Json) :
    (store.delete className objectId).Raises Failure.Genuine := by
  refine .bind (.mapError fun _ => trivial) fun key => ?_
  refine .bind (.mapError fun _ => trivial) fun objectKey => ?_
  rcases store.record? key objectKey with _ | existing
  · exact .error trivial
  · exact .ok _

theorem raises_declareClass (fields : Schema) :
    (store.declareClass className fields).Raises Failure.Genuine := by
  refine .bind (.mapError fun _ => trivial) fun name => ?_
  refine .bind (.mapError fun _ => trivial) fun key => ?_
  refine .bind (.mapError fun _ => trivial) fun schema => ?_
  exact .ok _

theorem raises_purgeClass : (store.purgeClass className).Raises Failure.Genuine := by
  refine .bind (.mapError fun _ => trivial) fun key => ?_
  rcases store.schemas.lookup key with _ | schema
  · exact .error trivial
  · dsimp only
    split
    · exact .ok _
    · exact .error trivial

end Store

/-- Every failure that the backend was given for a call out of service is genuine. -/
def Backend.Genuine (backend : Backend) : Prop :=
  ∀ outage ∈ backend.outages, outage.2.Genuine

namespace Action

variable {Result Next : Type}

/-- The action raises only genuine failures, and leaves the outages as they are. -/
def RaisesGenuine (action : Action Result) : Prop :=
  ∀ backend : Backend, backend.Genuine →
    (action.run backend).1.Raises Failure.Genuine ∧ (action.run backend).2.outages = backend.outages

namespace RaisesGenuine

theorem bind {action : Action Result} {next : Result → Action Next} (first : action.RaisesGenuine)
    (rest : ∀ result, (next result).RaisesGenuine) : (action >>= next).RaisesGenuine := by
  intro backend genuine
  have started := first backend genuine
  rw [run_bind]
  rcases ran : action.run backend with ⟨failure | result, after⟩
  · rw [ran] at started
    exact ⟨.error (started.1 failure rfl), started.2⟩
  · rw [ran] at started
    have between : after.Genuine := by
      rw [Backend.Genuine, started.2]
      exact genuine
    rcases rest result after between with ⟨raises, kept⟩
    exact ⟨raises, kept.trans started.2⟩

theorem of_outage {backend : Backend} {call : StoreCall} {failure : Failure}
    (genuine : backend.Genuine) (out : backend.outage? call = some failure) : failure.Genuine :=
  genuine _ (Entries.mem_of_lookup out)

theorem reading (call : StoreCall) {answer : Store → Except Failure Result}
    (answers : ∀ store, (answer store).Raises Failure.Genuine) :
    (Backend.reading call answer).RaisesGenuine := by
  intro backend genuine
  rw [Backend.run_reading]
  rcases out : backend.outage? call with _ | failure
  · exact ⟨answers backend.store, rfl⟩
  · exact ⟨.error (of_outage genuine out), rfl⟩

theorem writing (call : StoreCall) {change : Backend → Except Failure (Result × Store × IdSource)}
    (changes : ∀ backend, (change backend).Raises Failure.Genuine) :
    (Backend.writing call change).RaisesGenuine := by
  intro backend genuine
  rw [Backend.run_writing]
  rcases out : backend.outage? call with _ | failure
  · rcases changed : change backend with failure | ⟨result, store, ids⟩
    · exact ⟨.error (changes backend failure changed), rfl⟩
    · exact ⟨.ok result, rfl⟩
  · exact ⟨.error (of_outage genuine out), rfl⟩

theorem ofHost (checked : Except HostError Result) : (ofHost checked).RaisesGenuine :=
  fun _ _ => ⟨.mapError fun _ => trivial, rfl⟩

end RaisesGenuine

theorem On.raisesGenuine {className : Json} {action : Action Result} (on : action.On className) :
    action.RaisesGenuine := by
  induction on with
  | pure result => exact fun _ _ => ⟨.ok result, rfl⟩
  | throw genuine => exact fun _ _ => ⟨.error genuine, rfl⟩
  | ofInput => exact fun _ _ => ⟨.mapError fun _ => trivial, rfl⟩
  | ofHost checked => exact .ofHost checked
  | bind _ _ first rest => exact first.bind rest
  | timestamp => exact fun _ _ => ⟨.mapError fun _ => trivial, rfl⟩
  | insert fields access =>
      apply RaisesGenuine.writing
      intro backend
      exact backend.store.raises_insert className _ _ fields access
  | getById objectId =>
      apply RaisesGenuine.reading
      intro store
      exact store.raises_getById className objectId
  | query predicates =>
      apply RaisesGenuine.reading
      intro store
      exact (store.raises_select className predicates).bind fun _ => .ok _
  | update objectId fields =>
      apply RaisesGenuine.writing
      intro backend
      exact (backend.store.raises_update className _ objectId fields).bind fun _ => .ok _
  | delete objectId =>
      apply RaisesGenuine.writing
      intro backend
      exact (backend.store.raises_delete className objectId).bind fun _ => .ok _
  | bulkInsert items =>
      apply RaisesGenuine.writing
      intro backend
      exact backend.store.raises_bulkInsert className _ _ items
  | count predicates =>
      apply RaisesGenuine.reading
      intro store
      exact (store.raises_select className predicates).bind fun _ => .ok _
  | classFields =>
      apply RaisesGenuine.reading
      intro store
      exact store.raises_classFields className
  | declareClass fields =>
      apply RaisesGenuine.writing
      intro backend
      exact (backend.store.raises_declareClass className fields).bind fun _ => .ok _

end Action

open TypedRecords.Action

namespace Operation

/-- The arrays of the operation are among its required parameters, and what it raises is genuine. -/
structure Declared (operation : Operation) : Prop where
  required : operation.arrays ⊆ operation.required
  raises : ∀ settings parameters, (operation.answer settings parameters).RaisesGenuine

theorem raisesGenuine_deleteTable (settings : ServiceSettings) (parameters : List (String × Json)) :
    (deleteTable.answer settings parameters).RaisesGenuine := by
  apply RaisesGenuine.bind
  · apply RaisesGenuine.writing
    intro backend
    exact (backend.store.raises_purgeClass _).bind fun _ => .ok _
  · intro _
    exact .ofHost _

theorem raisesGenuine_listTables (settings : ServiceSettings) (parameters : List (String × Json)) :
    (listTables.answer settings parameters).RaisesGenuine := by
  apply RaisesGenuine.bind
  · apply RaisesGenuine.reading
    intro store
    exact .ok _
  · intro tables
    apply RaisesGenuine.bind (.ofHost _)
    intro summaries
    exact .ofHost _

theorem declared_of_mem_builtin {operation : Operation} (registered : operation ∈ builtin) :
    operation.Declared := by
  constructor
  · simp only [builtin, List.mem_cons, List.not_mem_nil, or_false] at registered
    rcases registered with rfl | rfl | rfl | rfl | rfl | rfl | rfl | rfl | rfl | rfl | rfl | rfl <;>
      decide
  · intro settings parameters
    by_cases removal : operation = deleteTable
    · rw [removal]
      exact raisesGenuine_deleteTable settings parameters
    · by_cases list : operation = listTables
      · rw [list]
        exact raisesGenuine_listTables settings parameters
      · exact (on_answer registered removal list settings parameters).raisesGenuine

end Operation

namespace Service

variable {service : Service} {backend : Backend} {name : String} {entries : List (String × Json)}
  {failure : Failure}

theorem run_eq (service : Service) (name : String) (entries : List (String × Json))
    (backend : Backend) :
    (service.run (.text name) (.object entries)).run backend =
      match service.operation? name with
      | none => (.error (.invalid (.unknownOperation (.text name))), backend)
      | some operation => (operation.run service.settings entries).run backend := by
  rcases Mapping.exists_ofJson_object entries with ⟨mapping, converted, kept⟩
  have keyed : (Json.text name).key = .ok (.text name) := rfl
  rcases found : service.operation? name with _ | operation
  · simp only [run, find, run_bind, run_ofHost, keyed, Except.mapError_ok, found]
    rfl
  · have known : (service.find (.text name)).run backend = (.ok operation, backend) := by
      simp only [find, run_bind, run_ofHost, keyed, Except.mapError_ok, found]
      rfl
    simp only [run, run_bind, known, run_ofHost, converted, Except.mapError_ok, kept]

/-- The stages of a run, at each of which it can fail. -/
inductive Stage where
  | finding
  | checking
  | answering

/-- A run with a name and parameters fails at a stage. What happens before the operation runs does
not depend on the backend, whichever of its calls are out of service, and leaves it. -/
inductive FailsAt (service : Service) (backend : Backend) (name : String)
    (entries : List (String × Json)) (failure : Failure) : Stage → Prop where
  | unknown (unregistered : service.operation? name = none)
      (reason : failure = .invalid (.unknownOperation (.text name)))
      (uncalled : ∀ other : Backend,
        (service.run (.text name) (.object entries)).run other = (.error failure, other)) :
      FailsAt service backend name entries failure .finding
  | incomplete {operation : Operation} (registered : service.operation? name = some operation)
      (missing : operation.missing entries ≠ [])
      (reason : failure = .invalid (.missingParameters operation.requiredNames))
      (message : operation.missingMessage? entries = .ok (some failure.message))
      (uncalled : ∀ other : Backend,
        (service.run (.text name) (.object entries)).run other = (.error failure, other)) :
      FailsAt service backend name entries failure .checking
  | unlabelled {operation : Operation} (registered : service.operation? name = some operation)
      (complete : operation.missing entries = []) (label : operation.label = none)
      (raised : ((operation.answer service.settings entries).run backend).1 = .error failure) :
      FailsAt service backend name entries failure .answering
  | labelled {operation : Operation} {reason : Failure} {label : String}
      (registered : service.operation? name = some operation)
      (complete : operation.missing entries = []) (labelled : operation.label = some label)
      (raised : ((operation.answer service.settings entries).run backend).1 = .error reason)
      (surfaces : Failure.Surfaces label reason failure) :
      FailsAt service backend name entries failure .answering

/-- The one stage at which a run with a name and parameters can fail. -/
def stageOf (service : Service) (name : String) (entries : List (String × Json)) : Stage :=
  match service.operation? name with
  | none => .finding
  | some operation => if operation.missing entries = [] then .answering else .checking

theorem FailsAt.stage_eq {stage : Stage}
    (fails : service.FailsAt backend name entries failure stage) :
    stage = service.stageOf name entries := by
  cases fails with
  | unknown unregistered => simp only [stageOf, unregistered]
  | incomplete registered missing => simp only [stageOf, registered, if_neg missing]
  | unlabelled registered complete => simp only [stageOf, registered, if_pos complete]
  | labelled registered complete => simp only [stageOf, registered, if_pos complete]

/-- Every failure of a request arises at a stage: in the search for the operation if there is none
of that name, and otherwise in the check of the parameters or in the answer, as the parameters
decide. -/
theorem exists_failsAt (declared : ∀ operation ∈ service.operations, operation.Declared)
    (genuine : backend.Genuine)
    (failed : ((service.run (.text name) (.object entries)).run backend).1 = .error failure) :
    ∃ stage, service.FailsAt backend name entries failure stage := by
  have ran := service.run_eq name entries
  rcases registered : service.operation? name with _ | operation
  · simp only [registered] at ran
    rw [ran] at failed
    cases failed
    exact ⟨.finding, .unknown registered rfl ran⟩
  · have sound := declared operation (List.mem_of_find?_eq_some registered)
    simp only [registered, Operation.run_eq] at ran
    by_cases missing : operation.missing entries = []
    · have complained := Operation.complaint?_of_missing_eq_nil missing
      simp only [complained, run_underLabel] at ran
      rw [ran] at failed
      refine ⟨.answering, ?_⟩
      rcases answered : ((operation.answer service.settings entries).run backend).1 with
        reason | answer
      · rw [answered] at failed
        rcases labelled : operation.label with _ | label
        · rw [labelled] at failed
          cases failed
          exact .unlabelled registered missing labelled answered
        · rw [labelled] at failed
          cases failed
          have raised := (sound.raises service.settings entries backend genuine).1 reason answered
          exact .labelled registered missing labelled answered (raised.surfaces label)
      · rw [answered] at failed
        cases failed
    · have complained := (Operation.complaint?_of_missing_ne_nil sound.required missing).2
      simp only [complained] at ran
      rw [ran] at failed
      cases failed
      refine ⟨.checking, .incomplete registered missing rfl ?_ ran⟩
      rw [Operation.missingMessage?, complained]
      rfl

/-- A failed run of a service with the operations of every service has failed at exactly one
stage, whatever the backend holds and whichever of its calls are out of service. -/
theorem failed_at_one_stage (settings : ServiceSettings) {backend : Backend}
    (genuine : backend.Genuine) (name : String) (entries : List (String × Json))
    {failure : Failure}
    (failed : ((Service.run { settings, operations := Operation.builtin } (.text name)
      (.object entries)).run backend).1 = .error failure) :
    ∃! stage, FailsAt { settings, operations := Operation.builtin } backend name entries failure
      stage := by
  rcases exists_failsAt (fun _ => Operation.declared_of_mem_builtin) genuine failed with
    ⟨stage, fails⟩
  refine ⟨stage, fails, ?_⟩
  intro other failsToo
  rw [fails.stage_eq, failsToo.stage_eq]

/-- The connection of a backend is lost. -/
def connectionReset : HostError :=
  { kind := .connection, message := "connection reset" }

/-- A backend that loses its connection when records are counted. -/
def disconnected : Backend :=
  { name := .text "memory"
    now := { instant := 0, offset := 0 }
    outages := [(.count, .host connectionReset)] }

/-- A count during which the connection is lost has failed at one stage, with the label of the
count. -/
theorem count_failed_at_one_stage :
    disconnected.Genuine ∧
      ((Service.run { settings := {}, operations := Operation.builtin } (.text "countRecords")
          (.object [("className", .text "Task")])).run disconnected).1 =
        .error (.labelled "Failed to count records" (.rejected (.hostError connectionReset))) ∧
      ∃! stage, FailsAt { settings := {}, operations := Operation.builtin } disconnected
        "countRecords" [("className", .text "Task")]
        (.labelled "Failed to count records" (.rejected (.hostError connectionReset))) stage := by
  have genuine : disconnected.Genuine := by
    intro outage member
    rw [List.mem_singleton.mp member]
    trivial
  exact ⟨genuine, rfl, failed_at_one_stage {} genuine "countRecords" _ rfl⟩

end Service

end TypedRecords
