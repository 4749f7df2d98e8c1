import TypedRecords.Proofs.Operations
import TypedRecords.Service

/-!
# Requests

A request is one call of a service by the name of an operation. Between two requests only the
store persists: settings, clock and source of ids are part of the request, and may be any. So a
list of requests stands for every run, whatever ids are drawn in the course of it.

`Request.Runs` says all that a request can come to: it leaves the store; or it makes one change
and answers with the ids of the records that it filed; or it writes one record, and fails because
the record cannot be shown.
-/

namespace TypedRecords

/-- An object stands for the mapping of its entries. -/
theorem Mapping.exists_ofJson_object (entries : List (String × Json)) :
    ∃ mapping, ofJson (.object entries) = .ok mapping ∧ mapping.textEntries = entries := by
  refine ⟨entries.map fun entry => (.text entry.1, entry.2), ?_, ?_⟩
  · cases entries with
    | nil => rfl
    | cons entry rest => rfl
  · simp [textEntries, List.filterMap_map]

/-- A call of an operation, with all that it depends on besides the store. -/
structure Request where
  settings : ServiceSettings := {}
  now : Moment
  ids : IdSource := {}
  name : Json
  parameters : Json

namespace Request

/-- A request for an operation, made at the beginning of the calendar. -/
def call (name : String) (parameters : List (String × Json)) (draws : List String) : Request :=
  { now := { instant := 0, offset := 0 }, ids := { listed := draws }, name := .text name,
    parameters := .object parameters }

/-- The service with the operations of every service. -/
def service (request : Request) : Service :=
  { settings := request.settings, operations := Operation.builtin }

theorem ofSettings_eq_service (request : Request) :
    Service.ofSettings request.settings [] = .ok request.service :=
  rfl

/-- The backend that works on a store, with no call out of service. -/
def backend (request : Request) (store : Store) : Backend :=
  { name := .text "memory", now := request.now, store, ids := request.ids }

/-- The outcome of the request on a store, and the backend that it leaves. -/
def run (request : Request) (store : Store) : Except Failure Json × Backend :=
  (request.service.run request.name request.parameters).run (request.backend store)

/-- The answer of the request, or its failure. -/
def outcome (request : Request) (store : Store) : Except Failure Json :=
  (request.run store).1

/-- The store that the request leaves, whether it fails or not. -/
def next (request : Request) (store : Store) : Store :=
  (request.run store).2.store

/-- The parameters of the request whose names are texts. -/
def given (request : Request) : List (String × Json) :=
  match Mapping.ofJson request.parameters with
  | .ok mapping => mapping.textEntries
  | .error _ => []

/-- A parameter of the request; null if it is not given. -/
def parameter (request : Request) (name : String) : Json :=
  Json.entry request.given name

/-- The entry of an answer that tells the ids of new records. -/
def idsField? (request : Request) : Option String :=
  match request.name with
  | .text "createRecord" => some "objectId"
  | .text "batchCreateRecords" => some "objectIds"
  | .text "createTable" => some "seedObjectId"
  | _ => none

/-- The ids of new records that an answer to the request tells. -/
def idsIn (request : Request) (answer : Json) : List String :=
  (request.idsField?.map answer.textsAt).getD []

/-- The step in which the request writes a record that its answer is to show. -/
def recordWrite? (request : Request) : Option (Action Record) :=
  match request.name with
  | .text "createRecord" =>
      some (Records.create (request.parameter "className") (request.parameter "data"))
  | .text "updateRecord" =>
      some (Records.update (request.parameter "className") (request.parameter "objectId")
        (request.parameter "data"))
  | _ => none

/-- What a request can come to, with its outcome and the backend that it leaves. -/
inductive Runs (request : Request) (store : Store) : Except Failure Json → Backend → Prop where
  | silent {outcome : Except Failure Json}
      (untold : ∀ answer, outcome = .ok answer → request.idsIn answer = []) :
      Runs request store outcome (request.backend store)
  | answered {answer : Json} {after : Store} {rest : IdSource} {records : List Record}
      (change : store.Change records after)
      (told : request.idsIn answer = records.map (·.objectId))
      (named : Backend.AllOf (request.parameter "className") records) :
      Runs request store (.ok answer) { request.backend store with store := after, ids := rest }
  | unshown {write : Action Record} {record : Record} {error : HostError} {label : String}
      {after : Store} {rest : IdSource} {records : List Record}
      (change : store.Change records after)
      (writes : request.recordWrite? = some write)
      (written : write.run (request.backend store) =
        (.ok record, { request.backend store with store := after, ids := rest }))
      (unencodable : record.encode = .error error) :
      Runs request store (.error (.labelled label (.rejected (.hostError error))))
        { request.backend store with store := after, ids := rest }

variable {request : Request} {store : Store}

theorem operation?_of_registered {operation : Operation}
    (registered : operation ∈ Operation.builtin) :
    request.service.operation? operation.name = some operation := by
  simp only [Operation.builtin, List.mem_cons, List.not_mem_nil, or_false] at registered
  rcases registered with rfl | rfl | rfl | rfl | rfl | rfl | rfl | rfl | rfl | rfl | rfl | rfl <;>
    rfl

/-- A request names a registered operation, or it fails at once. -/
theorem find_cases (request : Request) (backend : Backend) :
    (∃ failure, (request.service.find request.name).run backend = (.error failure, backend)) ∨
      ∃ operation ∈ Operation.builtin, request.name = .text operation.name := by
  rw [Service.find, Action.run_bind, Action.run_ofHost]
  rcases keyed : request.name.key with error | key
  · exact Or.inl ⟨.host error, rfl⟩
  · cases key with
    | text written =>
        rcases found : request.service.operation? written with _ | operation
        · refine Or.inl ⟨.invalid (.unknownOperation request.name), ?_⟩
          simp only [Except.mapError_ok, found]
          rfl
        · have same := List.find?_some found
          simp only [beq_iff_eq] at same
          exact Or.inr ⟨operation, List.mem_of_find?_eq_some found,
            same ▸ Json.eq_text_of_key keyed⟩
    | null => exact Or.inl ⟨.invalid (.unknownOperation request.name), rfl⟩
    | number => exact Or.inl ⟨.invalid (.unknownOperation request.name), rfl⟩
    | undefined => exact Or.inl ⟨.invalid (.unknownOperation request.name), rfl⟩
    | foreign => exact Or.inl ⟨.invalid (.unknownOperation request.name), rfl⟩

theorem run_of_registered (store : Store) {operation : Operation}
    (registered : operation ∈ Operation.builtin)
    (named : request.name = .text operation.name) :
    request.run store =
      match Mapping.ofJson request.parameters with
      | .error error => (.error (.host error), request.backend store)
      | .ok mapping =>
          (operation.run request.settings mapping.textEntries).run (request.backend store) := by
  have found : (request.service.find request.name).run (request.backend store) =
      (.ok operation, request.backend store) := by
    have known : request.service.operation? operation.name = some operation :=
      operation?_of_registered registered
    simp only [named, Service.find, Json.key, Action.run_bind, Action.run_ofHost,
      Except.mapError_ok, known]
    rfl
  rw [run, Service.run, Action.run_bind, found]
  simp only [Action.run_bind, Action.run_ofHost]
  rcases Mapping.ofJson request.parameters with error | mapping
  · rfl
  · rfl

/-- A request for an operation fails before this runs and leaves the store, or it runs it. -/
theorem run_registered_cases (store : Store) {operation : Operation}
    (registered : operation ∈ Operation.builtin)
    (named : request.name = .text operation.name) :
    (∃ failure, request.run store = (.error failure, request.backend store)) ∨
      request.run store =
        ((operation.answer request.settings request.given).underLabel operation.label).run
          (request.backend store) := by
  have ran := run_of_registered store registered named
  rw [given]
  rcases converted : Mapping.ofJson request.parameters with error | mapping
  · rw [converted] at ran
    exact Or.inl ⟨.host error, ran⟩
  · simp only [converted, Operation.run_eq] at ran
    rcases complained : operation.complaint? mapping.textEntries with error | _ | names
    · rw [complained] at ran
      exact Or.inl ⟨.host error, ran⟩
    · rw [complained] at ran
      exact Or.inr ran
    · rw [complained] at ran
      exact Or.inl ⟨.invalid (.missingParameters names), ran⟩

/-- A request whose required parameters are given runs its operation; if the parameters are no
mapping, none is given. -/
theorem run_of_present {operation : Operation} (registered : operation ∈ Operation.builtin)
    (named : request.name = .text operation.name)
    (present : ∀ name ∈ operation.required, (request.parameter name).isBlank = false)
    (required : operation.required ≠ [])
    (listed : ∀ name ∈ operation.arrays, (request.parameter name).isArray = true) :
    request.run store =
      ((operation.answer request.settings request.given).underLabel operation.label).run
        (request.backend store) := by
  have ran := run_of_registered store registered named
  rcases converted : Mapping.ofJson request.parameters with error | mapping
  · rcases List.exists_mem_of_ne_nil _ required with ⟨name, member⟩
    have blank := present name member
    simp [parameter, given, converted, Json.entry, Json.isBlank] at blank
  · have taken : request.given = mapping.textEntries := by rw [given, converted]
    simp only [parameter, taken] at present listed
    rw [converted] at ran
    simp only [ran, Operation.run_eq, Operation.complaint?_eq_none present listed, taken]

theorem run_cases (request : Request) (store : Store) :
    (∃ failure, request.run store = (.error failure, request.backend store)) ∨
      ∃ operation ∈ Operation.builtin, request.name = .text operation.name ∧
        request.run store =
          ((operation.answer request.settings request.given).underLabel operation.label).run
            (request.backend store) := by
  rcases find_cases request (request.backend store) with ⟨failure, ran⟩ | ⟨operation, registered,
    named⟩
  · refine Or.inl ⟨failure, ?_⟩
    rw [run, Service.run, Action.run_bind, ran]
  · rcases run_registered_cases store registered named with failed | ran
    · exact Or.inl failed
    · exact Or.inr ⟨operation, registered, named, ran⟩

/-- A request that succeeds has run its operation. -/
theorem answer_run_of_ok {operation : Operation} (registered : operation ∈ Operation.builtin)
    (named : request.name = .text operation.name) {answer : Json}
    (answered : request.outcome store = .ok answer) :
    ∃ after, (operation.answer request.settings request.given).run (request.backend store) =
      (.ok answer, after) ∧ after.store = request.next store := by
  rcases run_registered_cases store registered named with ⟨failure, ran⟩ | ran
  · rw [outcome, ran] at answered
    cases answered
  · rw [outcome, ran, Action.run_underLabel, Except.mapError_eq_ok_iff] at answered
    refine ⟨_, Prod.ext answered rfl, ?_⟩
    rw [next, ran, Action.run_underLabel]

/-- An operation that keeps the backend tells no ids. -/
theorem runs_of_keepsBackend {action : Action Json} (kept : action.KeepsBackend)
    (untold : request.idsField? = none) (label : Option String) :
    request.Runs store ((action.underLabel label).run (request.backend store)).1
      ((action.underLabel label).run (request.backend store)).2 := by
  have same := kept.underLabel label (request.backend store)
  rw [same]
  exact .silent fun answer _ => by simp [idsIn, untold]

/-- An operation that writes once fails and leaves the store, or makes its change and answers. -/
theorem runs_of_writesOnce {told : Json → List Record → Prop} {action : Action Json}
    (once : action.WritesOnce told (request.backend store))
    (tells : ∀ answer records, told answer records →
      request.idsIn answer = records.map (·.objectId) ∧
        Backend.AllOf (request.parameter "className") records) (label : Option String) :
    request.Runs store ((action.underLabel label).run (request.backend store)).1
      ((action.underLabel label).run (request.backend store)).2 := by
  rw [Action.run_underLabel]
  rcases once with ⟨failure, ran⟩ | ⟨answer, after, rest, records, ran, change, tell⟩
  · rw [ran]
    exact .silent fun answer answered => by cases answered
  · rw [ran]
    rcases tells answer records tell with ⟨ids, named⟩
    exact .answered change ids named

/-- An operation that writes a record and then shows it can fail on showing it. -/
theorem runs_of_recordWrite {told : Record → List Record → Prop} {write : Action Record}
    (writes : request.recordWrite? = some write)
    (once : write.WritesOnce told (request.backend store)) {message : String}
    (tells : ∀ record records entries, told record records →
      request.idsIn (Operation.recordShown message record entries) =
          records.map (·.objectId) ∧
        Backend.AllOf (request.parameter "className") records) (label : String) :
    request.Runs store
      (((write >>= Operation.recordAnswer message).underLabel (some label)).run
        (request.backend store)).1
      (((write >>= Operation.recordAnswer message).underLabel (some label)).run
        (request.backend store)).2 := by
  rw [Action.run_underLabel, Action.run_bind]
  rcases once with ⟨failure, ran⟩ | ⟨record, after, rest, records, ran, change, tell⟩
  · rw [ran]
    exact .silent fun answer answered => by cases answered
  · rw [ran]
    simp only [Operation.run_recordAnswer]
    rcases encoded : record.encode with error | entries
    · exact .unshown change writes ran encoded
    · rcases tells record records entries tell with ⟨ids, named⟩
      exact .answered change ids named

/-- All that a request can come to, with the cases in the order in which the operations are
registered. -/
theorem runs (request : Request) (wellFormed : store.WellFormed) :
    request.Runs store (request.run store).1 (request.run store).2 := by
  rcases run_cases request store with ⟨failure, ran⟩ | ⟨operation, registered, named, ran⟩
  · rw [ran]
    exact .silent fun answer answered => by cases answered
  · rw [ran]
    simp only [Operation.builtin, List.mem_cons, List.not_mem_nil, or_false] at registered
    rcases registered with rfl | rfl | rfl | rfl | rfl | rfl | rfl | rfl | rfl | rfl | rfl | rfl
    · have entry : request.idsField? = some "objectIds" := by rw [idsField?, named]; rfl
      refine runs_of_writesOnce (Operation.writesOnce_batchCreateRecords _ _) ?_ _
      rintro answer records ⟨ids, all⟩
      exact ⟨by simpa [idsIn, entry] using ids, all⟩
    · exact runs_of_keepsBackend (Operation.keepsBackend_countRecords _ _)
        (by rw [idsField?, named]; rfl) _
    · refine runs_of_recordWrite (by rw [recordWrite?, named]; rfl)
        (Records.writesOnce_create _ _) ?_ _
      rintro record records entries ⟨rfl, all⟩
      exact ⟨by rw [idsIn, idsField?, named]; rfl, all⟩
    · have entry : request.idsField? = some "seedObjectId" := by rw [idsField?, named]; rfl
      refine runs_of_writesOnce (Operation.writesOnce_createTable _ _) ?_ _
      rintro answer records ⟨ids, all⟩
      exact ⟨by simpa [idsIn, entry] using ids, all⟩
    · refine runs_of_writesOnce (Operation.writesOnce_deleteRecord wellFormed _ _) ?_ _
      rintro answer records rfl
      exact ⟨by rw [idsIn, idsField?, named]; rfl, by simp [Backend.AllOf]⟩
    · refine runs_of_writesOnce (Operation.writesOnce_deleteTable _ _) ?_ _
      rintro answer records rfl
      exact ⟨by rw [idsIn, idsField?, named]; rfl, by simp [Backend.AllOf]⟩
    · exact runs_of_keepsBackend (Operation.keepsBackend_getServerInfo _ _)
        (by rw [idsField?, named]; rfl) _
    · exact runs_of_keepsBackend (Operation.keepsBackend_getTableSchema _ _)
        (by rw [idsField?, named]; rfl) _
    · exact runs_of_keepsBackend (Operation.keepsBackend_healthCheck _ _)
        (by rw [idsField?, named]; rfl) _
    · exact runs_of_keepsBackend (Operation.keepsBackend_listTables _ _)
        (by rw [idsField?, named]; rfl) _
    · exact runs_of_keepsBackend (Operation.keepsBackend_readTable _ _)
        (by rw [idsField?, named]; rfl) _
    · refine runs_of_recordWrite (by rw [recordWrite?, named]; rfl)
        (Records.writesOnce_update _ _ _) ?_ _
      rintro record records entries rfl
      exact ⟨by rw [idsIn, idsField?, named]; rfl, by simp [Backend.AllOf]⟩

end Request

end TypedRecords
