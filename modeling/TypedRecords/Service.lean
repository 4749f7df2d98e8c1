import TypedRecords.Configuration.Loader
import TypedRecords.Operation.Builtin

/-!
# The service

A service offers operations under their names. It is created from its settings, with the
operations of every service and with those of further modules; then requests are run against a
backend.
-/

namespace TypedRecords

/-- A service: its settings and its operations, in the order in which they were registered. -/
structure Service where
  settings : ServiceSettings
  operations : List Operation := []

namespace Service

/-- The operation that is registered under a name. -/
def operation? (service : Service) (name : String) : Option Operation :=
  service.operations.find? (·.name == name)

/-- Register an operation, unless its name is taken. -/
def register (service : Service) (operation : Operation) : Except HostError Service :=
  match service.operation? operation.name with
  | some _ =>
      .error {
        kind := .badValue
        message := "Operation already registered: " ++ quoted operation.name }
  | none => .ok { service with operations := service.operations ++ [operation] }

/-- The names of the operations, sorted. -/
def operationNames (service : Service) : List String :=
  (service.operations.map (·.name)).mergeSort fun left right => decide (left ≤ right)

/-- Register the operations of a module in the order of the names that the module gives
them. -/
def loadModule (service : Service) (members : List (String × Operation)) :
    Except HostError Service :=
  let ordered := members.mergeSort fun left right => decide (left.1 ≤ right.1)
  ordered.foldlM (fun service member => service.register member.2) service

/-- The operation that a request names. -/
def find (service : Service) (name : Json) : Action Operation := do
  match ← Action.ofHost name.key with
  | .text known =>
      match service.operation? known with
      | some operation => return operation
      | none => throw (.invalid (.unknownOperation name))
  | _ => throw (.invalid (.unknownOperation name))

/-- Run the operation with the given name and parameters. -/
def run (service : Service) (name parameters : Json) : Action Json := do
  let operation ← service.find name
  let mapping ← Action.ofHost (Mapping.ofJson parameters)
  operation.run service.settings mapping.textEntries

/-- The error that stands in the way of a service that is not created by `Service.create`. -/
def notConstructible : HostError :=
  { kind := .runtime, message := "Use: instance = await CloudCrud.create(...)" }

/-- The name of the store that the settings choose. -/
def storeName (settings : Settings) : Except HostError Json :=
  let backend := (settings.store.lookup "backend").getD (.text "memory")
  match backend with
  | .text "memory" => .ok ((settings.store.lookup "name").getD (.text "memory"))
  | _ => .error (Settings.refusal ("Unknown store backend: " ++ backend.literal))

/-- The settings of the operations, from the section of the service. The features must be a mapping,
and the version becomes a text; everything else is taken as it was configured. -/
def operationSettings (settings : Settings) : Except HostError ServiceSettings := do
  let entry (key : String) := Json.entry settings.service key
  let features ← Mapping.ofJson (entry "features")
  return {
    seedByDefault := (entry "seed_record_on_create_table").isTruthy
    strictFilters := (entry "strict_filter_operators").isTruthy
    defaultLimit := (settings.service.lookup "default_limit").getD Records.defaultLimit
    maxLimit := entry "max_limit"
    version := ((settings.service.lookup "server_version").getD (.text "")).display
    features }

/-- A service with the operations of every service and of the given modules. -/
def ofSettings (settings : ServiceSettings) (modules : List (List (String × Operation))) :
    Except HostError Service := do
  let service : Service := { settings }
  let service ← Operation.builtin.foldlM register service
  modules.foldlM loadModule service

/-- What a service is created from. A backend of its own takes the place of the store that the
settings choose. -/
structure Blueprint where
  configurationPath : Option String := none
  configuration : Json := .null
  surroundings : Surroundings := {}
  modules : List (List (String × Operation)) := []
  ownBackend : Option Backend := none

/-- The settings that a blueprint leads to: those of a new loader, once it has loaded. -/
def Blueprint.settings (blueprint : Blueprint) : Except HostError Settings :=
  let loader : Loader := { path := blueprint.configurationPath }
  let (outcome, loader) := (Loader.load blueprint.surroundings blueprint.configuration).run loader
  outcome.map fun _ => loader.settings

/-- The backend of a blueprint: its own, or an empty store with the name that the settings
choose. -/
def Blueprint.backend (blueprint : Blueprint) (settings : Settings) (ids : IdSource)
    (now : Moment) : Except HostError Backend :=
  match blueprint.ownBackend with
  | some backend => .ok backend
  | none => (storeName settings).map fun name => { name, now, ids }

/-- The service and the backend of a blueprint, before the backend is called. -/
def prepare (blueprint : Blueprint) (ids : IdSource) (now : Moment) :
    Except HostError (Service × Backend) := do
  let settings ← blueprint.settings
  let backend ← blueprint.backend settings ids now
  let operationSettings ← operationSettings settings
  let service ← ofSettings operationSettings blueprint.modules
  return (service, backend)

/-- Create a service and its backend. The classes are listed once, so that a backend out of
service is noticed here. -/
def create (blueprint : Blueprint) (ids : IdSource) (now : Moment) :
    Except Failure (Service × Backend) := do
  let (service, backend) ← (prepare blueprint ids now).mapError Failure.host
  let (listed, backend) := Backend.listClasses.run backend
  let _ ← listed
  return (service, backend)

end Service

end TypedRecords
