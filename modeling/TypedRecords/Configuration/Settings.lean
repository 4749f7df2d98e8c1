import TypedRecords.Configuration.Environment
import TypedRecords.Failure

/-!
# Settings

Settings have two sections, one of the service and one of its store. They are built from
layers, each of which overrides those before it: the defaults, a configuration object, a
configuration file, and the environment.
-/

namespace TypedRecords

/-- The settings that are in force, as the entries of each section. -/
structure Settings where
  service : List (String × Json)
  store : List (String × Json)

namespace Settings

/-- The settings without any configuration. -/
def default : Settings :=
  { service := [
      ("default_limit", .int 100),
      ("max_limit", .null),
      ("strict_filter_operators", .bool false),
      ("seed_record_on_create_table", .bool false),
      ("server_version", .text "4.10.4"),
      ("features", .object [
        ("liveQueries", .bool true),
        ("redisCache", .bool true),
        ("dashboard", .bool true),
        ("publicAccess", .bool true)])]
    store := [("backend", .text "memory")] }

/-- The entries of a section. -/
def part (settings : Settings) : Section → List (String × Json)
  | .service => settings.service
  | .store => settings.store

/-- The settings with other entries in one section. -/
def setPart (settings : Settings) (entries : List (String × Json)) : Section → Settings
  | .service => { settings with service := entries }
  | .store => { settings with store := entries }

@[simp]
theorem setPart_part (settings : Settings) (which : Section) :
    settings.setPart (settings.part which) which = settings := by
  cases which <;> rfl

theorem part_setPart (settings : Settings) (entries : List (String × Json))
    (which other : Section) :
    (settings.setPart entries which).part other =
      if which = other then entries else settings.part other := by
  cases which <;> cases other <;> rfl

/-- The settings as one object that holds each section under its name. -/
def toJson (settings : Settings) : Json :=
  .object [(Section.service.name, .object settings.service),
    (Section.store.name, .object settings.store)]

/-- The error about a configuration that cannot be used. -/
def refusal (message : String) : HostError :=
  { kind := .badValue, message }

/-- A computation that changes settings in place. If it fails, the changes that it made before
remain. -/
abbrev Edit := ExceptT HostError (StateM Settings)

/-- Override a section by that of a configuration object, if it has the section. -/
def mergePart (entries : List (String × Json)) (which : Section) : Edit Unit :=
  match entries.lookup which.name with
  | none => return ()
  | some (.object patch) =>
      modify fun settings => settings.setPart (Entries.merge (settings.part which) patch) which
  | some _ => throw (refusal ("'" ++ which.name ++ "' section must be an object"))

/-- Override the settings by a configuration object from the given source. -/
def mergeObject (source : String) (configuration : Json) : Edit Unit :=
  match configuration with
  | .object entries => do
      mergePart entries .service
      mergePart entries .store
  | _ => throw (refusal ("Configuration from " ++ source ++ " must be an object"))

/-- Override the settings by the text of a configuration file. -/
def mergeText (path content : String) : Edit Unit :=
  match Json.read? content with
  | some configuration => mergeObject path configuration
  | none => throw (refusal "Invalid JSON configuration file")

/-- Override the settings by one variable of the environment. -/
def mergeVariable (settings : Settings) (assignment : String × String) : Settings :=
  match Environment.settingOf? assignment.1 with
  | some (which, path) =>
      settings.setPart
        (Environment.setAt (settings.part which) path (Environment.valueOf assignment.2)) which
  | none => settings

/-- Override the settings by the variables of an environment, in their order. -/
def mergeEnvironment (settings : Settings) (environment : List (String × String)) : Settings :=
  environment.foldl mergeVariable settings

end Settings

end TypedRecords
