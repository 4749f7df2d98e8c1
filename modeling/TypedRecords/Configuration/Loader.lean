import TypedRecords.Configuration.Settings
import TypedRecords.Json.Key

/-!
# Loading a configuration

A loader builds the settings the first time they are asked for and keeps them until it is told
to load again. It remembers the configuration object that it was last given. It builds the settings
in place, one source after the other; only when all of them are merged does it count as loaded. A
load that fails leaves what it has built so far, which the next load clears away.
-/

namespace TypedRecords

namespace FilePath

/-- The parts of a path between slashes, without those that stay in place. -/
def parts (path : String) : List String :=
  (path.splitOn "/").filter fun part => !part.isEmpty && part != "."

/-- The root that a path starts from, if any. Exactly two slashes at the start are a root of
their own; more of them are the same as one. -/
def root (path : String) : String :=
  if path.startsWith "//" && !path.startsWith "///" then "//"
  else if path.startsWith "/" then "/"
  else ""

/-- A path without empty parts and without parts that stay in place. -/
def normalized (path : String) : String :=
  let rest := root path ++ "/".intercalate (parts path)
  if rest.isEmpty then "." else rest

/-- Whether a path leads nowhere but up, and so to a directory, whatever files there are. -/
def isAscent (path : String) : Bool :=
  (parts path).all (· == "..")

/-- The largest number of bytes of a name. -/
def nameLimit : Nat :=
  255

/-- The number of bytes that a path must not reach. -/
def pathLimit : Nat :=
  4096

/-- Whether a path, or the first name that it leads down to, is too long to be looked for. A path
with a null character in it is never looked for. -/
def isTooLong (path : String) : Bool :=
  let name := (((parts path).dropWhile (· == "..")).head?).getD ""
  !path.contains '\x00' &&
    (decide (pathLimit ≤ (normalized path).utf8ByteSize) || decide (nameLimit < name.utf8ByteSize))

end FilePath

/-- What a load reads: the environment, and the files by their paths. -/
structure Surroundings where
  environment : List (String × String) := []
  files : List (String × String) := []

/-- The content of the file at a path, if there is a file. -/
def Surroundings.read (surroundings : Surroundings) (path : String) :
    Except HostError (Option String) :=
  let shown := FilePath.normalized path
  if FilePath.isTooLong path then .error (.nameTooLong shown)
  else if FilePath.isAscent path then .error (.directoryInsteadOfFile shown)
  else .ok (surroundings.files.lookup shown)

/-- A loader: the path of the configuration file, the configuration object that was last given, the
settings as far as they are built, and whether they are complete. -/
structure Loader where
  path : Option String := none
  remembered : Option Json := none
  settings : Settings := Settings.default
  isLoaded : Bool := false

namespace Loader

/-- Override the settings by the remembered configuration object. -/
def mergeRemembered (remembered : Option Json) : Settings.Edit Unit :=
  match remembered with
  | some configuration => Settings.mergeObject "config dict" configuration
  | none => return ()

/-- Override the settings by the configuration file, if there is one. -/
def mergeFile (path : Option String) (surroundings : Surroundings) : Settings.Edit Unit :=
  match path with
  | none => return ()
  | some path =>
      if path.isEmpty then return ()
      else do
        match ← MonadExcept.ofExcept (surroundings.read path) with
        | some content => Settings.mergeText (FilePath.normalized path) content
        | none => return ()

/-- Override the settings by all sources in turn. -/
def mergeSources (path : Option String) (remembered : Option Json)
    (surroundings : Surroundings) : Settings.Edit Unit := do
  mergeRemembered remembered
  mergeFile path surroundings
  modify fun settings => settings.mergeEnvironment surroundings.environment

/-- A computation over a loader. -/
abbrev Run := ExceptT HostError (StateM Loader)

/-- Change the settings of a loader in place. -/
def edit (change : Settings.Edit Unit) : Run Unit :=
  ExceptT.mk fun loader =>
    let (outcome, settings) := change.run loader.settings
    (outcome, { loader with settings })

/-- The configuration object to remember when one is given; null gives none. -/
def remember (given : Json) (remembered : Option Json) : Option Json :=
  if given.isNull then remembered else some given

/-- Load the settings, with a configuration object unless it is null. Settings that are loaded
already are kept. -/
def load (surroundings : Surroundings) (given : Json) : Run Unit := do
  let loader ← get
  if loader.isLoaded then return ()
  else
    let remembered := remember given loader.remembered
    modify fun loader => { loader with remembered, settings := Settings.default }
    edit (mergeSources loader.path remembered surroundings)
    modify fun loader => { loader with isLoaded := true }

/-- The settings, which are loaded first if necessary. -/
def current (surroundings : Surroundings) : Run Settings := do
  load surroundings .null
  let loader ← get
  return loader.settings

/-- All settings as one object, loaded first if necessary. -/
def all (surroundings : Surroundings) : Run Json := do
  let settings ← current surroundings
  return settings.toJson

/-- All settings of a section as one object, loaded first if necessary. -/
def wholeSection (surroundings : Surroundings) (which : Section) : Run Json := do
  let settings ← current surroundings
  return .object (settings.part which)

/-- A setting of a section, or `fallback` if the section does not have it. A key that is no text
is no key of a section. -/
def setting (surroundings : Surroundings) (which : Section) (key fallback : Json) :
    Run Json := do
  let settings ← current surroundings
  match key.key with
  | .ok (.text key) => return ((settings.part which).lookup key).getD fallback
  | .ok _ => return fallback
  | .error error => throw error

/-- Give a setting of the service a value, until the settings are loaded again. -/
def set (surroundings : Surroundings) (key : String) (value : Json) : Run Unit := do
  load surroundings .null
  edit (modify fun settings =>
    { settings with service := Entries.set settings.service key value })

/-- Load the settings again from their sources. -/
def reload (surroundings : Surroundings) : Run Unit := do
  modify fun loader => { loader with isLoaded := false }
  load surroundings .null

end Loader

end TypedRecords
