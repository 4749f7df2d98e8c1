import TypedRecords.Store.Backend

/-!
# Operations

An operation is called by its name with parameters. It declares which parameters are required
and which of them must be arrays; these are checked before it runs. The label of an operation
stands before the message of every failure of it.
-/

namespace TypedRecords

/-- The settings that operations obey. Limits are used as they were configured, whatever their
kind. -/
structure ServiceSettings where
  seedByDefault : Bool := false
  strictFilters : Bool := false
  defaultLimit : Json := .int 100
  maxLimit : Json := .null
  version : String := ""
  features : Mapping := []

/-- An operation: its name, the parameters that it requires and those that must be arrays, the label
of its failures, and how it answers parameters that passed the check. -/
structure Operation where
  name : String
  required : List String := []
  arrays : List String := []
  label : Option String := none
  answer : ServiceSettings → List (String × Json) → Action Json

namespace Operation

/-- An operation whose arrays are required as well. -/
def declare (name : String) (required arrays : List String) (label : Option String)
    (answer : ServiceSettings → List (String × Json) → Action Json) : Operation :=
  { name
    required := required ++ arrays.filter (!required.contains ·)
    arrays
    label
    answer }

/-- The names of the parameters that are missing, or are no arrays though they must be. -/
def missing (operation : Operation) (parameters : List (String × Json)) : List String :=
  operation.required.filter (fun name => (Json.entry parameters name).isBlank) ++
    operation.arrays.filter fun name => !(Json.entry parameters name).isArray

/-- How the required parameters are named in a message. -/
def requiredNames (operation : Operation) : List String :=
  operation.required.map fun name =>
    if operation.arrays.contains name then name ++ " array" else name

/-- The names of all required parameters if any is missing. An operation that requires none,
though an array is missing, has no name to give. -/
def complaint? (operation : Operation) (parameters : List (String × Json)) :
    Except HostError (Option (List String)) :=
  if (operation.missing parameters).isEmpty then .ok none
  else match operation.requiredNames with
    | [] => .error .noSuchItem
    | names => .ok (some names)

/-- The message about missing parameters, if any is missing. -/
def missingMessage? (operation : Operation) (parameters : List (String × Json)) :
    Except HostError (Option String) :=
  (operation.complaint? parameters).map fun names =>
    names.map fun names => (InvalidInput.missingParameters names).message

/-- The required parameters as a group: one alone is followed by a comma. -/
def requiredGroup (operation : Operation) : String :=
  match operation.required with
  | [name] => "(" ++ quoted name ++ ",)"
  | names => "(" ++ ", ".intercalate (names.map quoted) ++ ")"

/-- The text that stands for an operation among others. -/
def describe (operation : Operation) : String :=
  "Operation(name=" ++ operation.name ++ ", required=" ++ operation.requiredGroup ++ ")"

/-- Refuse parameters of which a required one is missing. -/
def check (operation : Operation) (parameters : List (String × Json)) : Action Unit := do
  match ← Action.ofHost (operation.complaint? parameters) with
  | some names => throw (.invalid (.missingParameters names))
  | none => return ()

/-- Check the parameters and run the operation; its failures, but not those of the check, are
under its label. -/
def run (operation : Operation) (settings : ServiceSettings)
    (parameters : List (String × Json)) : Action Json := do
  operation.check parameters
  (operation.answer settings parameters).underLabel operation.label

end Operation

end TypedRecords
