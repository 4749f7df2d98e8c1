import TypedRecords.Answer.Shape
import TypedRecords.Entries

/-!
# Models of answers

A model names the fields of an answer with their shapes. A field has two names, one by which
operations set it and one by which it is sent; a caller may use either. A field that is not
given takes its default, and fields that the model does not have are refused.

A field that is null is not sent.
-/

namespace TypedRecords.Answer

/-- A field of an answer: the name by which it is set, the name by which it is sent, the shape of
its value, and the value it has when none is given. -/
structure ModelField where
  name : String
  sentAs : String
  shape : Shape
  default : Option Json := none

/-- A kind of answer: the name that its errors tell, and its fields in the order in which they are
sent. -/
structure Model where
  name : String
  fields : List ModelField

/-- A value for a field, under the name by which it was given. -/
def ModelField.given? (field : ModelField) (values : List (String × Json)) :
    Option (String × Json) :=
  match values.lookup field.sentAs with
  | some value => some (field.sentAs, value)
  | none => (values.lookup field.name).map fun value => (field.name, value)

/-- The value of a field. -/
def ModelField.check (field : ModelField) (values : List (String × Json)) :
    Checked (String × Json) :=
  match field.given? values with
  | some (name, value) =>
      ((field.shape value).under name).map fun checked => (field.sentAs, checked)
  | none =>
      match field.default with
      | some value => .ok (field.sentAs, value)
      | none => Checked.under field.sentAs (issue "missing")

namespace Model

/-- The names of the values that no field of the model takes. -/
def surplus (model : Model) (values : List (String × Json)) : List String :=
  let taken := model.fields.filterMap fun field => (field.given? values).map Prod.fst
  (Entries.keys values).filter (!taken.contains ·)

/-- Refuse values that no field of the model takes. -/
def checkSurplus (model : Model) (values : List (String × Json)) : Checked Unit :=
  match model.surplus values with
  | [] => .ok ()
  | names => .error (names.map fun name => { location := [name], kind := "extra_forbidden" })

/-- The fields as they are sent, or everything wrong with the values. -/
def check (model : Model) (values : List (String × Json)) : Checked (List (String × Json)) :=
  let fields := Checked.all (model.fields.map (·.check values))
  (fields.both (model.checkSurplus values)).map fun (entries, _) =>
    entries.filter fun entry => !entry.2.isNull

/-- The shape of an answer inside another one. -/
def item (model : Model) : Shape := fun value =>
  match value with
  | .object entries => (model.check entries).map Json.object
  | _ => issue "model_type"

/-- The error that lists everything wrong with the values for an answer, after their number. -/
def error (model : Model) (issues : List Issue) : HostError :=
  { kind := .badAnswer
    message := toString issues.length ++ " invalid in " ++ model.name ++ ": " ++
      "; ".intercalate (issues.map Issue.describe) }

/-- The answer with the given values, or the one error about all that is wrong with them. -/
def build (model : Model) (values : List (String × Json)) : Except HostError Json :=
  match model.check values with
  | .ok entries => .ok (.object entries)
  | .error issues => .error (model.error issues)

end Model

end TypedRecords.Answer
