import TypedRecords.Record
import TypedRecords.Value.Equality

/-!
# Predicates

A predicate compares a field of a record with an operand. Equality and membership look into
arrays as `Value.matchesOperand` says; the range operators hold only between values of one
ordered kind. A record without the field satisfies a predicate only if it asks for a
difference and the field is known to the class.
-/

namespace TypedRecords

/-- The comparisons that a predicate can make, and the names that stand for none of them. -/
inductive Operator where
  | eq
  | ne
  | gt
  | lt
  | gte
  | lte
  | among
  | unsupported (name : String)
deriving DecidableEq

namespace Operator

/-- The operator with the given name; a name of no operator stays as an unsupported one. -/
def ofName : String → Operator
  | "eq" => .eq
  | "ne" => .ne
  | "gt" => .gt
  | "lt" => .lt
  | "gte" => .gte
  | "lte" => .lte
  | "in" => .among
  | name => .unsupported name

/-- The name of an operator, under which it is also kept when it is unsupported. -/
def name : Operator → String
  | .eq => "eq"
  | .ne => "ne"
  | .gt => "gt"
  | .lt => "lt"
  | .gte => "gte"
  | .lte => "lte"
  | .among => "in"
  | .unsupported name => name

end Operator

/-- A condition on one field of a record. -/
structure Predicate where
  field : String
  operator : Operator
  operand : Value

namespace Predicate

/-- Whether a field with the given value satisfies an operator with the given operand. An
unsupported operator is noticed only when the values can be compared. -/
def holdsFor (value : Value) (operator : Operator) (operand : Value) : Except Rejection Bool :=
  match operator with
  | .eq => .ok (value.matchesOperand operand)
  | .ne => .ok (!value.matchesOperand operand)
  | .among =>
      match operand with
      | .array choices => .ok (choices.any (value.matchesOperand ·))
      | _ => .ok false
  | .gt => .ok (value.compare? operand == some .greater)
  | .lt => .ok (value.compare? operand == some .less)
  | .gte =>
      .ok (value.compare? operand == some .greater || value.compare? operand == some .equal)
  | .lte =>
      .ok (value.compare? operand == some .less || value.compare? operand == some .equal)
  | .unsupported name =>
      match value.compare? operand with
      | some _ => .error (.unsupportedOperator name)
      | none => .ok false

/-- Whether a record of a class with the given field names satisfies a predicate. -/
def holds (predicate : Predicate) (record : Record) (known : List String) :
    Except Rejection Bool :=
  match record.value? predicate.field with
  | some value => holdsFor value predicate.operator predicate.operand
  | none => .ok (predicate.operator == .ne && known.contains predicate.field)

/-- Whether a record satisfies all predicates; they are tried in order until one fails. -/
def allHold (predicates : List Predicate) (record : Record) (known : List String) :
    Except Rejection Bool :=
  match predicates with
  | [] => .ok true
  | predicate :: rest =>
      match predicate.holds record known with
      | .error reason => .error reason
      | .ok false => .ok false
      | .ok true => allHold rest record known

/-- The records that satisfy all predicates, in their order; the first one that cannot be decided
fails the selection. -/
def select (predicates : List Predicate) (known : List String) :
    List Record → Except Rejection (List Record)
  | [] => .ok []
  | record :: rest => do
      let chosen ← allHold predicates record known
      let others ← select predicates known rest
      return if chosen then record :: others else others

end Predicate

end TypedRecords
