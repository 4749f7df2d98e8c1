import TypedRecords.Filter.Predicate

/-!
# Filters

A filter is an object that gives for each field either a literal, which the field must equal,
or an object of operators with their operands. An object with a type tag is a literal. A
filter compiles to predicates that must all hold: the fields in the order of the filter, and
the operators of a field in a fixed order.

Operators that do not exist are ignored, or refused if the compilation is strict.
-/

namespace TypedRecords.Filter

/-- The keys of the operators with their meanings, in the order of compilation. -/
def operators : List (String × Operator) :=
  [("$gt", .gt), ("$lt", .lt), ("$gte", .gte), ("$lte", .lte), ("$ne", .ne), ("$in", .among)]

/-- Whether a key of an object of operators is that of an operator that exists. -/
def isOperatorKey (key : String) : Bool :=
  Entries.hasKey operators key

/-- Whether a value in a filter is an object of operators rather than a literal. -/
def isOperatorObject (value : Json) : Bool :=
  match value with
  | .object _ => !value.isTagged
  | _ => false

/-- The keys of an object of operators that do not exist, sorted. -/
def unknownKeys (entries : List (String × Json)) : List String :=
  ((Entries.keys entries).filter (!isOperatorKey ·)).mergeSort fun left right =>
    decide (left ≤ right)

/-- The predicate of one operator of a field. -/
def compileOperand (field : String) (operator : Operator) (raw : Json) :
    Except InvalidInput Predicate := do
  let operand ← raw.decode
  if operator = .among ∧ operand.isArray = false then
    throw (.operandNotAList field raw.typeName)
  return { field, operator, operand }

/-- The predicates of the given operators, as far as the entries use them. -/
def compileOperators (field : String) (entries : List (String × Json)) :
    List (String × Operator) → Except InvalidInput (List Predicate)
  | [] => return []
  | (key, operator) :: rest =>
      match entries.lookup key with
      | none => compileOperators field entries rest
      | some raw => do
          let predicate ← compileOperand field operator raw
          let predicates ← compileOperators field entries rest
          return predicate :: predicates

/-- The predicate of a field that must equal a literal. -/
def compileLiteral (field : String) (value : Json) : Except InvalidInput (List Predicate) := do
  let operand ← value.decode
  return [{ field, operator := .eq, operand }]

/-- The predicates of a field with an object of operators; a strict compilation refuses those that
do not exist. -/
def compileOperatorObject (strict : Bool) (field : String) (entries : List (String × Json)) :
    Except InvalidInput (List Predicate) :=
  let unknown := unknownKeys entries
  if strict && !unknown.isEmpty then .error (.unknownOperators field unknown)
  else compileOperators field entries operators

/-- The predicates of one field, by the form of its value in the filter. -/
def compileField (strict : Bool) (field : String) (value : Json) :
    Except InvalidInput (List Predicate) :=
  match value with
  | .object entries =>
      if isOperatorObject value then compileOperatorObject strict field entries
      else compileLiteral field value
  | _ => compileLiteral field value

/-- The predicates of the fields, in the order of the filter; the first field that fails decides. -/
def compileEntries (strict : Bool) :
    List (String × Json) → Except InvalidInput (List Predicate)
  | [] => return []
  | (field, value) :: rest => do
      let predicates ← compileField strict field value
      let others ← compileEntries strict rest
      return predicates ++ others

/-- The predicates of a filter; null and the empty object have none. -/
def compile (strict : Bool) : Json → Except InvalidInput (List Predicate)
  | .null => return []
  | .object entries => compileEntries strict entries
  | value => .error (.notAnObject "filters" value.typeName)

end TypedRecords.Filter
