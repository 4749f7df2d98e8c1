import TypedRecords.Number.Double

/-!
# Values on the wire

`Json` is a value as callers send and receive it. Integers have any size and are told apart
from doubles, and the entries of an object keep their order. A host application may also pass
values of kinds that have no wire form; they are `foreign`, and no record can hold one as a
field.
-/

namespace TypedRecords

/-- The kinds of host values without a wire form. -/
inductive ForeignKind where
  | bytes
  | set
  | complex
deriving DecidableEq

/-- The name of the kind in messages. -/
def ForeignKind.name : ForeignKind → String
  | .bytes => "bytes"
  | .set => "set"
  | .complex => "complex"

/-- A value on the wire. -/
inductive Json where
  | null
  | bool (value : Bool)
  | int (value : Int)
  | double (value : Double)
  | text (value : String)
  | array (items : List Json)
  | object (entries : List (String × Json))
  | foreign (kind : ForeignKind)

namespace Json

/-- The name that messages give to the kind of a value. -/
def typeName : Json → String
  | .null => "NoneType"
  | .bool _ => "bool"
  | .int _ => "int"
  | .double _ => "float"
  | .text _ => "str"
  | .array _ => "list"
  | .object _ => "dict"
  | .foreign kind => kind.name

/-- Whether a value counts as set: null, false, zero and everything empty do not. -/
def isTruthy : Json → Bool
  | .null => false
  | .bool value => value
  | .int value => value != 0
  | .double value => !value.isZero
  | .text value => !value.isEmpty
  | .array items => !items.isEmpty
  | .object entries => !entries.isEmpty
  | .foreign _ => true

/-- Whether a value is null or the empty text. -/
def isBlank : Json → Bool
  | .null => true
  | .text value => value.isEmpty
  | _ => false

/-- Whether the value is null. -/
def isNull : Json → Bool
  | .null => true
  | _ => false

theorem isNull_iff {value : Json} : value.isNull = true ↔ value = .null := by
  cases value <;> simp [isNull]

/-- Whether the value is an array. -/
def isArray : Json → Bool
  | .array _ => true
  | _ => false

/-- The value, or `fallback` if it is null. -/
def orElse (value fallback : Json) : Json :=
  if value.isNull then fallback else value

theorem orElse_eq_null_iff {value fallback : Json} :
    value.orElse fallback = .null ↔ value = .null ∧ fallback = .null := by
  rw [orElse]
  split
  · rename_i unset
    simp [isNull_iff.mp unset]
  · rename_i given
    have set : value ≠ .null := fun unset => given (isNull_iff.mpr unset)
    simp [set]

/-- The content of an entry of an object; null if there is none. -/
def entry (entries : List (String × Json)) (key : String) : Json :=
  (entries.lookup key).getD .null

end Json

end TypedRecords
