import TypedRecords.Json.Basic
import TypedRecords.Time.Moment

/-!
# Field values

`Value` is what a field of a record holds. Beside the plain values of the wire it has moments
and pointers to other records. Foreign values occur too, because callers can pass them, but no
field may hold one at its top level.
-/

namespace TypedRecords

/-- A reference to a record of a class. -/
structure Pointer where
  className : String
  objectId : String
deriving DecidableEq

/-- A decoded value. -/
inductive Value where
  | null
  | bool (value : Bool)
  | int (value : Int)
  | double (value : Double)
  | text (value : String)
  | date (moment : Moment)
  | pointer (target : Pointer)
  | array (items : List Value)
  | object (entries : List (String × Value))
  | foreign (kind : ForeignKind)

namespace Value

/-- Whether the value is null. -/
def isNull : Value → Bool
  | .null => true
  | _ => false

/-- Whether the value is an array. -/
def isArray : Value → Bool
  | .array _ => true
  | _ => false

/-- Whether the value is a truth value. -/
def isBool : Value → Bool
  | .bool _ => true
  | _ => false

end Value

end TypedRecords
