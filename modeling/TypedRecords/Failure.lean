import TypedRecords.Json.Literal

/-!
# Failures

Every way in which a request can fail, as the reason for it. A failure of the library's own
family says that the input is invalid, that a class or record does not exist, or that the store
rejects a request; a host error comes from the environment. `Failure.message` is the one text
that callers see.

A failure can carry labels, which name the operation that failed and stand before the message;
labels change nothing else about it.
-/

namespace TypedRecords

/-- The kinds of errors that come from the environment of the library rather than from itself. -/
inductive HostErrorKind where
  | badValue
  | badType
  | missingMember
  | missingKey
  | badIndex
  | overflow
  | runtime
  | connection
  | timeout
  | system
  | isDirectory
  | badAnswer
deriving DecidableEq

/-- An error of the environment: its kind and its own text. -/
structure HostError where
  kind : HostErrorKind
  message : String

namespace HostError

/-- The error of a kind about a subject. A missing key is quoted, and any other subject is the
text itself. -/
def about (kind : HostErrorKind) (subject : String) : HostError :=
  { kind, message := if kind = .missingKey then quoted subject else subject }

/-- An array, an object or a set cannot be a key. -/
def notAKey (typeName : String) : HostError :=
  { kind := .badType, message := "unhashable type: '" ++ typeName ++ "'" }

/-- A value that should have entries has none, because it is no object. -/
def withoutEntries (typeName : String) : HostError :=
  { kind := .missingMember, message := "'" ++ typeName ++ "' object has no attribute 'items'" }

/-- A moment lies outside the years of the calendar once it is moved to universal time. -/
def dateOutOfRange : HostError :=
  { kind := .overflow, message := "date value out of range" }

/-- A list has no item at the place that was asked for. -/
def noSuchItem : HostError :=
  { kind := .badIndex, message := "list index out of range" }

/-- A part of the path of a file is longer than the file system takes. -/
def nameTooLong (path : String) : HostError :=
  { kind := .system, message := "[Errno 36] File name too long: " ++ quoted path }

/-- The path of a file names a directory. -/
def directoryInsteadOfFile (path : String) : HostError :=
  { kind := .isDirectory, message := "[Errno 21] Is a directory: " ++ quoted path }

/-- Two values of types without a common order are compared. -/
def notOrdered (leftType rightType : String) : HostError :=
  { kind := .badType
    message := "'>' not supported between instances of '" ++ leftType ++ "' and '" ++
      rightType ++ "'" }

end HostError

/-- The names joined as in a sentence: "a", "a and b", "a, b, and c". -/
def joinNames : List String → String
  | [] => ""
  | [name] => name
  | [first, second] => first ++ " and " ++ second
  | names => ", ".intercalate names.dropLast ++ ", and " ++ names.getLastD ""

/-- The sentence that says that all of the names are required. -/
def requiredSentence (names : List String) : String :=
  joinNames names ++ (if names.length = 1 then " is" else " are") ++ " required"

/-- The sentence that says that a field cannot hold a value of a kind. -/
def unsupportedSentence (kind : ForeignKind) : String :=
  "Unsupported field value type: " ++ kind.name

/-- The reasons for which an input is invalid. -/
inductive InvalidInput where
  | unknownOperation (name : Json)
  /-- A parameter of an operation is missing; the names are all those it requires. -/
  | missingParameters (names : List String)
  | required (name : String)
  | notAnObject (name typeName : String)
  | recordsNotAList
  /-- Fields that every record has are set; the names are sorted. -/
  | reservedFields (names : List String)
  | badLimit (limit : Json)
  | badSkip (skip : Json)
  | seedNotBoolean (typeName : String)
  | unsupportedSample (field : String) (kind : ForeignKind)
  /-- A filter uses operators that do not exist; the keys are sorted. -/
  | unknownOperators (field : String) (keys : List String)
  | operandNotAList (field typeName : String)
  | dateWithoutText (raw : Json)
  | invalidDate (text : String)
  | incompletePointer
  | unknownTag (tag : Json)
  /-- An extension or a collaborator gives a reason of its own. -/
  | reported (message : String) (field context : Json)

namespace InvalidInput

/-- The text about an invalid input that callers see. -/
def message : InvalidInput → String
  | .unknownOperation name => "Unknown operation: " ++ name.literal
  | .missingParameters names => requiredSentence names
  | .required name => name ++ " is required"
  | .notAnObject name typeName => name ++ " must be an object, got " ++ typeName
  | .recordsNotAList => "className and records array are required"
  | .reservedFields names => "Reserved field(s) cannot be set: " ++ ", ".intercalate names
  | .badLimit limit => "limit must be a non-negative integer, got " ++ limit.literal
  | .badSkip skip => "skip must be a non-negative integer, got " ++ skip.literal
  | .seedNotBoolean typeName => "seedRecord must be a boolean, got " ++ typeName
  | .unsupportedSample _ kind => unsupportedSentence kind
  | .unknownOperators field keys =>
      "Unknown filter operator(s) for field '" ++ field ++ "': " ++ ", ".intercalate keys
  | .operandNotAList field typeName =>
      "'$in' operand for field '" ++ field ++ "' must be a list, got " ++ typeName
  | .dateWithoutText _ => "Date value requires an 'iso' string"
  | .invalidDate text => "Invalid date: " ++ quoted text
  | .incompletePointer => "Pointer value requires 'className' and 'objectId'"
  | .unknownTag tag => "Unsupported value type: " ++ tag.literal
  | .reported message _ _ => message

/-- The parameter or field that is at fault; null where the reason names none. -/
def field : InvalidInput → Json
  | .unknownOperation _ => .text "operation"
  | .required name => .text name
  | .notAnObject name _ => .text name
  | .recordsNotAList => .text "records"
  | .reservedFields names => (names.head?.map Json.text).getD .null
  | .seedNotBoolean _ => .text "seedRecord"
  | .unsupportedSample field _ => .text field
  | .unknownOperators field _ => .text field
  | .operandNotAList field _ => .text field
  | .reported _ field _ => field
  | .missingParameters _ | .badLimit _ | .badSkip _ | .dateWithoutText _ | .invalidDate _
  | .incompletePointer | .unknownTag _ => .null

/-- What else the reason tells; null if nothing. -/
def context : InvalidInput → Json
  | .dateWithoutText raw => .object [("value", raw)]
  | .reported _ _ context => context
  | _ => .null

end InvalidInput

/-- The families of failures. -/
inductive FailureKind where
  | general
  | invalid
  | notFound
  | rejected
  | host (kind : HostErrorKind)
deriving DecidableEq

/-- The reasons for which the store rejects a request. -/
inductive Rejection where
  | invalidClassName (name : Json)
  | invalidFieldName (name : String)
  | unsupportedValue (kind : ForeignKind)
  | schemaMismatch (className field expected got : String)
  | item (index : Nat) (reason : Rejection)
  /-- Other classes point to the class; the referring fields are sorted. -/
  | referenced (className : Json) (referrers : List String)
  | unsupportedOperator (name : String)
  /-- The environment raised an error on the way. -/
  | hostError (error : HostError)
  /-- An extension or a collaborator gives a reason of its own. -/
  | reported (message : String) (context : Json) (cause : Option FailureKind)

namespace Rejection

/-- The text about a rejection that callers see; the reason for an item stands after its index. -/
def message : Rejection → String
  | .invalidClassName name =>
      "Invalid classname: " ++ name.literal ++ ", classnames can only have alphanumeric " ++
        "characters and _, and must start with an alpha character"
  | .invalidFieldName name => "Invalid field name: " ++ name
  | .unsupportedValue kind => unsupportedSentence kind
  | .schemaMismatch className field expected got =>
      "schema mismatch for " ++ className ++ "." ++ field ++ "; expected " ++ expected ++
        " but got " ++ got
  | .item index reason => "item " ++ toString index ++ ": " ++ reason.message
  | .referenced className referrers =>
      "Class '" ++ className.display ++ "' is referenced by " ++ ", ".intercalate referrers
  | .unsupportedOperator name => "Unsupported predicate operator: " ++ quoted name
  | .hostError error => error.message
  | .reported message _ _ => message

/-- The kind of failure that the rejection was caused by. -/
def cause? : Rejection → Option FailureKind
  | .unsupportedValue _ => some (.host .badType)
  | .item _ _ => some .rejected
  | .hostError error => some (.host error.kind)
  | .reported _ _ cause => cause
  | _ => none

/-- What a rejection tells besides its message: the index of the item, or the referring fields. -/
def context : Rejection → Json
  | .item index _ => .object [("index", .int index)]
  | .referenced _ referrers => .object [("referrers", .array (referrers.map .text))]
  | .reported _ context _ => context
  | _ => .null

end Rejection

/-- The failures of a request, by the family that they belong to. -/
inductive Failure where
  /-- A failure of the library's family without a more specific kind. -/
  | general (message : String) (context : Json)
  | invalid (reason : InvalidInput)
  /-- A class does not exist, or, if the object id is not null, a record of it. -/
  | notFound (className objectId : Json)
  | rejected (reason : Rejection)
  | host (error : HostError)
  /-- The failure under a label. -/
  | labelled (label : String) (failure : Failure)

namespace Failure

/-- The family that a failure belongs to. -/
def kind : Failure → FailureKind
  | .general _ _ => .general
  | .invalid _ => .invalid
  | .notFound _ _ => .notFound
  | .rejected _ => .rejected
  | .host error => .host error.kind
  | .labelled _ failure => failure.kind

/-- The text about a class, or about a record of it unless the object id is null, that does not
exist. -/
def notFoundMessage (className objectId : Json) : String :=
  if objectId.isNull then "Class '" ++ className.display ++ "' not found"
  else "Object '" ++ objectId.display ++ "' not found in class '" ++ className.display ++ "'"

/-- The text that callers see: the labels, outermost first, and the message of the reason. -/
def message : Failure → String
  | .general message _ => message
  | .invalid reason => reason.message
  | .notFound className objectId => notFoundMessage className objectId
  | .rejected reason => reason.message
  | .host error => error.message
  | .labelled label failure => label ++ ": " ++ failure.message

/-- What a failure tells besides its message; labels add nothing to it. -/
def context : Failure → Json
  | .general _ context => context
  | .invalid reason => reason.context
  | .notFound className objectId =>
      .object [("className", className), ("objectId", objectId)]
  | .rejected reason => reason.context
  | .host _ => .null
  | .labelled _ failure => failure.context

/-- The input that a failure complains about, which only an invalid input names. -/
def field : Failure → Json
  | .invalid reason => reason.field
  | .labelled _ failure => failure.field
  | _ => .null

/-- The kind of failure that the failure was caused by, which only a rejection tells. -/
def cause? : Failure → Option FailureKind
  | .rejected reason => reason.cause?
  | .labelled _ failure => failure.cause?
  | _ => none

/-- The class and the record that do not exist. -/
def target? : Failure → Option (Json × Json)
  | .notFound className objectId => some (className, objectId)
  | .labelled _ failure => failure.target?
  | _ => none

/-- The error of the environment under the labels of the failure, if it is one. -/
def hostError? : Failure → Option HostError
  | .host error => some error
  | .labelled _ failure => failure.hostError?
  | _ => none

/-- The failure as an operation with the given label shows it. An operation without a label
shows it as it is; under a label an error of the environment becomes a rejection. -/
def underLabel : Option String → Failure → Failure
  | none, failure => failure
  | some label, failure =>
      match failure.hostError? with
      | some error => .labelled label (.rejected (.hostError error))
      | none => .labelled label failure

end Failure

end TypedRecords
