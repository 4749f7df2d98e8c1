import TypedRecords.Proofs.Request

/-!
# Actions on one class

All operations but two are put together from checks, the clock, and calls of the store for the one
class that they name; the removal of a class and the list of all classes are the two. `Action.On`
says how such an action is put together, so that a property of all these operations is shown by one
case for each way of doing so.
-/

namespace TypedRecords

/-- Labels stand before failures of the library's own family only. -/
def Failure.Genuine : Failure → Prop
  | .labelled _ failure => failure.hostError? = none
  | _ => True

namespace Action

/-- The action is put together from checks and the clock, and from calls for the class with the
given name. -/
inductive On (className : Json) : {Result : Type} → Action Result → Prop where
  | pure {Result : Type} (result : Result) : On className (pure result : Action Result)
  | throw {Result : Type} {failure : Failure} (genuine : failure.Genuine) :
      On className (throw failure : Action Result)
  | ofInput {Result : Type} (checked : Except InvalidInput Result) : On className (ofInput checked)
  | ofHost {Result : Type} (checked : Except HostError Result) : On className (ofHost checked)
  | bind {Result Next : Type} {action : Action Result} {next : Result → Action Next}
      (first : On className action) (rest : ∀ result, On className (next result)) :
      On className (action >>= next)
  | timestamp : On className Backend.timestamp
  | insert (fields : List (String × Value)) (access : AccessPolicy) :
      On className (Backend.insert className fields access)
  | getById (objectId : Json) : On className (Backend.getById className objectId)
  | query (predicates : List Predicate) (limit : Option Int) (skip : Int) :
      On className (Backend.query className predicates limit skip)
  | update (objectId : Json) (fields : List (String × Value)) :
      On className (Backend.update className objectId fields)
  | delete (objectId : Json) : On className (Backend.delete className objectId)
  | bulkInsert (items : List (List (String × Value) × AccessPolicy)) :
      On className (Backend.bulkInsert className items)
  | count (predicates : List Predicate) : On className (Backend.count className predicates)
  | classFields : On className (Backend.classFields className)
  | declareClass (fields : Schema) : On className (Backend.declareClass className fields)

theorem On.mapM {className : Json} {Item Result : Type} {action : Item → Action Result}
    (each : ∀ item, (action item).On className) (items : List Item) :
    (items.mapM action).On className := by
  induction items with
  | nil => exact .pure []
  | cons item rest ih =>
      rw [List.mapM_cons]
      exact (each item).bind fun _ => ih.bind fun _ => .pure _

end Action

open TypedRecords.Action

variable {className : Json}

namespace Records

theorem on_create (data : Json) : (create className data).On className := by
  apply On.bind (.ofInput _)
  intro _
  apply On.bind (.ofInput _)
  intro _
  apply On.bind (.ofInput _)
  intro fields
  exact .insert fields _

theorem on_read (strict : Bool) (filters limit skip : Json) :
    (read strict className filters limit skip).On className := by
  apply On.bind (.ofInput _)
  intro _
  apply On.bind (.ofInput _)
  intro limit
  apply On.bind (.ofInput _)
  intro skip
  apply On.bind (.ofInput _)
  intro predicates
  exact .query predicates _ _

theorem on_find (objectId : Json) : (find className objectId).On className := by
  apply On.bind (.getById objectId)
  intro found
  cases found with
  | none => exact .throw trivial
  | some record => exact .pure record

theorem on_update (objectId data : Json) : (update className objectId data).On className := by
  apply On.bind (.ofInput _)
  intro _
  apply On.bind (.ofInput _)
  intro _
  apply On.bind (.ofInput _)
  intro _
  apply On.bind (.ofInput _)
  intro patch
  apply On.bind
  · exact (on_find objectId).bind fun _ => .pure _
  · intro merged
    exact .update objectId merged

theorem on_delete (objectId : Json) : (delete className objectId).On className := by
  apply On.bind (.ofInput _)
  intro _
  apply On.bind (.ofInput _)
  intro _
  apply On.bind (on_find objectId)
  intro _
  exact .delete objectId

theorem on_createBatch (records : Json) : (createBatch className records).On className := by
  apply On.bind (.ofInput _)
  intro _
  cases records with
  | array items =>
      apply On.bind (.ofInput _)
      intro batch
      exact .bulkInsert batch
  | null | bool | int | double | text | object | foreign => exact .throw trivial

theorem on_count (strict : Bool) (filters : Json) :
    (count strict className filters).On className := by
  apply On.bind (.ofInput _)
  intro _
  apply On.bind (.ofInput _)
  intro predicates
  exact .count predicates

end Records

namespace Tables

theorem on_create (seedByDefault : Bool) (samples seed : Json) :
    (create seedByDefault className samples seed).On className := by
  apply On.bind (.ofInput _)
  intro _
  apply On.bind (.ofInput _)
  intro entries
  apply On.bind (.ofInput _)
  intro seeding
  apply On.bind (.ofInput _)
  intro fields
  split
  · apply On.bind (.insert fields _)
    intro record
    exact .pure _
  · apply On.bind (.ofInput _)
    intro schema
    apply On.bind (.declareClass schema)
    intro _
    exact .pure _

theorem on_schema : (schema className).On className := by
  apply On.bind .classFields
  intro found
  cases found with
  | none => exact .throw trivial
  | some schema => exact .pure schema

end Tables

namespace Operation

theorem on_encoded (record : Record) : (encoded record).On className :=
  (On.ofHost _).bind fun _ => .pure _

theorem on_recordAnswer (message : String) (record : Record) :
    (recordAnswer message record).On className :=
  (on_encoded record).bind fun _ => .ofHost _

/-- An operation is on the class that it names, unless it is for the removal of a class or for the
list of all classes. The cases follow the order in which the operations are registered. -/
theorem on_answer {operation : Operation} (registered : operation ∈ builtin)
    (notRemoval : operation ≠ deleteTable) (notList : operation ≠ listTables)
    (settings : ServiceSettings) (parameters : List (String × Json)) :
    (operation.answer settings parameters).On (Json.entry parameters "className") := by
  simp only [builtin, List.mem_cons, List.not_mem_nil, or_false] at registered
  rcases registered with rfl | rfl | rfl | rfl | rfl | rfl | rfl | rfl | rfl | rfl | rfl | rfl
  · exact (Records.on_createBatch _).bind fun _ => .ofHost _
  · exact (Records.on_count _ _).bind fun _ => .ofHost _
  · exact (Records.on_create _).bind (on_recordAnswer _)
  · exact (Tables.on_create _ _ _).bind fun _ => .ofHost _
  · exact (Records.on_delete _).bind fun _ => .ofHost _
  · exact absurd rfl notRemoval
  · exact On.timestamp.bind fun _ => .ofHost _
  · exact Tables.on_schema.bind fun _ => .ofHost _
  · exact On.timestamp.bind fun _ => .ofHost _
  · exact absurd rfl notList
  · apply On.bind (.ofHost _)
    intro limit
    apply On.bind (Records.on_read _ _ _ _)
    intro records
    apply On.bind (.mapM on_encoded records)
    intro data
    exact .ofHost _
  · exact (Records.on_update _ _).bind (on_recordAnswer _)

theorem on_check (operation : Operation) (parameters : List (String × Json)) :
    (operation.check parameters).On className := by
  apply On.bind (.ofHost _)
  intro complaint
  cases complaint with
  | none => exact .pure _
  | some names => exact .throw trivial

end Operation

theorem Service.on_find (service : Service) (name : Json) : (service.find name).On className := by
  apply On.bind (.ofHost _)
  intro key
  cases key with
  | text written =>
      dsimp only
      rcases service.operation? written with _ | operation
      · exact .throw trivial
      · exact .pure operation
  | null | number | undefined | foreign => exact .throw trivial

end TypedRecords
