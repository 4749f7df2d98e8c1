import TypedRecords.Proofs.Referrers
import TypedRecords.Proofs.Reuse

/-!
# Pointers to a class that is removed

Whether other classes point to a class is told from their schemas, and a schema has a target only
for a field that is a pointer itself. So when a class is removed, no field of a record of another
class is a pointer to it. But a field may hold a list or a mapping, whose type says nothing about
what is inside: pointers to the class that stand there are left.
-/

namespace TypedRecords

namespace Value

mutual

/-- The classes of the pointers in a value, at whatever depth. -/
def targets : Value → List String
  | .pointer target => [target.className]
  | .array items => itemTargets items
  | .object entries => entryTargets entries
  | _ => []

/-- The classes of the pointers in the values. -/
def itemTargets : List Value → List String
  | [] => []
  | item :: rest => targets item ++ itemTargets rest

/-- The classes of the pointers in the contents of the entries. -/
def entryTargets : List (String × Value) → List String
  | [] => []
  | (_, content) :: rest => targets content ++ entryTargets rest

end

end Value

namespace Request

theorem RemovesClass.purgeClass {request : Request} {store : Store} {name : String}
    (removes : request.RemovesClass store name) :
    store.purgeClass (.text name) = .ok (request.next store) := by
  rcases removes with ⟨named, inClass, answer, answered⟩
  rw [← inClass]
  exact purgeClass_of_deleteTable named answered

end Request

namespace Store

variable {store : Store} {name : String}

/-- No record of another class holds a pointer to the class. -/
def FreeOfPointers (store : Store) (name : String) : Prop :=
  ∀ key objectId record, key ≠ .text name → store.record? key objectId = some record →
    ∀ field ∈ record.fields, name ∉ field.2.targets

/-- A field that is a pointer makes its class refer to the class of the pointer. -/
theorem WellFormed.refers_of_pointer (wellFormed : store.WellFormed) {key objectId : Key}
    {record : Record} {field : String} {target : Pointer}
    (found : store.record? key objectId = some record)
    (held : (field, .pointer target) ∈ record.fields) (other : key ≠ .text target.className) :
    store.Refers record.className field target.className := by
  have filed := wellFormed.records _ _ _ found
  rcases filed.covered _ held rfl with ⟨descriptor, described, known⟩
  cases described
  rw [filed.className] at known other
  exact ⟨by simpa using other, Entries.mem_of_lookup known⟩

/-- When a request removes a class from a store that a run of requests leads to, the records of all
other classes stay as they are. None of their fields is a pointer to the class: pointers to it that
such a record holds stand inside a list or a mapping. A field that is a pointer to the class would
be among its referrers, of which there are none. -/
theorem pointers_left_are_nested (requests : List Request)
    (reached : store = ({} : Store).after requests) {request : Request}
    (removes : request.RemovesClass store name) :
    ∀ key objectId record, key ≠ .text name → store.record? key objectId = some record →
      (request.next store).record? key objectId = some record ∧
        ∀ field ∈ record.fields, name ∈ field.2.targets →
          (∃ items, field.2 = .array items ∧
            (store.schemaOf key).lookup field.1 = some { type := .array }) ∨
          ∃ entries, field.2 = .object entries ∧
            (store.schemaOf key).lookup field.1 = some { type := .object } := by
  intro key objectId record other found
  have wellFormed : store.WellFormed := reached ▸ WellFormed.empty.after requests
  have owners : store.OwnersNamed := reached ▸ ownersNamed_after requests
  rcases purgeClass_eq_ok removes.purgeClass with ⟨purged, _, keyed, _, free, left⟩
  cases keyed
  refine ⟨?_, ?_⟩
  · rw [left, record?_dropClass, if_neg other]
    exact found
  · rintro ⟨field, value⟩ held within
    have filed := wellFormed.records _ _ _ found
    cases value with
    | pointer target =>
        cases List.mem_singleton.mp within
        have refers := wellFormed.refers_of_pointer found held other
        have listed := (mem_referrers_iff wellFormed owners).mpr ⟨_, _, refers, rfl⟩
        rw [free] at listed
        cases listed
    | array items =>
        rcases filed.covered _ held rfl with ⟨descriptor, described, known⟩
        cases described
        exact Or.inl ⟨items, rfl, known⟩
    | object entries =>
        rcases filed.covered _ held rfl with ⟨descriptor, described, known⟩
        cases described
        exact Or.inr ⟨entries, rfl, known⟩
    | null => cases within
    | bool => cases within
    | int => cases within
    | double => cases within
    | text => cases within
    | date => cases within
    | foreign => cases within

/-- Requests for a record of a class, and for one of another class with a list in which a pointer
to it stands. -/
def listingPointer : List Request :=
  [.call "createRecord" [("className", .text "A"), ("data", .object [("n", .int 1)])] ["x"],
    .call "createRecord" [("className", .text "B"), ("data", .object [("refs", .array [.object
      [("__type", .text "Pointer"), ("className", .text "A"), ("objectId", .text "x")]])])] ["y"]]

/-- A request to remove the class that the pointer is to. -/
def removingClass : Request :=
  .call "deleteTable" [("className", .text "A")] []

theorem removesClass_removingClass :
    removingClass.RemovesClass (({} : Store).after listingPointer) "A" := by
  refine ⟨rfl, rfl, ?_⟩
  have answered : (removingClass.outcome (({} : Store).after listingPointer)).isOk = true := by
    decide +kernel
  rcases outcome : removingClass.outcome (({} : Store).after listingPointer) with failure | answer
  · rw [outcome] at answered
    cases answered
  · exact ⟨answer, rfl⟩

/-- The record with the list, in the store that these requests lead to. -/
def withList : Record :=
  { className := "B", objectId := "y",
    fields := [("refs", .array [.pointer { className := "A", objectId := "x" }])],
    access := AccessPolicy.everyone, createdAt := { instant := 0, offset := 0 },
    updatedAt := { instant := 0, offset := 0 } }

theorem record?_withList :
    (({} : Store).after listingPointer).record? (.text "B") (.text "y") = some withList :=
  rfl

/-- The class is removed, and the list with the pointer stays. -/
theorem list_left_with_pointer :
    removingClass.RemovesClass (({} : Store).after listingPointer) "A" ∧
      (removingClass.next (({} : Store).after listingPointer)).record? (.text "B") (.text "y") =
        some withList ∧
      ∀ field ∈ withList.fields, "A" ∈ field.2.targets →
        (∃ items, field.2 = .array items ∧
          ((({} : Store).after listingPointer).schemaOf (.text "B")).lookup field.1 =
            some { type := .array }) ∨
        ∃ entries, field.2 = .object entries ∧
          ((({} : Store).after listingPointer).schemaOf (.text "B")).lookup field.1 =
            some { type := .object } :=
  ⟨removesClass_removingClass, pointers_left_are_nested listingPointer rfl
    removesClass_removingClass (.text "B") (.text "y") withList (by decide) record?_withList⟩

/-- A class can be removed while a record of another class holds a pointer to it. -/
theorem not_forall_free_of_pointers :
    ¬ ∀ (requests : List Request) (request : Request) (name : String),
      request.RemovesClass (({} : Store).after requests) name →
        (({} : Store).after requests).FreeOfPointers name := by
  intro free
  have within : "A" ∈ (Value.array [.pointer { className := "A", objectId := "x" }]).targets := by
    simp [Value.targets, Value.itemTargets]
  exact free listingPointer removingClass "A" removesClass_removingClass (.text "B") (.text "y")
    withList (by decide) record?_withList _ List.mem_cons_self within

end Store

end TypedRecords
