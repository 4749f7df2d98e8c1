import TypedRecords.Proofs.History
import TypedRecords.Proofs.Reading

/-!
# Fields that the schema does not know

Every field of a record that is not null is in the schema of its class. Null has no type, so a
record can hold null for a field that the schema does not know. A predicate on such a field is
satisfied by a record exactly if the record holds null for it and null satisfies the predicate; it
is never satisfied by a record that does not hold the field.
-/

namespace TypedRecords

theorem Value.null_matchesOperand (operand : Value) :
    Value.null.matchesOperand operand = operand.isNull := by
  cases operand <;> rfl

theorem Value.null_compare? (operand : Value) : Value.null.compare? operand = none := by
  cases operand <;> rfl

/-- The record holds null for a field. -/
def Record.holdsNull (record : Record) (field : String) : Bool :=
  (record.value? field).any (·.isNull)

theorem Record.value?_of_not_reserved {record : Record} {field : String}
    (free : field ∉ Schema.reservedNames) : record.value? field = record.fields.lookup field := by
  simp only [Schema.reservedNames, List.mem_cons, List.not_mem_nil, or_false, not_or] at free
  unfold value?
  split <;> simp_all

namespace Predicate

/-- Null satisfies the predicate: it asks for null, for a difference from something else, or for a
member of a list with null. -/
def acceptsNull (predicate : Predicate) : Bool :=
  match predicate.operator, predicate.operand with
  | .eq, operand => operand.isNull
  | .ne, operand => !operand.isNull
  | .among, .array choices => choices.any (·.isNull)
  | _, _ => false

theorem holdsFor_null (predicate : Predicate) :
    holdsFor .null predicate.operator predicate.operand = .ok predicate.acceptsNull := by
  rcases predicate with ⟨field, operator, operand⟩
  cases operator with
  | eq => simp [holdsFor, acceptsNull, Value.null_matchesOperand]
  | ne => simp [holdsFor, acceptsNull, Value.null_matchesOperand]
  | among =>
      cases operand with
      | array choices => simp [holdsFor, acceptsNull, Value.null_matchesOperand]
      | null => rfl
      | bool => rfl
      | int => rfl
      | double => rfl
      | text => rfl
      | date => rfl
      | pointer => rfl
      | object => rfl
      | foreign => rfl
  | gt => simp [holdsFor, acceptsNull, Value.null_compare?]
  | lt => simp [holdsFor, acceptsNull, Value.null_compare?]
  | gte => simp [holdsFor, acceptsNull, Value.null_compare?]
  | lte => simp [holdsFor, acceptsNull, Value.null_compare?]
  | unsupported name => simp [holdsFor, acceptsNull, Value.null_compare?]

end Predicate

namespace Store

variable {store : Store} {key objectId : Key} {record : Record}

/-- The class of a record knows the fields of its schema. -/
theorem WellFormed.knownFields_of_record? (wellFormed : store.WellFormed)
    (found : store.record? key objectId = some record) :
    store.knownFields key = Entries.keys (store.schemaOf key) := by
  have present := wellFormed.mem_schemas_of_record? found
  rcases Option.isSome_iff_exists.mp (Entries.lookup_isSome_iff.mpr present) with ⟨schema, known⟩
  rw [knownFields, schemaOf, known]

/-- Every schema has the fields that all records have. -/
theorem WellFormed.not_reserved_of_unknown (wellFormed : store.WellFormed) {field : String}
    (unknown : field ∉ Entries.keys (store.schemaOf key)) : field ∉ Schema.reservedNames := by
  rcases (wellFormed.schemas key).begins with ⟨further, begins, _⟩
  have known : ∀ name ∈ Schema.reservedNames, name ∈ Entries.keys Schema.builtin := by decide
  intro reserved
  apply unknown
  rw [begins, Entries.keys, List.map_append]
  exact List.mem_append_left _ (known field reserved)

/-- A record holds null for a field that its class does not know, or it does not hold the field: any
other value has a type, and its field is in the schema. -/
theorem WellFormed.value?_of_unknown (wellFormed : store.WellFormed)
    (found : store.record? key objectId = some record) {field : String}
    (unknown : field ∉ store.knownFields key) :
    record.value? field = none ∨ record.value? field = some .null := by
  rw [wellFormed.knownFields_of_record? found] at unknown
  rw [Record.value?_of_not_reserved (wellFormed.not_reserved_of_unknown unknown)]
  rcases held : record.fields.lookup field with _ | value
  · exact Or.inl rfl
  · right
    have member := Entries.mem_of_lookup held
    cases value with
    | null => rfl
    | _ =>
        rcases (wellFormed.records key objectId record found).covered _ member rfl with
          ⟨descriptor, _, known⟩
        exact absurd (Entries.lookup_isSome_iff.mp (Option.isSome_of_eq_some known)) unknown

theorem holds_of_unknown (wellFormed : store.WellFormed)
    (found : store.record? key objectId = some record) {predicate : Predicate}
    (unknown : predicate.field ∉ store.knownFields key) :
    predicate.holds record (store.knownFields key) =
      .ok (record.holdsNull predicate.field && predicate.acceptsNull) := by
  rcases wellFormed.value?_of_unknown found unknown with absent | null
  · rw [Predicate.holds, Record.holdsNull, absent]
    simpa using fun _ => unknown
  · rw [Predicate.holds, Record.holdsNull, null]
    exact Predicate.holdsFor_null predicate

/-- A class is selected from in vain by a predicate that none of its records satisfies. -/
theorem matching_eq_nil (wellFormed : store.WellFormed) {predicates : List Predicate}
    {predicate : Predicate} (member : predicate ∈ predicates)
    (unsatisfied : ∀ objectId record, store.record? key objectId = some record →
      predicate.holds record (store.knownFields key) = .ok false) :
    store.matching key predicates = [] := by
  rw [matching, List.filter_eq_nil_iff]
  intro record present accepted
  rcases (mem_recordsOf_iff (wellFormed.filedOnce key)).mp present with ⟨objectId, found⟩
  have holds := List.all_eq_true.mp accepted predicate member
  rw [Predicate.accepts_eq_true_iff, unsatisfied objectId record found] at holds
  cases holds

/-- In a store that a run of requests leads to, a predicate on a field that the schema of a class
does not know is satisfied exactly by the records of the class that hold null for the field, if null
satisfies it. If there are none, what is read or counted with such a predicate is empty. -/
theorem unknown_field_matches_iff (requests : List Request) {className : String}
    {predicate : Predicate}
    (unknown : predicate.field ∉ (({} : Store).after requests).knownFields (.text className)) :
    (∀ objectId record,
      (({} : Store).after requests).record? (.text className) objectId = some record →
        predicate.holds record ((({} : Store).after requests).knownFields (.text className)) =
          .ok (record.holdsNull predicate.field && predicate.acceptsNull)) ∧
      ((∀ objectId record,
        (({} : Store).after requests).record? (.text className) objectId = some record →
          (record.holdsNull predicate.field && predicate.acceptsNull) = false) →
        ∀ (request : Request) (predicates : List Predicate), predicate ∈ predicates →
          (∀ size start, request.AsksPage className predicates size start →
            request.outcome (({} : Store).after requests) =
              .ok (.object [("success", .bool true), ("className", .text className),
                ("count", .int 0), ("data", .array [])])) ∧
          (request.AsksCount className predicates →
            request.outcome (({} : Store).after requests) =
              .ok (.object [("success", .bool true), ("className", .text className),
                ("count", .int 0)]))) := by
  have wellFormed := WellFormed.empty.after requests
  have holds : ∀ objectId record,
      (({} : Store).after requests).record? (.text className) objectId = some record →
        predicate.holds record ((({} : Store).after requests).knownFields (.text className)) =
          .ok (record.holdsNull predicate.field && predicate.acceptsNull) :=
    fun _ _ found => holds_of_unknown wellFormed found unknown
  refine ⟨holds, ?_⟩
  intro none request predicates member
  have empty : (({} : Store).after requests).matching (.text className) predicates = [] := by
    apply matching_eq_nil wellFormed member
    intro objectId record found
    rw [holds objectId record found, none objectId record found]
  constructor
  · intro size start asks
    have blank : page ([] : List Record) (size.map Int.ofNat) start = [] := by
      rw [page_eq]
      cases size <;> simp
    rw [Request.outcome, asks.run_eq, empty, blank]
    rfl
  · intro asks
    rw [Request.outcome, asks.run_eq, empty]
    rfl

/-- A request for a record that holds null for the field `x`. -/
def voiding : Request :=
  .call "createRecord" [("className", .text "A"), ("data", .object [("x", .null), ("n", .int 1)])]
    ["a"]

/-- The predicate that asks for a difference from one in the field `y`. -/
def unlikeOne : Predicate :=
  { field := "y", operator := .ne, operand := .int 1 }

/-- The request for the number of records that differ from one in the field `y`. -/
def countingUnlikeOne : Request :=
  .asking {} { instant := 0, offset := 0 } {} "countRecords" [("className", .text "A"),
    ("filters", .object [("y", .object [("$ne", .int 1)])])]

/-- The record does not hold the field `y`, and is not counted by the predicate on it. -/
theorem unheld_field_counts_none :
    unlikeOne.field ∉ (({} : Store).after [voiding]).knownFields (.text "A") ∧
      (∀ objectId record,
        (({} : Store).after [voiding]).record? (.text "A") objectId = some record →
          (record.holdsNull unlikeOne.field && unlikeOne.acceptsNull) = false) ∧
      countingUnlikeOne.AsksCount "A" [unlikeOne] ∧
      countingUnlikeOne.outcome (({} : Store).after [voiding]) =
        .ok (.object [("success", .bool true), ("className", .text "A"), ("count", .int 0)]) := by
  have unknown : unlikeOne.field ∉ (({} : Store).after [voiding]).knownFields (.text "A") := by
    decide +kernel
  have unheld : ∀ objectId record,
      (({} : Store).after [voiding]).record? (.text "A") objectId = some record →
        (record.holdsNull unlikeOne.field && unlikeOne.acceptsNull) = false := by
    have none : ((({} : Store).after [voiding]).recordsOf (.text "A")).all
        (fun record => !record.holdsNull unlikeOne.field) = true := by decide +kernel
    intro objectId record found
    have filedOnce := (WellFormed.empty.after [voiding]).filedOnce (.text "A")
    have member := (mem_recordsOf_iff filedOnce).mpr ⟨objectId, found⟩
    have free := List.all_eq_true.mp none record member
    rw [Bool.not_eq_true'] at free
    rw [free, Bool.false_and]
  have asks : countingUnlikeOne.AsksCount "A" [unlikeOne] :=
    Request.asksCount_asking rfl (by decide) rfl
  have empty := (unknown_field_matches_iff [voiding] unknown).2 unheld
  exact ⟨unknown, unheld, asks, (empty _ [unlikeOne] List.mem_cons_self).2 asks⟩

/-- The field `x` has no type, and yet the record that holds null for it is equal to null there. -/
theorem not_forall_unknown_field_unmatched :
    ¬ ∀ (requests : List Request) (key objectId : Key) (record : Record) (predicate : Predicate),
      (({} : Store).after requests).record? key objectId = some record →
        predicate.field ∉ (({} : Store).after requests).knownFields key →
          predicate.holds record ((({} : Store).after requests).knownFields key) = .ok false := by
  intro unmatched
  have unknown : "x" ∉ (({} : Store).after [voiding]).knownFields (.text "A") := by decide +kernel
  have null : ((({} : Store).after [voiding]).record? (.text "A") (.text "a")).map
      (·.holdsNull "x") = some true := by decide +kernel
  rcases Option.map_eq_some_iff.mp null with ⟨record, found, held⟩
  have holds := unmatched [voiding] (.text "A") (.text "a") record
    { field := "x", operator := .eq, operand := .null } found unknown
  rw [holds_of_unknown (WellFormed.empty.after _) found unknown, held] at holds
  cases holds

end Store

end TypedRecords
