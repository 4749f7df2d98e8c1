import TypedRecords.Filter.Spec
import TypedRecords.Proofs.WellFormed

/-!
# Selecting records

A filter compiles to predicates of supported operators only, and these are decided for every
record. So selecting the records of a class cannot fail, and gives those that every predicate
accepts, in the order of the table. A page of them is a part between two positions.
-/

namespace TypedRecords

/-- Names that are sorted stand in their order. -/
theorem pairwise_mergeSort_names (names : List String) :
    (names.mergeSort fun left right => decide (left ≤ right)).Pairwise (· ≤ ·) := by
  have sorted : (names.mergeSort fun left right => decide (left ≤ right)).Pairwise
      fun left right => decide (left ≤ right) = true := by
    apply List.pairwise_mergeSort
    · intro first second third le later
      simp only [decide_eq_true_eq] at le later ⊢
      exact String.le_trans le later
    · intro first second
      simpa using String.le_total first second
  exact sorted.imp of_decide_eq_true

namespace Predicate

/-- The operator of the predicate is one of those that filters have. -/
def Supported (predicate : Predicate) : Prop :=
  ∀ name, predicate.operator ≠ .unsupported name

/-- Whether a record of a class with the given field names satisfies the predicate. -/
def accepts (predicate : Predicate) (known : List String) (record : Record) : Bool :=
  match predicate.holds record known with
  | .ok satisfied => satisfied
  | .error _ => false

theorem accepts_eq_true_iff {predicate : Predicate} {known : List String} {record : Record} :
    predicate.accepts known record = true ↔ predicate.holds record known = .ok true := by
  rw [accepts]
  split <;> simp_all

theorem holds_eq_accepts {predicate : Predicate} (supported : predicate.Supported)
    (known : List String) (record : Record) :
    predicate.holds record known = .ok (predicate.accepts known record) := by
  rw [accepts]
  rcases decided : predicate.holds record known with reason | satisfied
  · rw [holds] at decided
    split at decided
    · rcases predicate with ⟨field, operator, operand⟩
      cases operator with
      | unsupported name => exact absurd rfl (supported name)
      | among => cases operand <;> simp [holdsFor] at decided
      | eq => simp [holdsFor] at decided
      | ne => simp [holdsFor] at decided
      | gt => simp [holdsFor] at decided
      | lt => simp [holdsFor] at decided
      | gte => simp [holdsFor] at decided
      | lte => simp [holdsFor] at decided
    · cases decided
  · rfl

theorem allHold_eq {predicates : List Predicate}
    (supported : ∀ predicate ∈ predicates, predicate.Supported) (known : List String)
    (record : Record) :
    allHold predicates record known = .ok (predicates.all (·.accepts known record)) := by
  induction predicates with
  | nil => rfl
  | cons predicate rest ih =>
      have others := ih fun other member => supported other (List.mem_cons_of_mem _ member)
      rw [allHold, holds_eq_accepts (supported _ List.mem_cons_self), List.all_cons]
      cases predicate.accepts known record with
      | false => rfl
      | true => exact others

/-- The records that are selected are those that all predicates accept, in their order. -/
theorem select_eq {predicates : List Predicate}
    (supported : ∀ predicate ∈ predicates, predicate.Supported) (known : List String)
    (records : List Record) :
    select predicates known records =
      .ok (records.filter fun record => predicates.all (·.accepts known record)) := by
  induction records with
  | nil => rfl
  | cons record rest ih =>
      rw [select, allHold_eq supported, ih, List.filter_cons]
      rfl

/-- The predicate that asks for the record under an id. -/
def hasId (objectId : String) : Predicate :=
  { field := "objectId", operator := .eq, operand := .text objectId }

theorem accepts_hasId (objectId : String) (known : List String) (record : Record) :
    (hasId objectId).accepts known record = (record.objectId == objectId) := by
  change (Value.text record.objectId).matchesOperand (.text objectId) = _
  simp [Value.matchesOperand, Value.equals, Value.same, Value.isBool]

end Predicate

namespace Filter

/-- Filters are compiled with supported operators only. -/
theorem supported_of_mem_operators {key : String} {operator : Operator}
    (member : (key, operator) ∈ operators) (name : String) : operator ≠ .unsupported name := by
  simp only [operators, List.mem_cons, Prod.mk.injEq, List.not_mem_nil, or_false] at member
  rcases member with ⟨_, rfl⟩ | ⟨_, rfl⟩ | ⟨_, rfl⟩ | ⟨_, rfl⟩ | ⟨_, rfl⟩ | ⟨_, rfl⟩ <;> simp

theorem operator_of_compileOperand {field : String} {operator : Operator} {raw : Json}
    {predicate : Predicate} (compiled : compileOperand field operator raw = .ok predicate) :
    predicate.operator = operator := by
  simp only [compileOperand, Except.bind_eq_ok_iff] at compiled
  rcases compiled with ⟨operand, _, compiled⟩
  split at compiled
  · cases compiled
  · cases compiled
    rfl

theorem supported_of_compileOperators {field : String} {entries : List (String × Json)}
    {available : List (String × Operator)} {predicates : List Predicate}
    (known : ∀ entry ∈ available, ∀ name, entry.2 ≠ .unsupported name)
    (compiled : compileOperators field entries available = .ok predicates) :
    ∀ predicate ∈ predicates, predicate.Supported := by
  induction available generalizing predicates with
  | nil =>
      cases compiled
      simp
  | cons entry rest ih =>
      have others := fun other member => known other (List.mem_cons_of_mem entry member)
      rw [compileOperators] at compiled
      split at compiled
      · exact ih others compiled
      · simp only [Except.bind_eq_ok_iff, Except.pure_eq_ok_iff] at compiled
        rcases compiled with ⟨first, one, later, more, rfl⟩
        intro predicate member
        rcases List.mem_cons.mp member with rfl | old
        · intro name
          rw [operator_of_compileOperand one]
          exact known entry List.mem_cons_self name
        · exact ih others more predicate old

/-- The operators of a field are looked up one by one. -/
theorem compileOperators_congr {entries others : List (String × Json)}
    {available : List (String × Operator)}
    (same : ∀ entry ∈ available, others.lookup entry.1 = entries.lookup entry.1) (field : String) :
    compileOperators field others available = compileOperators field entries available := by
  induction available with
  | nil => rfl
  | cons entry rest ih =>
      rcases entry with ⟨key, operator⟩
      rw [compileOperators, compileOperators, same _ List.mem_cons_self,
        ih fun other member => same other (List.mem_cons_of_mem _ member)]

theorem supported_of_compileLiteral {field : String} {value : Json}
    {predicates : List Predicate} (compiled : compileLiteral field value = .ok predicates) :
    ∀ predicate ∈ predicates, predicate.Supported := by
  simp only [compileLiteral, Except.bind_eq_ok_iff, Except.pure_eq_ok_iff] at compiled
  rcases compiled with ⟨operand, _, rfl⟩
  intro predicate member name
  rw [List.mem_singleton.mp member]
  simp

theorem supported_of_compileField {strict : Bool} {field : String} {value : Json}
    {predicates : List Predicate} (compiled : compileField strict field value = .ok predicates) :
    ∀ predicate ∈ predicates, predicate.Supported := by
  unfold compileField at compiled
  split at compiled
  · split at compiled
    · rw [compileOperatorObject] at compiled
      split at compiled
      · cases compiled
      · exact supported_of_compileOperators
          (fun _ member => supported_of_mem_operators member) compiled
    · exact supported_of_compileLiteral compiled
  · exact supported_of_compileLiteral compiled

/-- What each field of a filter compiles to stands in the order of the fields. -/
theorem compileEntries_cons_eq_ok_iff {strict : Bool} {field : String} {content : Json}
    {entries : List (String × Json)} {predicates : List Predicate} :
    compileEntries strict ((field, content) :: entries) = .ok predicates ↔
      ∃ first later, compileField strict field content = .ok first ∧
        compileEntries strict entries = .ok later ∧ first ++ later = predicates := by
  simp only [compileEntries, Except.bind_eq_ok_iff, Except.pure_eq_ok_iff]
  constructor
  · rintro ⟨first, compiled, later, more, joined⟩
    exact ⟨first, later, compiled, more, joined⟩
  · rintro ⟨first, later, compiled, more, joined⟩
    exact ⟨first, compiled, later, more, joined⟩

theorem compile_literal (strict : Bool) (field : String) {value : Json} {operand : Value}
    (literal : isOperatorObject value = false) (decoded : value.decode = .ok operand) :
    compile strict (.object [(field, value)]) = .ok [{ field, operator := .eq, operand }] := by
  have compiled : compileLiteral field value = .ok [{ field, operator := .eq, operand }] := by
    rw [compileLiteral, decoded]
    rfl
  have chosen : compileField strict field value = compileLiteral field value := by
    cases value with
    | object entries => simp [compileField, literal]
    | null => rfl
    | bool => rfl
    | int => rfl
    | double => rfl
    | text => rfl
    | array => rfl
    | foreign => rfl
  simp only [compile, compileEntries, chosen, compiled]
  rfl

theorem supported_of_compileEntries {strict : Bool} {entries : List (String × Json)}
    {predicates : List Predicate} (compiled : compileEntries strict entries = .ok predicates) :
    ∀ predicate ∈ predicates, predicate.Supported := by
  induction entries generalizing predicates with
  | nil =>
      cases compiled
      simp
  | cons entry rest ih =>
      rcases compileEntries_cons_eq_ok_iff.mp compiled with ⟨first, later, one, more, rfl⟩
      intro predicate member
      rcases List.mem_append.mp member with new | old
      · exact supported_of_compileField one predicate new
      · exact ih more predicate old

theorem supported_of_compile {strict : Bool} {filters : Json} {predicates : List Predicate}
    (compiled : compile strict filters = .ok predicates) :
    ∀ predicate ∈ predicates, predicate.Supported := by
  unfold compile at compiled
  split at compiled
  · cases compiled
    simp
  · exact supported_of_compileEntries compiled
  · cases compiled

end Filter

namespace Store

variable {store : Store} {key objectId : Key}

/-- The names of the fields in the schema of a class; a class without a schema has none. -/
def knownFields (store : Store) (key : Key) : List String :=
  match store.schemas.lookup key with
  | some schema => Entries.keys schema.fields
  | none => []

/-- The records of a class, in the order of its table. -/
def recordsOf (store : Store) (key : Key) : List Record :=
  (store.tableOf key).map Prod.snd

/-- The records of a class that all predicates accept, in the order of its table. -/
def matching (store : Store) (key : Key) (predicates : List Predicate) : List Record :=
  (store.recordsOf key).filter fun record =>
    predicates.all (·.accepts (store.knownFields key) record)

@[simp]
theorem matching_nil (store : Store) (key : Key) :
    store.matching key [] = store.recordsOf key := by
  simp [matching]

theorem select_eq {className : Json} (keyed : className.key = .ok key)
    {predicates : List Predicate}
    (supported : ∀ predicate ∈ predicates, predicate.Supported) :
    store.select className predicates = .ok (store.matching key predicates) := by
  rw [select, keyed]
  change (Predicate.select predicates (store.knownFields key)
    (store.recordsOf key)).mapError Failure.rejected = _
  rw [Predicate.select_eq supported]
  rfl

/-- A page begins after the records that are skipped, and has as many as are wanted. -/
theorem page_eq {Item : Type} (items : List Item) (size : Option Nat) (skip : Nat) :
    page items (size.map Int.ofNat) skip =
      match size with
      | none => items.drop skip
      | some limit => (items.drop skip).take limit := by
  have start : ¬ (skip : Int) < 0 := by omega
  cases size with
  | none => simp [page, slice, start]
  | some limit =>
      have stop : ¬ (skip : Int) + (limit : Int) < 0 := by omega
      have position : ((skip : Int) + (limit : Int)).toNat = skip + limit := by omega
      simp only [page, slice, Option.map_some, Int.ofNat_eq_natCast, start, stop, ↓reduceIte,
        position, Int.toNat_natCast, List.drop_take, Nat.add_sub_cancel_left]

/-- A page of no given size has all that it can have. -/
theorem page_eq_take {Item : Type} (items : List Item) (size : Option Nat) (skip : Nat) :
    page items (size.map Int.ofNat) skip = (items.drop skip).take (size.getD items.length) := by
  rw [page_eq]
  cases size with
  | none =>
      have short : (items.drop skip).length ≤ items.length := by simp
      exact (List.take_of_length_le short).symm
  | some limit => rfl

theorem mem_recordsOf_of_mem_page {predicates : List Predicate} {size : Option Nat} {start : Nat}
    {record : Record}
    (member : record ∈ page (store.matching key predicates) (size.map Int.ofNat) start) :
    record ∈ store.recordsOf key := by
  rw [page_eq_take] at member
  exact List.mem_of_mem_filter (List.mem_of_mem_drop (List.mem_of_mem_take member))

theorem mem_recordsOf_iff (filedOnce : (Entries.keys (store.tableOf key)).Nodup)
    {record : Record} :
    record ∈ store.recordsOf key ↔ ∃ objectId, store.record? key objectId = some record := by
  rw [recordsOf, List.mem_map]
  constructor
  · rintro ⟨⟨objectId, _⟩, member, rfl⟩
    exact ⟨objectId, Entries.lookup_of_mem filedOnce member⟩
  · rintro ⟨objectId, found⟩
    exact ⟨(objectId, record), Entries.mem_of_lookup found, rfl⟩

/-- The record under an id is what the predicate on the id selects. -/
theorem matching_hasId (wellFormed : store.WellFormed) (key : Key) (objectId : String) :
    store.matching key [Predicate.hasId objectId] =
      (store.record? key (.text objectId)).toList := by
  have filed : ∀ entry ∈ store.tableOf key,
      [Predicate.hasId objectId].all (·.accepts (store.knownFields key) entry.2) =
        decide (entry.1 = .text objectId) := by
    rintro ⟨filedUnder, record⟩ member
    have found := Entries.lookup_of_mem (wellFormed.filedOnce key) member
    have identified := (wellFormed.records key filedUnder record found).identified
    simp [identified, Predicate.accepts_hasId, beq_eq_decide]
  rw [matching, recordsOf, List.filter_map, record?,
    ← Entries.map_filter_key (wellFormed.filedOnce key)]
  exact congrArg (List.map Prod.snd) (List.filter_congr filed)

end Store

end TypedRecords
