import TypedRecords.Proofs.RecordOrigins
import TypedRecords.Proofs.Selection
import TypedRecords.Proofs.TimestampOrder
import TypedRecords.Proofs.ValueOrder

/-!
# The moments of records as cursors

The moments of a record are rounded to the millisecond when they are written, so the texts that are
shown of them lose nothing: a filter with such a text is about the moment itself. And since the
texts sort as time passes, a range operator selects the records whose texts compare with it as the
operator says. So a reader that goes on from a text that it saw gets exactly the records with later
texts.
-/

namespace TypedRecords

namespace Moment

/-- The moment lies in the calendar, and is a whole number of milliseconds in universal time. -/
structure IsWhole (moment : Moment) : Prop where
  writable : moment.isWritable = true
  rounded : moment.truncated = moment

theorem isWhole_truncated {moment : Moment} (writable : moment.isWritable = true) :
    moment.truncated.IsWhole where
  writable := by
    have printed := (ofText?_of_timestamp? (timestamp?_of_isWritable writable)).2
    rw [timestamp?] at printed
    split at printed
    · assumption
    · cases printed
  rounded := by
    simp only [truncated]
    congr 1
    omega

/-- What is shown of a whole moment is read as the moment. -/
theorem IsWhole.ofText?_eq {moment : Moment} (whole : moment.IsWhole) {text : String}
    (printed : moment.timestamp? = some text) : ofText? text = some moment := by
  rw [(ofText?_of_timestamp? printed).1, whole.rounded]

end Moment

/-- The two moments that every record has. -/
inductive Milestone where
  | created
  | updated

namespace Milestone

/-- The name under which the moment is shown and matched. -/
def field : Milestone → String
  | .created => "createdAt"
  | .updated => "updatedAt"

/-- The moment that a record has for a milestone. -/
def momentOf : Milestone → Record → Moment
  | .created, record => record.createdAt
  | .updated, record => record.updatedAt

theorem value?_field (milestone : Milestone) (record : Record) :
    record.value? milestone.field = some (.date (milestone.momentOf record)) := by
  cases milestone <;> rfl

end Milestone

namespace Record

/-- Both moments of the record are whole. -/
def IsDated (record : Record) : Prop :=
  ∀ milestone : Milestone, (milestone.momentOf record).IsWhole

/-- The text of a moment of the record, which is the one in the wire form of the record. -/
structure Shows (record : Record) (milestone : Milestone) (text : String) : Prop where
  timestamp : timestamp (milestone.momentOf record) = .ok (.text text)
  encoded : ∀ entries, record.encode = .ok entries →
    entries.lookup milestone.field = some (.text text)

theorem timestamp_eq_ok_iff {moment : Moment} {text : String} :
    timestamp moment = .ok (.text text) ↔ moment.timestamp? = some text := by
  rw [timestamp]
  rcases moment.timestamp? with _ | written
  · simp
  · simp

variable {record : Record} {milestone : Milestone} {text : String}

theorem lookup_of_encode {entries : List (String × Json)} (encoded : record.encode = .ok entries)
    (written : timestamp (milestone.momentOf record) = .ok (.text text)) :
    entries.lookup milestone.field = some (.text text) := by
  simp only [encode, Except.bind_eq_ok_iff, Except.pure_eq_ok_iff] at encoded
  rcases encoded with ⟨fields, _, createdAt, first, updatedAt, last, access, _, rfl⟩
  rw [Entries.lookup_merge]
  cases milestone with
  | created =>
      cases first.symm.trans written
      rfl
  | updated =>
      cases last.symm.trans written
      rfl

theorem shows_iff :
    record.Shows milestone text ↔ (milestone.momentOf record).timestamp? = some text := by
  rw [← timestamp_eq_ok_iff]
  exact ⟨Shows.timestamp, fun written =>
    ⟨written, fun _ encoded => lookup_of_encode encoded written⟩⟩

theorem Shows.unique {other : String} (shows : record.Shows milestone text)
    (again : record.Shows milestone other) : text = other :=
  Option.some.inj ((shows_iff.mp shows).symm.trans (shows_iff.mp again))

theorem IsDated.exists_shows (dated : record.IsDated) (milestone : Milestone) :
    ∃ text, record.Shows milestone text :=
  ⟨_, shows_iff.mpr (Moment.timestamp?_of_isWritable (dated milestone).writable)⟩

end Record

/-- A request whose clock shows a moment of the calendar puts dated records over dated ones. -/
theorem Request.Puts.isDated {request : Request} {before : Option Record} {record : Record}
    (puts : request.Puts before record) (clocked : request.now.isWritable = true)
    (stood : ∀ existing ∈ before, existing.IsDated) : record.IsDated := by
  have now := Moment.isWhole_truncated clocked
  cases puts with
  | filed _ created updated =>
      intro milestone
      cases milestone with
      | created => rwa [Milestone.momentOf, created]
      | updated => rwa [Milestone.momentOf, updated]
  | rewritten existing decoded =>
      intro milestone
      cases milestone with
      | created => exact stood existing rfl .created
      | updated => exact now

/-- How an operator orders two things; operators that are no range operators do not. -/
def Operator.Orders {Item : Type} [LT Item] [LE Item] (operator : Operator) (left right : Item) :
    Prop :=
  match operator with
  | .lt => left < right
  | .lte => left ≤ right
  | .gt => right < left
  | .gte => right ≤ left
  | _ => False

namespace Moment

variable {first second : Moment} {text other : String}

/-- The texts of whole moments are ordered as their instants are. -/
theorem orders_timestamp_iff (whole : first.IsWhole) (alsoWhole : second.IsWhole)
    (printed : first.timestamp? = some text) (alsoPrinted : second.timestamp? = some other)
    (operator : Operator) :
    operator.Orders text other ↔ operator.Orders first.instant second.instant := by
  have less := timestamp_lt_iff printed alsoPrinted
  have greater := timestamp_lt_iff alsoPrinted printed
  rw [whole.rounded, alsoWhole.rounded] at less greater
  cases operator with
  | lt => exact less
  | gt => exact greater
  | lte =>
      rw [Operator.Orders, Operator.Orders, ← String.not_lt, ← Int.not_lt]
      exact not_congr greater
  | gte =>
      rw [Operator.Orders, Operator.Orders, ← String.not_lt, ← Int.not_lt]
      exact not_congr less
  | eq | ne | among | unsupported => rfl

theorem eq_timestamp_iff (whole : first.IsWhole) (alsoWhole : second.IsWhole)
    (printed : first.timestamp? = some text) (alsoPrinted : second.timestamp? = some other) :
    text = other ↔ first.instant = second.instant := by
  rw [timestamp_eq_iff printed alsoPrinted, whole.rounded, alsoWhole.rounded]

end Moment

namespace Scalar

theorem relates_date_iff {operator : Operator} (range : operator ∈ Operator.ranges)
    (left right : Int) :
    (date left).Relates operator (.date right) ↔ operator.Orders left right := by
  have before : ∀ first second : Int, (date first).Before (.date second) ↔ first < second := by
    intro first second
    refine ⟨?_, Before.date⟩
    rintro ⟨⟩
    assumption
  simp only [Operator.ranges, List.mem_cons, List.not_mem_nil, or_false] at range
  rcases range with rfl | rfl | rfl | rfl
  · simp [Relates, Operator.Orders, before]
  · simp [Relates, Operator.Orders, before]
  · simp only [Relates, Operator.Orders, before, date.injEq]
    omega
  · simp only [Relates, Operator.Orders, before, date.injEq]
    omega

end Scalar

namespace Predicate

theorem holds_range_date_iff {record : Record} {known : List String} {operator : Operator}
    (range : operator ∈ Operator.ranges) (milestone : Milestone) (moment : Moment) :
    holds ⟨milestone.field, operator, .date moment⟩ record known = .ok true ↔
      operator.Orders (milestone.momentOf record).instant moment.instant := by
  rw [holds_of_value (milestone.value?_field record), holdsFor_range_iff range,
    ← Scalar.relates_date_iff range]
  constructor
  · rintro ⟨_, first, second, scalar, otherScalar, related⟩
    cases scalar
    cases otherScalar
    exact related
  · exact fun related => ⟨⟨.date, rfl, rfl⟩, _, _, rfl, rfl, related⟩

theorem holds_eq_date_iff {record : Record} {known : List String} (milestone : Milestone)
    (moment : Moment) :
    holds ⟨milestone.field, .eq, .date moment⟩ record known = .ok true ↔
      (milestone.momentOf record).instant = moment.instant := by
  have equal : (Value.date (milestone.momentOf record)).matchesOperand (.date moment) = true ↔
      Scalar.date (milestone.momentOf record).instant = .date moment.instant :=
    Value.matchesOperand_of_scalar rfl rfl rfl
  rw [holds_of_value (milestone.value?_field record), holdsFor, Except.ok.injEq, equal,
    Scalar.date.injEq]

end Predicate

/-- The wire form of the date that a text denotes. -/
def Json.dated (text : String) : Json :=
  .object [(tagKey, .text "Date"), ("iso", .text text)]

theorem Json.decode_dated {text : String} {moment : Moment}
    (read : Moment.ofText? text = some moment) : (dated text).decode = .ok (.date moment) := by
  simp [dated, decode, tagKey, decodeTagged, decodeDate, List.lookup_cons, read]

namespace Filter

variable {key : String} {operator : Operator} {raw : Json} {field : String}
  {available : List (String × Operator)}

theorem compileOperators_of_not_mem (field : String) (raw : Json)
    (absent : key ∉ Entries.keys available) :
    compileOperators field [(key, raw)] available = .ok [] := by
  induction available with
  | nil => rfl
  | cons entry rest ih =>
      simp only [Entries.keys, List.map_cons, List.mem_cons, not_or] at absent
      have unequal : (entry.1 == key) = false := beq_false_of_ne (Ne.symm absent.1)
      rw [compileOperators, List.lookup_cons, unequal]
      exact ih absent.2

/-- A single operator compiles to its predicate, for it is found in the table only once. -/
theorem compileOperators_single {predicate : Predicate}
    (distinct : (Entries.keys available).Nodup) (known : (key, operator) ∈ available)
    (compiled : compileOperand field operator raw = .ok predicate) :
    compileOperators field [(key, raw)] available = .ok [predicate] := by
  induction available with
  | nil => cases known
  | cons entry rest ih =>
      rw [Entries.keys, List.map_cons, List.nodup_cons] at distinct
      rcases List.mem_cons.mp known with rfl | later
      · have none := compileOperators_of_not_mem field raw distinct.1
        simp only [compileOperators, List.lookup_cons_self, compiled, none]
        rfl
      · have unequal : (entry.1 == key) = false := by
          apply beq_false_of_ne
          rintro rfl
          exact distinct.1 (List.mem_map.mpr ⟨_, later, rfl⟩)
        rw [compileOperators, List.lookup_cons, unequal]
        exact ih distinct.2 later

/-- An operator that takes any operand compiles to one predicate. -/
theorem compile_operator (known : (key, operator) ∈ operators) (single : operator ≠ .among)
    (strict : Bool) (field : String) {operand : Value} (decoded : raw.decode = .ok operand) :
    compile strict (.object [(field, .object [(key, raw)])]) =
      .ok [{ field, operator, operand }] := by
  have keyed : isOperatorKey key = true := by
    simpa [isOperatorKey, Entries.hasKey, Entries.keys] using ⟨operator, known⟩
  have untagged : isOperatorObject (.object [(key, raw)]) = true := by
    have different : Json.tagKey ≠ key := by
      rintro rfl
      exact absurd keyed (by decide)
    simp [isOperatorObject, Json.isTagged, List.lookup_cons, beq_false_of_ne different]
  have accepted : unknownKeys [(key, raw)] = [] := by
    simp [unknownKeys, Entries.keys, keyed]
  have one : compileOperand field operator raw = .ok { field, operator, operand } := by
    simp [compileOperand, decoded, bind, Except.bind, single, pure, Except.pure]
  have compiled := compileOperators_single (by decide) known one
  simp [compile, compileEntries, compileField, untagged, compileOperatorObject, accepted, compiled,
    bind, Except.bind, pure, Except.pure]

end Filter

/-- An operator orders a thing with itself if it is one of the two weak ones. -/
theorem Operator.orders_self_iff (operator : Operator) (text : String) :
    operator.Orders text text ↔ operator = .gte ∨ operator = .lte := by
  cases operator with
  | lt | gt => exact iff_of_false (String.lt_irrefl text) (by simp)
  | lte | gte => exact iff_of_true (String.le_refl text) (by simp)
  | eq | ne | among | unsupported => exact iff_of_false id (by simp)

namespace Store

variable {store : Store} {className : String} {filters : Json} {predicate : Predicate}
  {milestone : Milestone} {record : Record} {text : String}

/-- After requests whose clocks show moments of the calendar all records are dated. -/
theorem isDated_after {requests : List Request}
    (clocked : ∀ request ∈ requests, request.now.isWritable = true) :
    (({} : Store).after requests).AllRecords Record.IsDated :=
  (allRecords_empty _).after .empty fun request member _ _ puts stood =>
    puts.isDated (clocked request member) stood

/-- A filter, compiled strictly or not, selects some records of a class. -/
def Filtered (store : Store) (className : String) (filters : Json) (records : List Record) : Prop :=
  ∃ predicates, (∀ strict, Filter.compile strict filters = .ok predicates) ∧
    store.query (.text className) predicates none 0 = .ok records

theorem filtered_matching
    (compiled : ∀ strict, Filter.compile strict filters = .ok [predicate]) :
    store.Filtered className filters (store.matching (.text className) [predicate]) := by
  refine ⟨[predicate], compiled, ?_⟩
  rw [query, select_eq rfl (Filter.supported_of_compile (compiled true))]
  exact congrArg Except.ok (page_eq _ none 0)

theorem mem_matching_iff {key : Key} :
    record ∈ store.matching key [predicate] ↔
      record ∈ store.recordsOf key ∧
        predicate.holds record (store.knownFields key) = .ok true := by
  rw [matching, List.mem_filter, List.all_cons, List.all_nil, Bool.and_true,
    Predicate.accepts_eq_true_iff]

section Dated

variable (dated : ∀ record ∈ store.recordsOf (.text className), record.IsDated)
  (member : record ∈ store.recordsOf (.text className)) (shows : record.Shows milestone text)

include dated member shows

/-- A range operator with the text of a record selects the records whose texts it orders so. -/
theorem exists_filtered_range {key : String} {operator : Operator}
    (known : (key, operator) ∈ Filter.operators) (range : operator ∈ Operator.ranges) :
    ∃ records, store.Filtered className
        (.object [(milestone.field, .object [(key, .dated text)])]) records ∧
      ∀ other, other ∈ records ↔ other ∈ store.recordsOf (.text className) ∧
        ∃ shown, other.Shows milestone shown ∧ operator.Orders shown text := by
  have whole := dated record member milestone
  have single : operator ≠ .among := by
    rintro rfl
    exact absurd range (by decide)
  have decoded := Json.decode_dated (whole.ofText?_eq (Record.shows_iff.mp shows))
  refine ⟨_, filtered_matching fun strict =>
    Filter.compile_operator known single strict milestone.field decoded, ?_⟩
  intro other
  rw [mem_matching_iff, Predicate.holds_range_date_iff range]
  refine and_congr_right fun present => ?_
  have alsoWhole := dated other present milestone
  constructor
  · intro ordered
    rcases (dated other present).exists_shows milestone with ⟨shown, otherShows⟩
    exact ⟨shown, otherShows, (Moment.orders_timestamp_iff alsoWhole whole
      (Record.shows_iff.mp otherShows) (Record.shows_iff.mp shows) operator).mpr ordered⟩
  · rintro ⟨shown, otherShows, ordered⟩
    exact (Moment.orders_timestamp_iff alsoWhole whole (Record.shows_iff.mp otherShows)
      (Record.shows_iff.mp shows) operator).mp ordered

/-- The text of a record as a literal selects the records that show the same text. -/
theorem exists_filtered_literal :
    ∃ records, store.Filtered className (.object [(milestone.field, .dated text)]) records ∧
      ∀ other, other ∈ records ↔ other ∈ store.recordsOf (.text className) ∧
        other.Shows milestone text := by
  have whole := dated record member milestone
  have decoded := Json.decode_dated (whole.ofText?_eq (Record.shows_iff.mp shows))
  refine ⟨_, filtered_matching fun strict =>
    Filter.compile_literal strict milestone.field rfl decoded, ?_⟩
  intro other
  rw [mem_matching_iff, Predicate.holds_eq_date_iff]
  refine and_congr_right fun present => ?_
  have alsoWhole := dated other present milestone
  constructor
  · intro same
    rcases (dated other present).exists_shows milestone with ⟨shown, otherShows⟩
    have equal := (Moment.eq_timestamp_iff alsoWhole whole (Record.shows_iff.mp otherShows)
      (Record.shows_iff.mp shows)).mpr same
    exact equal ▸ otherShows
  · intro otherShows
    exact (Moment.eq_timestamp_iff alsoWhole whole (Record.shows_iff.mp otherShows)
      (Record.shows_iff.mp shows)).mp rfl

end Dated

/-- The texts that are shown of when records were created or last written are exact cursors, in
every store that requests lead to whose clocks show moments of the calendar. Each record of a class
shows such a text. A range operator with the text of one of them selects the records whose texts it
orders so, as texts; and the text as a literal selects the records that show the same. So the record
itself is selected by the weak operators and by the literal, and not by the strict ones. -/
theorem timestamps_are_cursors {requests : List Request}
    (clocked : ∀ request ∈ requests, request.now.isWritable = true) (className : String)
    (milestone : Milestone) {record : Record}
    (member : record ∈ (({} : Store).after requests).recordsOf (.text className)) :
    ∃ text, record.Shows milestone text ∧
      (∀ key operator, (key, operator) ∈ Filter.operators → operator ∈ Operator.ranges →
        ∃ records, (({} : Store).after requests).Filtered className
            (.object [(milestone.field, .object [(key, .dated text)])]) records ∧
          (∀ other, other ∈ records ↔
            other ∈ (({} : Store).after requests).recordsOf (.text className) ∧
              ∃ shown, other.Shows milestone shown ∧ operator.Orders shown text) ∧
          (record ∈ records ↔ operator = .gte ∨ operator = .lte)) ∧
      ∃ records, (({} : Store).after requests).Filtered className
          (.object [(milestone.field, .dated text)]) records ∧
        (∀ other, other ∈ records ↔
          other ∈ (({} : Store).after requests).recordsOf (.text className) ∧
            other.Shows milestone text) ∧
        record ∈ records := by
  have wellFormed := WellFormed.empty.after requests
  have all := isDated_after clocked
  generalize ({} : Store).after requests = store at *
  have dated : ∀ record ∈ store.recordsOf (.text className), record.IsDated := by
    intro record member
    rcases (mem_recordsOf_iff (wellFormed.filedOnce _)).mp member with ⟨objectId, found⟩
    exact all _ _ record found
  rcases (dated record member).exists_shows milestone with ⟨text, shows⟩
  refine ⟨text, shows, ?_, ?_⟩
  · intro key operator known range
    rcases exists_filtered_range dated member shows known range with ⟨records, filtered, selects⟩
    refine ⟨records, filtered, selects, ?_⟩
    rw [selects, and_iff_right member, ← operator.orders_self_iff text]
    constructor
    · rintro ⟨shown, again, ordered⟩
      cases again.unique shows
      exact ordered
    · exact fun ordered => ⟨text, shows, ordered⟩
  · rcases exists_filtered_literal dated member shows with ⟨records, filtered, selects⟩
    exact ⟨records, filtered, selects, (selects record).mpr ⟨member, shows⟩⟩

/-- Requests for three records, the first two within one millisecond. -/
def filingThrice : List Request :=
  let filingAt (instant : Int) (objectId : String) : Request :=
    .asking {} { instant, offset := 0 } { listed := [objectId] } "createRecord"
      [("className", .text "A"), ("data", .object [])]
  [filingAt 1500 "a", filingAt 1999 "b", filingAt 2000 "c"]

/-- The record that is filed under an id at an instant. -/
def filedAt (instant : Int) (objectId : String) : Record :=
  { className := "A", objectId, fields := [], access := .everyone
    createdAt := { instant, offset := 0 }, updatedAt := { instant, offset := 0 } }

/-- The text of the first record selects the second one as a literal, and only the third one with
the operator for what comes after it. -/
theorem first_of_three_cursor :
    (∀ request ∈ filingThrice, request.now.isWritable = true) ∧
      filedAt 1000 "a" ∈ (({} : Store).after filingThrice).recordsOf (.text "A") ∧
      ∃ text, (filedAt 1000 "a").Shows .created text ∧
        (∃ records, (({} : Store).after filingThrice).Filtered "A"
            (.object [("createdAt", .object [("$gt", .dated text)])]) records ∧
          filedAt 1000 "b" ∉ records ∧ filedAt 2000 "c" ∈ records) ∧
        ∃ records, (({} : Store).after filingThrice).Filtered "A"
            (.object [("createdAt", .dated text)]) records ∧
          filedAt 1000 "b" ∈ records ∧ filedAt 2000 "c" ∉ records := by
  have clocked : ∀ request ∈ filingThrice, request.now.isWritable = true := by
    intro request member
    simp only [filingThrice, List.mem_cons, List.not_mem_nil, or_false] at member
    rcases member with rfl | rfl | rfl <;> decide +kernel
  have stored : (({} : Store).after filingThrice).recordsOf (.text "A") =
      [filedAt 1000 "a", filedAt 1000 "b", filedAt 2000 "c"] := rfl
  have member : filedAt 1000 "a" ∈ (({} : Store).after filingThrice).recordsOf (.text "A") := by
    simp [stored]
  have first : ∀ objectId, (filedAt 1000 objectId).Shows .created "0001-01-01T00:00:00.001Z" :=
    fun _ => Record.shows_iff.mpr (show Moment.timestamp? ⟨1000, 0⟩ = _ by decide +kernel)
  have third : (filedAt 2000 "c").Shows .created "0001-01-01T00:00:00.002Z" :=
    Record.shows_iff.mpr (by decide +kernel)
  rcases timestamps_are_cursors clocked "A" .created member with ⟨text, shows, ranges, literal⟩
  cases shows.unique (first "a")
  refine ⟨clocked, member, _, shows, ?_, ?_⟩
  · rcases ranges "$gt" .gt (by decide) (by decide) with ⟨records, filtered, selects, _⟩
    refine ⟨records, filtered, ?_, ?_⟩
    · rw [selects]
      rintro ⟨_, shown, again, later⟩
      cases again.unique (first "b")
      exact String.lt_irrefl _ later
    · have later : "0001-01-01T00:00:00.001Z" < "0001-01-01T00:00:00.002Z" := by decide
      exact (selects _).mpr ⟨by simp [stored], _, third, later⟩
  · rcases literal with ⟨records, filtered, selects, _⟩
    refine ⟨records, filtered, (selects _).mpr ⟨by simp [stored], first "b"⟩, ?_⟩
    rw [selects]
    rintro ⟨_, again⟩
    exact absurd (again.unique third) (by decide)

end Store

end TypedRecords
