import TypedRecords.Filter.Predicate
import TypedRecords.Proofs.Codec
import TypedRecords.Proofs.Reading

/-!
# Values as answers show them

An answer shows a value with its dates rounded down to the millisecond, and with null in the place
of every number that is not finite. What is shown is read back as `Value.shown`. It matches the
value itself exactly if nothing was lost: every date is a whole number of milliseconds, and every
number is finite. For objects this needs that no key occurs twice, because entries are compared by
their keys.
-/

namespace TypedRecords

namespace Json

mutual

/-- The value can be written as a text: no host value is in it, and no object has a key twice. -/
def isWellFormed : Json → Bool
  | .array items => itemsWellFormed items
  | .object entries => decide (Entries.keys entries).Nodup && entriesWellFormed entries
  | .foreign _ => false
  | _ => true

/-- Whether every item of an array is well formed. -/
def itemsWellFormed : List Json → Bool
  | [] => true
  | item :: rest => isWellFormed item && itemsWellFormed rest

/-- Whether every content of an object is well formed. -/
def entriesWellFormed : List (String × Json) → Bool
  | [] => true
  | (_, content) :: rest => isWellFormed content && entriesWellFormed rest

end

theorem itemsWellFormed_iff {items : List Json} :
    itemsWellFormed items = true ↔ ∀ item ∈ items, item.isWellFormed = true := by
  induction items with
  | nil => simp [itemsWellFormed]
  | cons item rest ih => simp [itemsWellFormed, ih]

theorem entriesWellFormed_iff {entries : List (String × Json)} :
    entriesWellFormed entries = true ↔ ∀ entry ∈ entries, entry.2.isWellFormed = true := by
  induction entries with
  | nil => simp [entriesWellFormed]
  | cons entry rest ih => simp [entriesWellFormed, ih]

end Json

namespace Value

mutual

/-- No object in the value has a key twice. -/
def hasDistinctKeys : Value → Bool
  | .array items => itemsHaveDistinctKeys items
  | .object entries => decide (Entries.keys entries).Nodup && entriesHaveDistinctKeys entries
  | _ => true

/-- Whether no object inside the items of an array repeats a key. -/
def itemsHaveDistinctKeys : List Value → Bool
  | [] => true
  | item :: rest => hasDistinctKeys item && itemsHaveDistinctKeys rest

/-- Whether no object inside the contents of an object repeats a key. -/
def entriesHaveDistinctKeys : List (String × Value) → Bool
  | [] => true
  | (_, content) :: rest => hasDistinctKeys content && entriesHaveDistinctKeys rest

end

mutual

/-- The value that is read from what an answer shows of a value. -/
def shown : Value → Value
  | .double value => if value.isFinite then .double value else .null
  | .date moment => .date moment.truncated
  | .array items => .array (shownItems items)
  | .object entries => .object (shownEntries entries)
  | value => value

/-- The items of an array as they are shown. -/
def shownItems : List Value → List Value
  | [] => []
  | item :: rest => shown item :: shownItems rest

/-- The entries of an object as they are shown. -/
def shownEntries : List (String × Value) → List (String × Value)
  | [] => []
  | (key, content) :: rest => (key, shown content) :: shownEntries rest

end

mutual

/-- Nothing of the value is lost when it is shown: every number in it is finite, and every date is a
whole number of milliseconds. -/
def isExact : Value → Bool
  | .double value => value.isFinite
  | .date moment => moment.instant % 1000 == 0
  | .array items => itemsExact items
  | .object entries => entriesExact entries
  | _ => true

/-- Whether every item of an array is shown exactly. -/
def itemsExact : List Value → Bool
  | [] => true
  | item :: rest => isExact item && itemsExact rest

/-- Whether every content of an object is shown exactly. -/
def entriesExact : List (String × Value) → Bool
  | [] => true
  | (_, content) :: rest => isExact content && entriesExact rest

end

end Value

namespace Json

open Value

mutual

theorem hasDistinctKeys_of_decode : ∀ (raw : Json) {value : Value}, raw.isWellFormed = true →
    raw.decode = .ok value → value.hasDistinctKeys = true
  | .null, _, _, rfl => rfl
  | .bool _, _, _, rfl => rfl
  | .int _, _, _, rfl => rfl
  | .double _, _, _, rfl => rfl
  | .text _, _, _, rfl => rfl
  | .foreign _, _, _, rfl => rfl
  | .array items, value, proper, done => by
      simp only [decode, Except.bind_eq_ok_iff, Except.pure_eq_ok_iff] at done
      rcases done with ⟨values, decoded, rfl⟩
      exact itemsHaveDistinctKeys_of_decodeItems items proper decoded
  | .object entries, value, proper, done => by
      rcases decode_object_eq_ok done with ⟨_, rfl⟩ | ⟨_, rfl⟩ | ⟨values, rfl, decoded, _⟩
      · rfl
      · rfl
      · rw [isWellFormed, Bool.and_eq_true, ← keys_decodeEntries decoded] at proper
        rw [hasDistinctKeys, Bool.and_eq_true]
        exact ⟨proper.1, entriesHaveDistinctKeys_of_decodeEntries entries proper.2 decoded⟩

theorem itemsHaveDistinctKeys_of_decodeItems : ∀ (items : List Json) {values : List Value},
    itemsWellFormed items = true → decodeItems items = .ok values →
      itemsHaveDistinctKeys values = true
  | [], _, _, rfl => rfl
  | item :: rest, values, proper, done => by
      simp only [decodeItems, Except.bind_eq_ok_iff, Except.pure_eq_ok_iff] at done
      rcases done with ⟨first, decoded, others, more, rfl⟩
      rw [itemsWellFormed, Bool.and_eq_true] at proper
      rw [itemsHaveDistinctKeys, Bool.and_eq_true]
      exact ⟨hasDistinctKeys_of_decode item proper.1 decoded,
        itemsHaveDistinctKeys_of_decodeItems rest proper.2 more⟩

theorem entriesHaveDistinctKeys_of_decodeEntries : ∀ (entries : List (String × Json))
    {values : List (String × Value)}, entriesWellFormed entries = true →
      decodeEntries entries = .ok values → entriesHaveDistinctKeys values = true
  | [], _, _, rfl => rfl
  | (key, content) :: rest, values, proper, done => by
      simp only [decodeEntries, Except.bind_eq_ok_iff, Except.pure_eq_ok_iff] at done
      rcases done with ⟨first, decoded, others, more, rfl⟩
      rw [entriesWellFormed, Bool.and_eq_true] at proper
      rw [entriesHaveDistinctKeys, Bool.and_eq_true]
      exact ⟨hasDistinctKeys_of_decode content proper.1 decoded,
        entriesHaveDistinctKeys_of_decodeEntries rest proper.2 more⟩

end

end Json

namespace Answer

theorem lookup_sendableEntries (entries : List (String × Json)) (key : String) :
    (sendableEntries entries).lookup key = (entries.lookup key).map sendable := by
  induction entries with
  | nil => rfl
  | cons entry rest ih =>
      rcases entry with ⟨present, content⟩
      rw [sendableEntries, List.lookup_cons, List.lookup_cons, ih]
      cases key == present with
      | true => rfl
      | false => rfl

end Answer

namespace Value

theorem lookup_shownEntries (entries : List (String × Value)) (key : String) :
    (shownEntries entries).lookup key = (entries.lookup key).map shown := by
  induction entries with
  | nil => rfl
  | cons entry rest ih =>
      rcases entry with ⟨present, content⟩
      rw [shownEntries, List.lookup_cons, List.lookup_cons, ih]
      cases key == present with
      | true => rfl
      | false => rfl

@[simp]
theorem length_shownEntries (entries : List (String × Value)) :
    (shownEntries entries).length = entries.length := by
  induction entries with
  | nil => rfl
  | cons entry rest ih => simp [shownEntries, ih]

theorem lookup_encodeEntries {entries : List (String × Value)} {wires : List (String × Json)}
    (done : encodeEntries entries = .ok wires) {key : String} {value : Value}
    (found : entries.lookup key = some value) :
    ∃ wire, wires.lookup key = some wire ∧ value.encode = .ok wire := by
  induction entries generalizing wires with
  | nil => cases found
  | cons entry rest ih =>
      rcases entry with ⟨present, content⟩
      simp only [encodeEntries, Except.bind_eq_ok_iff, Except.pure_eq_ok_iff] at done
      rcases done with ⟨first, encoded, others, more, rfl⟩
      rw [List.lookup_cons] at found ⊢
      cases same : key == present with
      | true =>
          rw [same] at found
          cases found
          exact ⟨first, rfl, encoded⟩
      | false =>
          rw [same] at found
          exact ih more found

mutual

/-- What an answer shows of a value is read as the shown value. Because no object of the value has
the key of the tag, what is shown of it is read entry by entry. -/
theorem decode_sendable_of_encode : ∀ (value : Value) {wire : Json}, value.isTagFree = true →
    value.encode = .ok wire → (Answer.sendable wire).decode = .ok value.shown
  | .null, _, _, rfl => rfl
  | .bool _, _, _, rfl => rfl
  | .int _, _, _, rfl => rfl
  | .text _, _, _, rfl => rfl
  | .foreign _, _, _, rfl => rfl
  | .pointer _, _, _, rfl => rfl
  | .double value, _, _, rfl => by
      rw [Answer.sendable, shown]
      cases value.isFinite with
      | true => rfl
      | false => rfl
  | .date moment, wire, _, done => by
      rw [encode] at done
      have decoded := (decode_of_encodeDate done).1
      rw [encodeDate] at done
      split at done
      · cases done
        exact decoded
      · cases done
  | .array items, wire, free, done => by
      simp only [encode, Except.bind_eq_ok_iff, Except.pure_eq_ok_iff] at done
      rcases done with ⟨wires, encoded, rfl⟩
      rw [Answer.sendable, Json.decode, decodeItems_sendableItems items free encoded]
      rfl
  | .object entries, wire, free, done => by
      simp only [encode, Except.bind_eq_ok_iff, Except.pure_eq_ok_iff] at done
      rcases done with ⟨wires, encoded, rfl⟩
      simp only [isTagFree, Entries.hasKey, Bool.and_eq_true, Bool.not_eq_true',
        List.contains_eq_mem, decide_eq_false_iff_not] at free
      rcases free with ⟨untagged, free⟩
      have absent : wires.lookup Json.tagKey = none := by
        rw [← Option.not_isSome_iff_eq_none, Entries.lookup_isSome_iff, keys_encodeEntries encoded]
        exact untagged
      rw [Answer.sendable, Json.decode, Answer.lookup_sendableEntries, absent, Option.map_none,
        decodeEntries_sendableEntries entries free encoded]
      rfl

theorem decodeItems_sendableItems : ∀ (items : List Value) {wires : List Json},
    itemsTagFree items = true → encodeItems items = .ok wires →
      Json.decodeItems (Answer.sendableItems wires) = .ok (shownItems items)
  | [], _, _, rfl => rfl
  | item :: rest, wires, free, done => by
      simp only [encodeItems, Except.bind_eq_ok_iff, Except.pure_eq_ok_iff] at done
      rcases done with ⟨first, encoded, others, more, rfl⟩
      rw [itemsTagFree, Bool.and_eq_true] at free
      rw [Answer.sendableItems, Json.decodeItems, decode_sendable_of_encode item free.1 encoded,
        decodeItems_sendableItems rest free.2 more]
      rfl

theorem decodeEntries_sendableEntries : ∀ (entries : List (String × Value))
    {wires : List (String × Json)}, entriesTagFree entries = true →
      encodeEntries entries = .ok wires →
        Json.decodeEntries (Answer.sendableEntries wires) = .ok (shownEntries entries)
  | [], _, _, rfl => rfl
  | (key, content) :: rest, wires, free, done => by
      simp only [encodeEntries, Except.bind_eq_ok_iff, Except.pure_eq_ok_iff] at done
      rcases done with ⟨first, encoded, others, more, rfl⟩
      rw [entriesTagFree, Bool.and_eq_true] at free
      rw [Answer.sendableEntries, Json.decodeEntries,
        decode_sendable_of_encode content free.1 encoded,
        decodeEntries_sendableEntries rest free.2 more]
      rfl

end

/-- A number that is finite is the same number as itself, and no other is the same as null. -/
theorem same_shown_double (value : Double) :
    same (.double value) (shown (.double value)) = value.isFinite := by
  cases value with
  | finite negative significand exponent => simp [shown, Double.isFinite, same, sameNumber,
      quantity?, Double.quantity?]
  | infinite => rfl
  | undefined => rfl

theorem same_shown_date (moment : Moment) :
    same (.date moment) (shown (.date moment)) = (moment.instant % 1000 == 0) := by
  have rounded : moment.truncated.instant = moment.instant / 1000 * 1000 := rfl
  rw [shown, same, Bool.eq_iff_iff, beq_iff_eq, beq_iff_eq, rounded]
  omega

mutual

/-- A value has the same contents as what is shown of it exactly if nothing is lost. -/
theorem same_shown : ∀ value : Value, value.hasDistinctKeys = true →
    same value value.shown = value.isExact
  | .null, _ => rfl
  | .bool _, _ => by simp [shown, same, sameNumber, quantity?, isExact]
  | .int _, _ => by simp [shown, same, sameNumber, quantity?, isExact]
  | .double value, _ => same_shown_double value
  | .text _, _ => by simp [shown, same, isExact]
  | .date moment, _ => same_shown_date moment
  | .pointer _, _ => by simp [shown, same, isExact]
  | .foreign _, _ => by simp [shown, same, isExact]
  | .array items, distinct => same_shownItems items distinct
  | .object entries, distinct => by
      rw [hasDistinctKeys, Bool.and_eq_true, decide_eq_true_eq] at distinct
      have listed : ∀ entry ∈ entries,
          (shownEntries entries).lookup entry.1 = some entry.2.shown := by
        intro entry member
        rw [lookup_shownEntries, Entries.lookup_of_mem distinct.1 member]
        rfl
      rw [shown, same, isExact, length_shownEntries, beq_self_eq_true, Bool.true_and]
      exact same_shownEntries entries distinct.2 listed

theorem same_shownItems : ∀ items : List Value, itemsHaveDistinctKeys items = true →
    sameItems items (shownItems items) = itemsExact items
  | [], _ => rfl
  | item :: rest, distinct => by
      rw [itemsHaveDistinctKeys, Bool.and_eq_true] at distinct
      rw [shownItems, sameItems, itemsExact, same_shown item distinct.1,
        same_shownItems rest distinct.2]

/-- Entries are compared with all entries of the other side, where each is found by its key. -/
theorem same_shownEntries : ∀ (entries : List (String × Value)) {others : List (String × Value)},
    entriesHaveDistinctKeys entries = true →
      (∀ entry ∈ entries, others.lookup entry.1 = some entry.2.shown) →
        sameEntries entries others = entriesExact entries
  | [], _, _, _ => rfl
  | (key, content) :: rest, others, distinct, listed => by
      rw [entriesHaveDistinctKeys, Bool.and_eq_true] at distinct
      have found : others.lookup key = some content.shown := listed _ List.mem_cons_self
      have later := fun entry member => listed entry (List.mem_cons_of_mem _ member)
      simp only [sameEntries, found, entriesExact, same_shown content distinct.1,
        same_shownEntries rest distinct.2 later]

end

theorem isBool_shown (value : Value) : value.shown.isBool = value.isBool := by
  cases value with
  | double value =>
      rw [shown]
      split
      · rfl
      · rfl
  | null => rfl
  | bool => rfl
  | int => rfl
  | text => rfl
  | date => rfl
  | pointer => rfl
  | array => rfl
  | object => rfl
  | foreign => rfl

/-- A value matches what is shown of it exactly if nothing is lost. An array shown as an array is
not looked for among its own elements. -/
theorem matchesOperand_shown {value : Value} (distinct : value.hasDistinctKeys = true) :
    value.matchesOperand value.shown = value.isExact := by
  have equal : value.equals value.shown = value.isExact := by
    rw [equals, isBool_shown, beq_self_eq_true, Bool.true_and, same_shown value distinct]
  unfold matchesOperand
  rw [equal]
  cases value with
  | array items => simp [shown, isArray]
  | null => rfl
  | bool => rfl
  | int => rfl
  | double => exact Bool.or_false _
  | text => rfl
  | date => exact Bool.or_false _
  | pointer => rfl
  | object => exact Bool.or_false _
  | foreign => rfl

end Value

end TypedRecords
