import TypedRecords.Proofs.Decoding
import TypedRecords.Proofs.Timestamp
import TypedRecords.Proofs.Writable

/-!
# The wire form is settled after one pass

Encoding what was decoded loses the offsets of dates and what lies below the millisecond, and
nothing else; a second pass loses nothing more. This rests on two facts: the timestamp of a date is
read as the date rounded down, and no object that was decoded has the key of tags, so that what was
no tagged object is not taken for one later.
-/

namespace TypedRecords

namespace Value

mutual

/-- No object in the value has the key of tags. -/
def isTagFree : Value → Bool
  | .array items => itemsTagFree items
  | .object entries => !Entries.hasKey entries Json.tagKey && entriesTagFree entries
  | _ => true

/-- No object in the values has the key of tags. -/
def itemsTagFree : List Value → Bool
  | [] => true
  | item :: rest => isTagFree item && itemsTagFree rest

/-- No object in the contents of the entries has the key of tags. -/
def entriesTagFree : List (String × Value) → Bool
  | [] => true
  | (_, content) :: rest => isTagFree content && entriesTagFree rest

end

mutual

/-- The value with every date rounded down to the millisecond, in universal time. -/
def settled : Value → Value
  | .date moment => .date moment.truncated
  | .array items => .array (settledItems items)
  | .object entries => .object (settledEntries entries)
  | value => value

/-- The values with every date rounded down. -/
def settledItems : List Value → List Value
  | [] => []
  | item :: rest => settled item :: settledItems rest

/-- The entries with every date in their contents rounded down. -/
def settledEntries : List (String × Value) → List (String × Value)
  | [] => []
  | (key, content) :: rest => (key, settled content) :: settledEntries rest

end

end Value

namespace Json

open Value

mutual

theorem isTagFree_of_decode : ∀ (raw : Json) {value : Value}, raw.decode = .ok value →
    value.isTagFree = true
  | .null, _, rfl => rfl
  | .bool _, _, rfl => rfl
  | .int _, _, rfl => rfl
  | .double _, _, rfl => rfl
  | .text _, _, rfl => rfl
  | .foreign _, _, rfl => rfl
  | .array items, value, done => by
      simp only [decode, Except.bind_eq_ok_iff, Except.pure_eq_ok_iff] at done
      rcases done with ⟨values, decoded, rfl⟩
      exact itemsTagFree_of_decodeItems items decoded
  | .object entries, value, done => by
      rcases decode_object_eq_ok done with ⟨_, rfl⟩ | ⟨_, rfl⟩ | ⟨values, rfl, decoded, untagged⟩
      · rfl
      · rfl
      · have absent : tagKey ∉ Entries.keys values := by
          rw [keys_decodeEntries decoded, ← Entries.lookup_isSome_iff, untagged]
          exact Bool.false_ne_true
        simp [isTagFree, Entries.hasKey, absent, entriesTagFree_of_decodeEntries entries decoded]

theorem itemsTagFree_of_decodeItems : ∀ (items : List Json) {values : List Value},
    decodeItems items = .ok values → itemsTagFree values = true
  | [], _, rfl => rfl
  | item :: rest, values, done => by
      simp only [decodeItems, Except.bind_eq_ok_iff, Except.pure_eq_ok_iff] at done
      rcases done with ⟨first, decoded, others, more, rfl⟩
      rw [itemsTagFree, isTagFree_of_decode item decoded, itemsTagFree_of_decodeItems rest more]
      rfl

theorem entriesTagFree_of_decodeEntries : ∀ (entries : List (String × Json))
    {values : List (String × Value)}, decodeEntries entries = .ok values →
      entriesTagFree values = true
  | [], _, rfl => rfl
  | (key, content) :: rest, values, done => by
      simp only [decodeEntries, Except.bind_eq_ok_iff, Except.pure_eq_ok_iff] at done
      rcases done with ⟨first, decoded, others, more, rfl⟩
      rw [entriesTagFree, isTagFree_of_decode content decoded,
        entriesTagFree_of_decodeEntries rest more]
      rfl

end

end Json

namespace Value

/-- The wire form of a date is decoded as the date rounded down, whose wire form is the same. -/
theorem decode_of_encodeDate {moment : Moment} {wire : Json}
    (done : encodeDate moment = .ok wire) :
    wire.decode = .ok (.date moment.truncated) ∧ encodeDate moment.truncated = .ok wire := by
  rw [encodeDate] at done
  split at done
  · rename_i text printed
    cases done
    rcases Moment.ofText?_of_timestamp? printed with ⟨read, again⟩
    constructor
    · simp [Json.decode, Json.tagKey, Json.decodeTagged, Json.decodeDate, List.lookup_cons, read]
    · rw [encodeDate, again]
  · cases done

mutual

/-- The wire form of a value decodes to the settled value, which has the same wire form. Because no
object of the value has the key of the tag, its wire form is decoded entry by entry. -/
theorem decode_of_encode : ∀ (value : Value) {wire : Json}, value.isTagFree = true →
    value.encode = .ok wire → wire.decode = .ok value.settled ∧ value.settled.encode = .ok wire
  | .null, _, _, rfl => ⟨rfl, rfl⟩
  | .bool _, _, _, rfl => ⟨rfl, rfl⟩
  | .int _, _, _, rfl => ⟨rfl, rfl⟩
  | .double _, _, _, rfl => ⟨rfl, rfl⟩
  | .text _, _, _, rfl => ⟨rfl, rfl⟩
  | .foreign _, _, _, rfl => ⟨rfl, rfl⟩
  | .pointer _, _, _, rfl => ⟨rfl, rfl⟩
  | .date moment, wire, _, done => by
      rw [encode] at done
      rw [settled, encode]
      exact decode_of_encodeDate done
  | .array items, wire, free, done => by
      simp only [encode, Except.bind_eq_ok_iff, Except.pure_eq_ok_iff] at done
      rcases done with ⟨wires, encoded, rfl⟩
      rcases decodeItems_of_encodeItems items free encoded with ⟨decoded, again⟩
      constructor
      · rw [Json.decode, decoded]
        rfl
      · rw [settled, encode, again]
        rfl
  | .object entries, wire, free, done => by
      simp only [encode, Except.bind_eq_ok_iff, Except.pure_eq_ok_iff] at done
      rcases done with ⟨wires, encoded, rfl⟩
      simp only [isTagFree, Entries.hasKey, Bool.and_eq_true, Bool.not_eq_true',
        List.contains_eq_mem, decide_eq_false_iff_not] at free
      rcases free with ⟨untagged, free⟩
      rcases decodeEntries_of_encodeEntries entries free encoded with ⟨decoded, again⟩
      have absent : wires.lookup Json.tagKey = none := by
        rw [← Option.not_isSome_iff_eq_none, Entries.lookup_isSome_iff, keys_encodeEntries encoded]
        exact untagged
      constructor
      · rw [Json.decode, absent, decoded]
        rfl
      · rw [settled, encode, again]
        rfl

theorem decodeItems_of_encodeItems : ∀ (items : List Value) {wires : List Json},
    itemsTagFree items = true → encodeItems items = .ok wires →
      Json.decodeItems wires = .ok (settledItems items) ∧
        encodeItems (settledItems items) = .ok wires
  | [], _, _, rfl => ⟨rfl, rfl⟩
  | item :: rest, wires, free, done => by
      simp only [encodeItems, Except.bind_eq_ok_iff, Except.pure_eq_ok_iff] at done
      rcases done with ⟨first, encoded, others, more, rfl⟩
      rw [itemsTagFree, Bool.and_eq_true] at free
      rcases decode_of_encode item free.1 encoded with ⟨decoded, again⟩
      rcases decodeItems_of_encodeItems rest free.2 more with ⟨decodedRest, againRest⟩
      constructor
      · rw [Json.decodeItems, decoded, decodedRest]
        rfl
      · rw [settledItems, encodeItems, again, againRest]
        rfl

theorem decodeEntries_of_encodeEntries : ∀ (entries : List (String × Value))
    {wires : List (String × Json)}, entriesTagFree entries = true →
      encodeEntries entries = .ok wires →
        Json.decodeEntries wires = .ok (settledEntries entries) ∧
          encodeEntries (settledEntries entries) = .ok wires
  | [], _, _, rfl => ⟨rfl, rfl⟩
  | (key, content) :: rest, wires, free, done => by
      simp only [encodeEntries, Except.bind_eq_ok_iff, Except.pure_eq_ok_iff] at done
      rcases done with ⟨first, encoded, others, more, rfl⟩
      rw [entriesTagFree, Bool.and_eq_true] at free
      rcases decode_of_encode content free.1 encoded with ⟨decoded, again⟩
      rcases decodeEntries_of_encodeEntries rest free.2 more with ⟨decodedRest, againRest⟩
      constructor
      · rw [Json.decodeEntries, decoded, decodedRest]
        rfl
      · rw [settledEntries, encodeEntries, again, againRest]
        rfl

end

/-- A decoded value that has a wire form is decoded from it with its dates rounded down, and then
has the same wire form. -/
theorem decode_encode_settled {raw wire : Json} {value : Value} (decoded : raw.decode = .ok value)
    (encoded : value.encode = .ok wire) :
    wire.decode = .ok value.settled ∧ value.settled.encode = .ok wire :=
  decode_of_encode value (Json.isTagFree_of_decode raw decoded) encoded

/-- Half past eleven on the last day of a year, one hour west of universal time. -/
def lateMoment : Moment :=
  { instant := 63871288200123999, offset := -3600000000 }

/-- A value with the moment in it, at some depth. -/
def lateValue : Value :=
  .object [("at", .array [.date lateMoment, .text "late"])]

/-- The moment is settled as one of the next year. -/
theorem decode_encode_settled_over_new_year :
    ∃ raw wire, raw = Json.object [("at", .array [.object [("__type", .text "Date"),
        ("iso", .text "2024-12-31T23:30:00.123999-01:00")], .text "late"])] ∧
      wire = Json.object [("at", .array [.object [("__type", .text "Date"),
        ("iso", .text "2025-01-01T00:30:00.123Z")], .text "late"])] ∧
      raw.decode = .ok lateValue ∧ lateValue.encode = .ok wire ∧
      wire.decode = .ok lateValue.settled ∧ lateValue.settled.encode = .ok wire := by
  have read : Moment.ofText? "2024-12-31T23:30:00.123999-01:00" = some lateMoment := by
    decide +kernel
  have printed : lateMoment.timestamp? = some "2025-01-01T00:30:00.123Z" := by decide +kernel
  have nested : ∀ (tagged : Json) (value : Value), tagged.decode = .ok value →
      (Json.object [("at", .array [tagged, .text "late"])]).decode =
        .ok (.object [("at", .array [value, .text "late"])]) := by
    intro tagged value decoded
    simp only [Json.decode, Json.decodeEntries, Json.decodeItems, decoded]
    rfl
  have decoded := nested (.object [("__type", .text "Date"),
    ("iso", .text "2024-12-31T23:30:00.123999-01:00")]) (.date lateMoment)
    (by simp [Json.decode, Json.tagKey, Json.decodeTagged, Json.decodeDate, List.lookup_cons, read])
  have encoded : lateValue.encode = .ok (.object [("at", .array [.object [("__type", .text "Date"),
      ("iso", .text "2025-01-01T00:30:00.123Z")], .text "late"])]) := by
    simp only [lateValue, encode, encodeEntries, encodeItems, encodeDate, printed]
    rfl
  exact ⟨_, _, rfl, rfl, decoded, encoded, decode_encode_settled decoded encoded⟩

end Value

end TypedRecords
