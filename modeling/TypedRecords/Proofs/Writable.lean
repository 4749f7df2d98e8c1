import TypedRecords.Proofs.Action
import TypedRecords.Record

/-!
# Values that have a wire form

Encoding keeps the keys of entries. It fails for one reason only: a moment outside the calendar, at
whatever depth. So a value has a wire form if every date in it lies in the calendar, and a record
that is open to everyone has one if its fields have and its two moments lie in the calendar.
-/

namespace TypedRecords

namespace Value

theorem keys_encodeEntries {entries : List (String × Value)} {encoded : List (String × Json)}
    (done : encodeEntries entries = .ok encoded) : Entries.keys encoded = Entries.keys entries := by
  induction entries generalizing encoded with
  | nil =>
      cases done
      rfl
  | cons entry rest ih =>
      rcases entry with ⟨key, content⟩
      simp only [encodeEntries, Except.bind_eq_ok_iff, Except.pure_eq_ok_iff] at done
      rcases done with ⟨wire, _, wires, more, rfl⟩
      simp only [Entries.keys, List.map_cons]
      exact congrArg (List.cons key) (ih more)

mutual

/-- Every date in the value lies in the calendar. -/
def isWritable : Value → Bool
  | .date moment => moment.isWritable
  | .array items => itemsWritable items
  | .object entries => entriesWritable entries
  | _ => true

/-- Every date in the values lies in the calendar. -/
def itemsWritable : List Value → Bool
  | [] => true
  | item :: rest => isWritable item && itemsWritable rest

/-- Every date in the contents of the entries lies in the calendar. -/
def entriesWritable : List (String × Value) → Bool
  | [] => true
  | (_, content) :: rest => isWritable content && entriesWritable rest

end

theorem exists_encodeDate_iff (moment : Moment) :
    (∃ wire, encodeDate moment = .ok wire) ↔ moment.isWritable = true := by
  rw [encodeDate, Moment.timestamp?]
  by_cases writable : moment.isWritable = true
  · simp [writable]
  · simp [writable]

mutual

theorem exists_encode_iff : ∀ value : Value,
    (∃ wire, value.encode = .ok wire) ↔ value.isWritable = true
  | .null => by simp [encode, isWritable]
  | .bool _ => by simp [encode, isWritable]
  | .int _ => by simp [encode, isWritable]
  | .double _ => by simp [encode, isWritable]
  | .text _ => by simp [encode, isWritable]
  | .date moment => by
      rw [encode, isWritable]
      exact exists_encodeDate_iff moment
  | .pointer _ => by simp [encode, isWritable]
  | .array items => by
      rw [encode, isWritable, Except.exists_bind_pure_iff]
      exact exists_encodeItems_iff items
  | .object entries => by
      rw [encode, isWritable, Except.exists_bind_pure_iff]
      exact exists_encodeEntries_iff entries
  | .foreign _ => by simp [encode, isWritable]

theorem exists_encodeItems_iff : ∀ items : List Value,
    (∃ wires, encodeItems items = .ok wires) ↔ itemsWritable items = true
  | [] => by simp [encodeItems, itemsWritable]
  | item :: rest => by
      have first := exists_encode_iff item
      have others := exists_encodeItems_iff rest
      rw [encodeItems, itemsWritable, Except.exists_bind_bind_pure_iff, first, others,
        Bool.and_eq_true]

theorem exists_encodeEntries_iff : ∀ entries : List (String × Value),
    (∃ wires, encodeEntries entries = .ok wires) ↔ entriesWritable entries = true
  | [] => by simp [encodeEntries, entriesWritable]
  | (key, content) :: rest => by
      have first := exists_encode_iff content
      have others := exists_encodeEntries_iff rest
      rw [encodeEntries, entriesWritable, Except.exists_bind_bind_pure_iff, first, others,
        Bool.and_eq_true]

end

end Value

namespace Record

/-- Every date in the fields of the record and both of its moments lie in the calendar. -/
def isWritable (record : Record) : Bool :=
  Value.entriesWritable record.fields && record.createdAt.isWritable &&
    record.updatedAt.isWritable

theorem exists_timestamp_iff (moment : Moment) :
    (∃ text, timestamp moment = .ok text) ↔ moment.isWritable = true := by
  rw [timestamp, Moment.timestamp?]
  by_cases writable : moment.isWritable = true
  · simp [writable]
  · simp [writable]

theorem exists_encode_iff {record : Record} (access : record.access = AccessPolicy.everyone) :
    (∃ entries, record.encode = .ok entries) ↔ record.isWritable = true := by
  have shared : ∃ policy, record.access.encode = .ok policy := by
    rw [access]
    exact ⟨_, rfl⟩
  simp only [isWritable, Bool.and_eq_true, ← Value.exists_encodeEntries_iff,
    ← exists_timestamp_iff]
  simp only [encode, Except.bind_eq_ok_iff, Except.pure_eq_ok_iff]
  constructor
  · rintro ⟨_, fields, encoded, created, first, updated, last, _⟩
    exact ⟨⟨⟨fields, encoded⟩, created, first⟩, updated, last⟩
  · rintro ⟨⟨⟨fields, encoded⟩, created, first⟩, updated, last⟩
    rcases shared with ⟨policy, opened⟩
    exact ⟨_, fields, encoded, created, first, updated, last, policy, opened, rfl⟩

end Record

end TypedRecords
