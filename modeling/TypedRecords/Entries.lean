/-!
# Entries in order

A mapping is kept as the list of its entries, in the order in which their keys first came.
Looking a key up is `List.lookup`; setting one keeps its place if it is present and otherwise
adds it at the end.
-/

namespace TypedRecords.Entries

variable {Name Content : Type}

/-- The keys of the entries, in their order. -/
def keys (entries : List (Name × Content)) : List Name :=
  entries.map Prod.fst

variable [DecidableEq Name]

/-- Whether an entry has the given key. -/
def hasKey (entries : List (Name × Content)) (key : Name) : Bool :=
  (keys entries).contains key

/-- Give `key` the content, in its place or at the end. -/
def set : List (Name × Content) → Name → Content → List (Name × Content)
  | [], key, content => [(key, content)]
  | (present, old) :: rest, key, content =>
      if present = key then (present, content) :: rest
      else (present, old) :: set rest key content

/-- Set every entry of `patch` in turn. -/
def merge (entries patch : List (Name × Content)) : List (Name × Content) :=
  patch.foldl (fun merged entry => set merged entry.1 entry.2) entries

/-- The entries without those of a key. -/
def erase (entries : List (Name × Content)) (key : Name) : List (Name × Content) :=
  entries.filter fun entry => entry.1 != key

@[simp]
theorem lookup_set_self (entries : List (Name × Content)) (key : Name) (content : Content) :
    (set entries key content).lookup key = some content := by
  induction entries with
  | nil => simp [set]
  | cons entry rest ih =>
      rcases entry with ⟨present, old⟩
      by_cases same : present = key
      · simp [set, same]
      · have different : (key == present) = false := by simpa using Ne.symm same
        simp [set, same, List.lookup_cons, different, ih]

theorem lookup_set_of_ne (entries : List (Name × Content)) {key other : Name}
    (content : Content) (different : other ≠ key) :
    (set entries key content).lookup other = entries.lookup other := by
  have unequal : (other == key) = false := by simpa using different
  induction entries with
  | nil => simp [set, List.lookup_cons, unequal]
  | cons entry rest ih =>
      rcases entry with ⟨present, old⟩
      by_cases same : present = key
      · simp [set, same, List.lookup_cons, unequal]
      · cases found : other == present <;> simp [set, same, List.lookup_cons, found, ih]

/-- Setting a key leaves the keys as they are, or adds it at the end. -/
theorem keys_set (entries : List (Name × Content)) (key : Name) (content : Content) :
    keys (set entries key content) =
      if key ∈ keys entries then keys entries else keys entries ++ [key] := by
  induction entries with
  | nil => simp [set, keys]
  | cons entry rest ih =>
      by_cases same : entry.1 = key
      · simp [set, keys, same]
      · have step : keys (set (entry :: rest) key content) =
            entry.1 :: keys (set rest key content) := by simp [set, same, keys]
        rw [step, ih]
        by_cases present : key ∈ keys rest
        · simp_all [keys]
        · have absent : key ∉ keys (entry :: rest) := by
            simp only [keys, List.map_cons, List.mem_cons, not_or]
            exact ⟨Ne.symm same, by simpa [keys] using present⟩
          rw [if_neg present, if_neg absent]
          simp [keys]

theorem lookup_set (entries : List (Name × Content)) (key other : Name) (content : Content) :
    (set entries key content).lookup other =
      if other = key then some content else entries.lookup other := by
  by_cases same : other = key
  · rw [if_pos same, same, lookup_set_self]
  · rw [if_neg same, lookup_set_of_ne entries content same]

/-- Keeping entries by their keys. -/
theorem lookup_filter (keep : Name → Bool) (entries : List (Name × Content)) (key : Name) :
    (entries.filter fun entry => keep entry.1).lookup key =
      if keep key then entries.lookup key else none := by
  induction entries with
  | nil => simp
  | cons entry rest ih =>
      rcases entry with ⟨present, content⟩
      by_cases same : key = present
      · subst same
        cases kept : keep key with
        | true => simp [kept]
        | false => simpa [kept] using ih
      · have unequal : (key == present) = false := by simpa using same
        cases kept : keep present with
        | true => simpa [kept, List.lookup_cons, unequal] using ih
        | false => simpa [kept, List.lookup_cons, unequal] using ih

theorem lookup_erase (entries : List (Name × Content)) (key other : Name) :
    (erase entries key).lookup other = if other = key then none else entries.lookup other := by
  rw [erase, lookup_filter (· != key)]
  by_cases same : other = key
  · simp [same]
  · simp [same]

theorem keys_erase (entries : List (Name × Content)) (key : Name) :
    keys (erase entries key) = (keys entries).filter (· != key) := by
  rw [keys, keys, erase, List.filter_map]
  rfl

theorem lookup_isSome_iff {entries : List (Name × Content)} {key : Name} :
    (entries.lookup key).isSome ↔ key ∈ keys entries := by
  rw [List.lookup_isSome_iff, keys, List.mem_map]
  constructor
  · rintro ⟨entry, member, same⟩
    exact ⟨entry, member, (eq_of_beq same).symm⟩
  · rintro ⟨entry, member, rfl⟩
    exact ⟨entry, member, beq_self_eq_true entry.1⟩

end TypedRecords.Entries
