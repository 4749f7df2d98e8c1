import TypedRecords.Configuration.Settings
import TypedRecords.Proofs.MergedEntries
import TypedRecords.Proofs.NestedSettings

/-!
# Following a path to a setting

A path is followed as it is written: each of its keys is resolved among the keys that are there. So
what was written last at a path is found there, in whatever letter case the path is spelled, and
what lies apart from the path is found as before. Of two writes at one path only the second counts,
even for the order and the spelling of the keys, and to write what is found already changes nothing.
-/

namespace TypedRecords

namespace Environment

variable {entries : List (String × Json)} {key : String} {path query again rest : List String}
  {value content : Json}

/-- What a path leads to if each key is resolved among those that are there. -/
def follow? : Json → List String → Option Json
  | value, [] => some value
  | .object entries, key :: rest =>
      match entries.lookup (resolve entries key) with
      | some inner => follow? inner rest
      | none => none
  | _, _ :: _ => none

theorem follow?_nil (value : Json) : follow? value [] = some value := by
  cases value <;> rfl

theorem follow?_object_cons (entries : List (String × Json)) (key : String) (rest : List String) :
    follow? (.object entries) (key :: rest) =
      (entries.lookup (resolve entries key)).bind (follow? · rest) := by
  rw [follow?]
  cases entries.lookup (resolve entries key) <;> rfl

theorem exists_object_of_follow? (found : follow? content (key :: rest) = some value) :
    ∃ entries, content = .object entries := by
  cases content with
  | object entries => exact ⟨entries, rfl⟩
  | null => cases found
  | bool => cases found
  | int => cases found
  | double => cases found
  | text => cases found
  | array => cases found
  | foreign => cases found

/-- Behind a key a path goes on among the entries that are nested there. -/
theorem follow?_nested (further : rest ≠ []) :
    follow? (.object entries) (key :: rest) =
      follow? (.object (nested entries (resolve entries key))) rest := by
  rw [follow?_object_cons, nested]
  cases rest with
  | nil => exact absurd rfl further
  | cons next later =>
      rcases entries.lookup (resolve entries key) with _ | inner
      · rfl
      · cases inner <;> rfl

/-- To follow a path is to resolve it first and then to go along the resolved keys. -/
theorem follow?_object (entries : List (String × Json)) (path : List String) :
    follow? (.object entries) path = (Json.object entries).reach? (resolvePath entries path) := by
  induction path generalizing entries with
  | nil => rfl
  | cons key rest ih =>
      cases rest with
      | nil =>
          rw [follow?_object_cons, resolvePath, resolvePath, Json.reach?_object_cons]
          exact Option.bind_congr fun inner _ => (follow?_nil inner).trans inner.reach?_nil.symm
      | cons next later =>
          rw [follow?_nested (List.cons_ne_nil _ _), ih]
          exact (reach?_nested (List.cons_ne_nil _ _)).symm

/-! ## What is found after a write -/

theorem follow?_written_self (entries : List (String × Json)) (path : List String) (value : Json) :
    follow? (written entries path value) path = some value := by
  induction path generalizing entries with
  | nil => exact follow?_nil value
  | cons key rest ih =>
      rw [written, follow?_object_cons, resolve_setAt, setAt_cons, Entries.lookup_set_self,
        Option.bind_some]
      exact ih _

theorem follow?_setAt_apart (apart : Apart path query) :
    follow? (.object (setAt entries path value)) query = follow? (.object entries) query := by
  rw [follow?_object, follow?_object, resolvePath_setAt apart,
    ← written_eq_object entries value apart.ne_nil]
  exact reach?_written_aside value apart.symm.not_prefix_resolvePath apart.not_prefix_resolvePath

/-! ## Writes at one path -/

/-- A write depends on the keys of its path only but for letter case. -/
theorem setAt_congr (same : path.map lowercase = again.map lowercase) :
    setAt entries path value = setAt entries again value := by
  induction path generalizing entries again with
  | nil => rw [List.map_eq_nil_iff.mp same.symm]
  | cons key rest ih =>
      cases again with
      | nil => cases same
      | cons other later =>
          rw [List.map_cons, List.map_cons, List.cons.injEq] at same
          rw [setAt_cons, setAt_cons, resolve_congr same.1]
          cases rest with
          | nil => rw [List.map_eq_nil_iff.mp same.2.symm]
          | cons next rest =>
              have further : later ≠ [] := by
                rintro rfl
                cases same.2
              rw [written, ih same.2, written_eq_object _ _ further]

theorem setAt_setAt (entries : List (String × Json)) (path : List String) (first second : Json) :
    setAt (setAt entries path first) path second = setAt entries path second := by
  induction path generalizing entries with
  | nil => rfl
  | cons key rest ih =>
      rw [setAt_cons (setAt _ _ _), resolve_setAt, setAt_cons, setAt_cons, Entries.set_set, nested,
        Entries.lookup_set_self]
      cases rest with
      | nil => rfl
      | cons next later => simp only [written, ih]

/-- To write what is found at a path already changes nothing. -/
theorem setAt_of_follow? (found : follow? (.object entries) path = some value) :
    setAt entries path value = entries := by
  induction path generalizing entries with
  | nil => rfl
  | cons key rest ih =>
      rw [follow?_object_cons, Option.bind_eq_some_iff] at found
      rcases found with ⟨inner, known, found⟩
      have inside : written (nested entries (resolve entries key)) rest value = inner := by
        cases rest with
        | nil =>
            rw [follow?_nil] at found
            exact (Option.some.inj found).symm
        | cons next later =>
            rcases exists_object_of_follow? found with ⟨inside, rfl⟩
            rw [written, nested, known, ih found]
      rw [setAt_cons, inside, Entries.set_eq_self known]

end Environment

namespace Settings

open Environment

variable {settings : Settings} {which : Section} {path : List String} {value : Json}

/-- Write a setting of a section. -/
def write (settings : Settings) (which : Section) (path : List String) (value : Json) : Settings :=
  settings.setPart (setAt (settings.part which) path value) which

/-- What a path leads to in a section. -/
def follow? (settings : Settings) (which : Section) (path : List String) : Option Json :=
  Environment.follow? (.object (settings.part which)) path

/-- A variable that denotes a setting writes it. -/
theorem mergeVariable_of_settingOf? {assignment : String × String}
    (denoted : settingOf? assignment.1 = some (which, path)) :
    settings.mergeVariable assignment = settings.write which path (valueOf assignment.2) := by
  rw [mergeVariable, denoted, write]

theorem part_write (settings : Settings) (which other : Section) (path : List String)
    (value : Json) :
    (settings.write which path value).part other =
      if which = other then setAt (settings.part which) path value else settings.part other :=
  part_setPart settings _ which other

theorem setPart_setPart (settings : Settings) (first second : List (String × Json))
    (which : Section) : (settings.setPart first which).setPart second which =
      settings.setPart second which := by
  cases which <;> rfl

/-- After a write its path leads to the value. A path of another section, or one of which neither it
nor the written path is the beginning of the other, letter case aside, leads to what it led to
before. A second write at the path, in whatever letter case, leaves nothing of the first, and
neither does it matter in which letter case it is. To write what a path leads to changes nothing. -/
theorem writes_behave (settings : Settings) (which : Section) (further : path ≠ [])
    (value : Json) :
    (settings.write which path value).follow? which path = some value ∧
      (∀ other query, (other = which → Apart path query) →
        (settings.write which path value).follow? other query = settings.follow? other query) ∧
      (∀ again last, again.map lowercase = path.map lowercase →
        (settings.write which path value).write which again last =
            settings.write which again last ∧
          settings.write which again last = settings.write which path last) ∧
      (settings.follow? which path = some value → settings.write which path value = settings) := by
  refine ⟨?_, ?_, ?_, ?_⟩
  · rw [follow?, part_write, if_pos rfl, ← written_eq_object _ _ further, follow?_written_self]
  · intro other query apart
    rw [follow?, follow?, part_write]
    split
    · rename_i same
      rw [← same, follow?_setAt_apart (apart same.symm)]
    · rfl
  · intro again last same
    refine ⟨?_, by rw [write, write, setAt_congr same]⟩
    rw [write, part_write, if_pos rfl, setAt_congr same, setAt_setAt, write, setPart_setPart, write,
      setAt_congr same]
  · intro found
    rw [write, setAt_of_follow? found, setPart_part]

/-- Settings with two keys that are the same but for letter case, and a number beside them. -/
def spelled : Settings where
  service := []
  store := [("DB", .object [("ID", .bool true), ("Id", .bool false), ("N", .int 5)])]

/-- A write at a third spelling goes to the first of the two keys, and one below the number makes an
object of it. One evaluation lowers all keys, as each evaluation unfolds the table of letters. -/
theorem spelled_writes_behave :
    let first := spelled.write .store ["Db", "iD"] (.int 1)
    let below := spelled.write .store ["DB", "N", "M"] (.int 2)
    resolvePath spelled.store ["Db", "iD"] = ["DB", "ID"] ∧
      first.follow? .store ["Db", "iD"] = some (.int 1) ∧
      first.follow? .store ["dB", "n"] = some (.int 5) ∧
      first.write .store ["DB", "Id"] (.int 3) = spelled.write .store ["Db", "iD"] (.int 3) ∧
      below.follow? .store ["DB", "N", "M"] = some (.int 2) := by
  intro first below
  have evaluated : resolvePath spelled.store ["Db", "iD"] = ["DB", "ID"] ∧
      resolvePath spelled.store ["dB", "n"] = ["DB", "N"] ∧ Apart ["Db", "iD"] ["dB", "n"] ∧
      ["DB", "Id"].map lowercase = ["Db", "iD"].map lowercase := by decide +kernel
  rcases evaluated with ⟨resolved, beside, distant, same⟩
  rcases writes_behave spelled .store (List.cons_ne_nil "Db" ["iD"]) (.int 1) with
    ⟨written, apart, again, _⟩
  rcases writes_behave spelled .store (List.cons_ne_nil "DB" ["N", "M"]) (.int 2) with
    ⟨deeper, _, _, _⟩
  have number : spelled.follow? .store ["dB", "n"] = some (.int 5) := by
    rw [follow?, part, follow?_object, beside]
    rfl
  rcases again ["DB", "Id"] (.int 3) same with ⟨second, spelling⟩
  exact ⟨resolved, written, (apart .store ["dB", "n"] fun _ => distant).trans number,
    second.trans spelling, deeper⟩

end Settings

end TypedRecords
