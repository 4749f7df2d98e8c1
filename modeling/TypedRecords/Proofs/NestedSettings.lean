import TypedRecords.Configuration.Environment
import TypedRecords.Proofs.LetterCase

/-!
# Settings within settings

A write at a path resolves every key of the path against the keys that are there, and makes an
object of whatever it goes through. What is reached at the resolved path afterwards is the written
value; what lies elsewhere stays. A write also leaves the resolution of every path that it neither
passes through nor ends on, although it may add keys.
-/

namespace TypedRecords

namespace Json

/-- The value at a path through objects. -/
def reach? : Json → List String → Option Json
  | value, [] => some value
  | .object entries, key :: rest =>
      match entries.lookup key with
      | some inner => inner.reach? rest
      | none => none
  | _, _ :: _ => none

@[simp]
theorem reach?_nil (value : Json) : value.reach? [] = some value := by
  cases value <;> rfl

theorem reach?_object_cons (entries : List (String × Json)) (key : String) (rest : List String) :
    (object entries).reach? (key :: rest) = (entries.lookup key).bind (·.reach? rest) := by
  rw [reach?]
  cases entries.lookup key <;> rfl

theorem reach?_append (value : Json) (path rest : List String) :
    value.reach? (path ++ rest) = (value.reach? path).bind (·.reach? rest) := by
  induction path generalizing value with
  | nil => rw [List.nil_append, reach?_nil, Option.bind_some]
  | cons key later ih =>
      cases value with
      | object entries =>
          rw [List.cons_append, reach?_object_cons, reach?_object_cons, Option.bind_assoc]
          exact Option.bind_congr fun inner _ => ih inner
      | null => rfl
      | bool => rfl
      | int => rfl
      | double => rfl
      | text => rfl
      | array => rfl
      | foreign => rfl

end Json

namespace Environment

variable {entries : List (String × Json)} {key other : String} {path query : List String}
  {value content : Json}

/-- The keys that a write at a path resolves to. -/
def resolvePath (entries : List (String × Json)) : List String → List String
  | [] => []
  | key :: rest =>
      let resolved := resolve entries key
      resolved :: resolvePath (nested entries resolved) rest

/-- What a write at a path puts in the place of an object with the given entries. -/
def written (entries : List (String × Json)) (path : List String) (value : Json) : Json :=
  match path with
  | [] => value
  | _ :: _ => .object (setAt entries path value)

theorem written_eq_object (entries : List (String × Json)) (value : Json) (further : path ≠ []) :
    written entries path value = .object (setAt entries path value) := by
  cases path with
  | nil => exact absurd rfl further
  | cons key rest => rfl

/-- Neither path is the beginning of the other, letter case aside. -/
def Apart (path other : List String) : Prop :=
  ¬path.map lowercase <+: other.map lowercase ∧ ¬other.map lowercase <+: path.map lowercase

/-- Two paths are compared entry by entry, so whether they lie apart can be computed. -/
instance (path other : List String) : Decidable (Apart path other) :=
  inferInstanceAs (Decidable (_ ∧ _))

theorem setAt_cons (entries : List (String × Json)) (key : String) (rest : List String)
    (value : Json) :
    setAt entries (key :: rest) value =
      Entries.set entries (resolve entries key)
        (written (nested entries (resolve entries key)) rest value) := by
  cases rest with
  | nil => rfl
  | cons next later => rfl

/-! ## Resolving keys -/

/-- A key is resolved to one that is there, or, if none is the same but for letter case, to its
lower-case form. -/
theorem resolve_cases (entries : List (String × Json)) (key : String) :
    resolve entries key ∈ Entries.keys entries ∧ lowercase (resolve entries key) = lowercase key ∨
      (∀ present ∈ Entries.keys entries, lowercase present ≠ lowercase key) ∧
        resolve entries key = lowercase key := by
  rw [resolve]
  rcases found : (Entries.keys entries).find? (lowercase · == lowercase key) with _ | present
  · simp only [List.find?_eq_none, beq_iff_eq] at found
    exact Or.inr ⟨found, rfl⟩
  · have same := List.find?_some found
    exact Or.inl ⟨List.mem_of_find?_eq_some found, eq_of_beq same⟩

@[simp]
theorem lowercase_resolve (entries : List (String × Json)) (key : String) :
    lowercase (resolve entries key) = lowercase key := by
  rcases resolve_cases entries key with ⟨_, same⟩ | ⟨_, new⟩
  · exact same
  · rw [new, lowercase_lowercase]

theorem resolve_congr (same : lowercase key = lowercase other) :
    resolve entries key = resolve entries other := by
  rw [resolve, resolve, same]

@[simp]
theorem map_lowercase_resolvePath (entries : List (String × Json)) (path : List String) :
    (resolvePath entries path).map lowercase = path.map lowercase := by
  induction path generalizing entries with
  | nil => rfl
  | cons key rest ih => simp [resolvePath, ih]

/-- A write adds at most the key that it resolves to, in lower case, so that every key is resolved
as before. -/
theorem resolve_set_resolve (entries : List (String × Json)) (key other : String) (content : Json) :
    resolve (Entries.set entries (resolve entries key) content) other = resolve entries other := by
  rw [resolve, Entries.keys_set]
  split
  · rfl
  · rename_i absent
    rcases resolve_cases entries key with ⟨present, _⟩ | ⟨_, new⟩
    · exact absurd present absent
    · rw [List.find?_append, new, resolve]
      by_cases same : lowercase key = lowercase other
      · cases (Entries.keys entries).find? (lowercase · == lowercase other) <;> simp [same]
      · simp [same]

theorem resolve_setAt (entries : List (String × Json)) (path : List String) (value : Json)
    (key : String) : resolve (setAt entries path value) key = resolve entries key := by
  cases path with
  | nil => rfl
  | cons first rest => rw [setAt_cons, resolve_set_resolve]

/-! ## What a write makes reachable -/

/-- Behind a key lie the entries that are nested there. -/
theorem reach?_nested (further : query ≠ []) :
    (Json.object entries).reach? (key :: query) =
      (Json.object (nested entries key)).reach? query := by
  rw [Json.reach?_object_cons, nested]
  cases query with
  | nil => exact absurd rfl further
  | cons next later =>
      rcases entries.lookup key with _ | inner
      · rfl
      · cases inner <;> rfl

@[simp]
theorem reach?_setAt_resolved (entries : List (String × Json)) (key : String)
    (rest query : List String) (value : Json) :
    (Json.object (setAt entries (key :: rest) value)).reach? (resolve entries key :: query) =
      (written (nested entries (resolve entries key)) rest value).reach? query := by
  rw [setAt_cons, Json.reach?_object_cons, Entries.lookup_set_self]
  rfl

/-- At the resolved path and below it a write puts its value. -/
theorem reach?_written_below (entries : List (String × Json)) (path query : List String)
    (value : Json) :
    (written entries path value).reach? (resolvePath entries path ++ query) =
      value.reach? query := by
  induction path generalizing entries with
  | nil => rfl
  | cons key rest ih => exact (reach?_setAt_resolved entries key rest _ value).trans (ih _)

/-- On the way to the resolved path a write leaves objects. -/
theorem reach?_written_above (value : Json) (above : query <+: resolvePath entries path)
    (proper : query ≠ resolvePath entries path) :
    ∃ inner, (written entries path value).reach? query = some (.object inner) := by
  induction path generalizing entries query with
  | nil => exact absurd (List.prefix_nil.mp above) proper
  | cons key rest ih =>
      cases query with
      | nil => exact ⟨_, Json.reach?_nil _⟩
      | cons first later =>
          rcases List.cons_prefix_cons.mp above with ⟨rfl, behind⟩
          rw [written, reach?_setAt_resolved]
          exact ih behind fun same => proper (congrArg _ same)

/-- A write keeps what does not lie on the resolved path. -/
theorem reach?_written_aside (value : Json) (notAbove : ¬query <+: resolvePath entries path)
    (notBelow : ¬resolvePath entries path <+: query) :
    (written entries path value).reach? query = (Json.object entries).reach? query := by
  induction path generalizing entries query with
  | nil => exact absurd List.nil_prefix notBelow
  | cons key rest ih =>
      cases query with
      | nil => exact absurd List.nil_prefix notAbove
      | cons first later =>
          by_cases same : first = resolve entries key
          · subst same
            simp only [resolvePath, List.cons_prefix_cons, true_and] at notAbove notBelow
            have further : later ≠ [] := fun empty => notAbove (empty ▸ List.nil_prefix)
            rw [written, reach?_setAt_resolved, ih notAbove notBelow, reach?_nested further]
          · rw [written, setAt_cons, Json.reach?_object_cons, Entries.lookup_set_of_ne _ _ same,
              Json.reach?_object_cons]

/-! ## Writes at paths that are apart -/

theorem Apart.symm (apart : Apart path query) : Apart query path :=
  ⟨apart.2, apart.1⟩

theorem Apart.ne_nil (apart : Apart path query) : path ≠ [] := by
  rintro rfl
  exact apart.1 List.nil_prefix

theorem Apart.tail {rest later : List String} (apart : Apart (key :: rest) (other :: later))
    (same : lowercase key = lowercase other) : Apart rest later := by
  simpa [Apart, same] using apart

/-- A write leaves the resolution of every path that is apart from its own. -/
theorem resolvePath_setAt (apart : Apart path query) :
    resolvePath (setAt entries path value) query = resolvePath entries query := by
  induction path generalizing entries query with
  | nil => exact absurd rfl apart.ne_nil
  | cons key rest ih =>
      cases query with
      | nil => rfl
      | cons other later =>
          simp only [setAt_cons, resolvePath, resolve_set_resolve, List.cons.injEq, true_and,
            nested, Entries.lookup_set]
          by_cases same : lowercase key = lowercase other
          · have behind := apart.tail same
            rw [resolve_congr same, if_pos rfl]
            cases rest with
            | nil => exact absurd rfl behind.ne_nil
            | cons next rest => exact ih behind
          · rw [if_neg]
            intro resolved
            apply same
            rw [← lowercase_resolve entries, ← resolved, lowercase_resolve]

theorem Apart.not_prefix_resolvePath (apart : Apart path query) :
    ¬resolvePath entries path <+: resolvePath entries query := by
  intro above
  apply apart.1
  simpa using above.map lowercase

end Environment

end TypedRecords
