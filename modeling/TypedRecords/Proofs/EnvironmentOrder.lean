import TypedRecords.Configuration.Settings
import TypedRecords.Proofs.NestedSettings

/-!
# The order of the environment

Variables that set settings at paths of which none is the beginning of another may come in any
order. The settings that they build may differ in the order of their keys, but not as nested maps:
what a path shows depends only on which writes there are. The other variables set nothing.
-/

namespace TypedRecords

namespace Json

variable {first second : Json}

/-- A value without its entries, if it is an object. -/
def shallow : Json → Json
  | .object _ => .object []
  | value => value

/-- The values are the same nested map: wherever a path through objects leads, both have an object
there, or both have the same other value, or both have nothing. -/
def SameMap (first second : Json) : Prop :=
  ∀ path, (first.reach? path).map shallow = (second.reach? path).map shallow

/-- Objects are the same map if they have the same keys, in whatever order, with contents that are
the same map. -/
theorem sameMap_object_iff {first second : List (String × Json)} :
    SameMap (.object first) (.object second) ↔
      ∀ key, Option.Rel SameMap (first.lookup key) (second.lookup key) := by
  constructor
  · intro same key
    have behind := fun rest => same (key :: rest)
    simp only [reach?_object_cons] at behind
    generalize first.lookup key = inner, second.lookup key = other at behind ⊢
    cases inner with
    | none =>
        cases other with
        | none => exact .none
        | some other => exact absurd (behind []) (by simp)
    | some inner =>
        cases other with
        | none => exact absurd (behind []) (by simp)
        | some other => exact .some behind
  · intro alike path
    cases path with
    | nil => rfl
    | cons key rest =>
        have same := alike key
        rw [reach?_object_cons, reach?_object_cons]
        generalize first.lookup key = inner, second.lookup key = other at same ⊢
        cases same with
        | none => rfl
        | some same => exact same rest

end Json

namespace Environment

variable {entries : List (String × Json)} {path query : List String} {value : Json}
  {seen : Option Json} {placed others : List (List String × Json)}

/-- What a path shows after values have been put at some places. It does not depend on their
order. -/
inductive Shows (entries : List (String × Json)) (placed : List (List String × Json)) :
    List String → Option Json → Prop where
  | below {place : List String} {value : Json} (member : (place, value) ∈ placed)
      (query : List String) :
      Shows entries placed (place ++ query) ((value.reach? query).map Json.shallow)
  | above {place query : List String} {value : Json} (member : (place, value) ∈ placed)
      (above : query <+: place) (proper : query ≠ place) :
      Shows entries placed query (some (.object []))
  | aside {query : List String} (notAbove : ∀ other ∈ placed, ¬query <+: other.1)
      (notBelow : ∀ other ∈ placed, ¬other.1 <+: query) :
      Shows entries placed query (((Json.object entries).reach? query).map Json.shallow)

theorem exists_shows (entries : List (String × Json)) (placed : List (List String × Json))
    (query : List String) : ∃ seen, Shows entries placed query seen := by
  by_cases below : ∃ other ∈ placed, other.1 <+: query
  · rcases below with ⟨other, member, rest, rfl⟩
    exact ⟨_, .below member rest⟩
  · by_cases above : ∃ other ∈ placed, query <+: other.1
    · rcases above with ⟨other, member, above⟩
      refine ⟨_, .above member above ?_⟩
      rintro rfl
      exact below ⟨other, member, List.prefix_rfl⟩
    · simp only [not_exists, not_and] at below above
      exact ⟨_, .aside above below⟩

theorem Shows.of_perm (same : placed.Perm others) (shows : Shows entries placed query seen) :
    Shows entries others query seen := by
  cases shows with
  | below member query => exact .below (same.mem_iff.mp member) query
  | above member above proper => exact .above (same.mem_iff.mp member) above proper
  | aside notAbove notBelow =>
      exact .aside (fun other member => notAbove other (same.mem_iff.mpr member))
        (fun other member => notBelow other (same.mem_iff.mpr member))

theorem shallow_written_above (value : Json) (above : query <+: resolvePath entries path)
    (proper : query ≠ resolvePath entries path) :
    ((written entries path value).reach? query).map Json.shallow = some (.object []) := by
  rcases reach?_written_above value above proper with ⟨inner, reached⟩
  rw [reached]
  rfl

/-- What a path shows can be told after one of the writes as well as before it. -/
theorem Shows.setAt (further : path ≠ [])
    (notAbove : ∀ other ∈ placed, ¬resolvePath entries path <+: other.1)
    (notBelow : ∀ other ∈ placed, ¬other.1 <+: resolvePath entries path)
    (shows : Shows entries ((resolvePath entries path, value) :: placed) query seen) :
    Shows (setAt entries path value) placed query seen := by
  have object := written_eq_object entries value further
  cases shows with
  | below member query =>
      rcases List.mem_cons.mp member with same | later
      · cases same
        rw [← reach?_written_below entries path, object]
        apply Shows.aside
        · intro other member above
          exact notAbove other member ((List.prefix_append _ _).trans above)
        · intro other member below
          rcases List.prefix_or_prefix_of_prefix below (List.prefix_append _ _) with before | after
          · exact notBelow other member before
          · exact notAbove other member after
      · exact .below later query
  | above member above proper =>
      rcases List.mem_cons.mp member with same | later
      · cases same
        by_cases again : ∃ other ∈ placed, query <+: other.1
        · rcases again with ⟨other, member, again⟩
          refine .above member again ?_
          rintro rfl
          exact notBelow other member above
        · rw [← shallow_written_above value above proper, object]
          apply Shows.aside
          · simpa using again
          · intro other member below
            exact notBelow other member (below.trans above)
      · exact .above later above proper
  | aside awayAbove awayBelow =>
      rw [← reach?_written_aside value (awayAbove _ List.mem_cons_self)
        (awayBelow _ List.mem_cons_self), object]
      exact .aside (fun other member => awayAbove other (List.mem_cons_of_mem _ member))
        (fun other member => awayBelow other (List.mem_cons_of_mem _ member))

/-! ## Several writes -/

/-- The entries after all writes, in their order. -/
def writeAll (entries : List (String × Json)) (writes : List (List String × Json)) :
    List (String × Json) :=
  writes.foldl (fun reached write => setAt reached write.1 write.2) entries

/-- The writes at the places to which their paths are resolved. -/
def places (entries : List (String × Json)) (writes : List (List String × Json)) :
    List (List String × Json) :=
  writes.map fun write => (resolvePath entries write.1, write.2)

variable {writes other : List (List String × Json)}

/-- None of the paths is empty, and none is the beginning of another. -/
structure Separate (writes : List (List String × Json)) : Prop where
  further : ∀ write ∈ writes, write.1 ≠ []
  apart : writes.Pairwise fun write other => Apart write.1 other.1

theorem shows_writeAll (separate : Separate writes)
    (shows : Shows entries (places entries writes) query seen) :
    ((Json.object (writeAll entries writes)).reach? query).map Json.shallow = seen := by
  induction writes generalizing entries with
  | nil =>
      cases shows with
      | below member => cases member
      | above member => cases member
      | aside => rfl
  | cons write rest ih =>
      rcases separate with ⟨further, apart⟩
      rcases List.pairwise_cons.mp apart with ⟨distant, apart⟩
      have resolved : places (setAt entries write.1 write.2) rest = places entries rest :=
        List.map_congr_left fun other member =>
          congrArg (·, other.2) (resolvePath_setAt (distant other member))
      refine ih ⟨fun other member => further other (List.mem_cons_of_mem _ member), apart⟩ ?_
      rw [resolved]
      apply Shows.setAt (further write List.mem_cons_self) ?_ ?_ shows
      · intro _ member
        rcases List.mem_map.mp member with ⟨other, later, rfl⟩
        exact (distant other later).not_prefix_resolvePath
      · intro _ member
        rcases List.mem_map.mp member with ⟨other, later, rfl⟩
        exact (distant other later).symm.not_prefix_resolvePath

theorem Separate.of_perm (separate : Separate writes) (same : writes.Perm other) :
    Separate other where
  further write member := separate.further write (same.mem_iff.mpr member)
  apart := (same.pairwise_iff Apart.symm).mp separate.apart

/-- Writes at separate paths give the same map in every order. -/
theorem sameMap_writeAll (separate : Separate writes) (same : writes.Perm other) :
    Json.SameMap (.object (writeAll entries writes)) (.object (writeAll entries other)) := by
  intro query
  rcases exists_shows entries (places entries writes) query with ⟨seen, shows⟩
  rw [shows_writeAll separate shows,
    shows_writeAll (separate.of_perm same) (shows.of_perm (same.map _))]

/-! ## The variables -/

/-- Whether a variable of the environment names a setting. -/
def isSetting (assignment : String × String) : Bool :=
  (settingOf? assignment.1).isSome

/-- The section and the keys of the setting that the name of a variable denotes, as one path. -/
def pathOf? (variableName : String) : Option (List String) :=
  (settingOf? variableName).map fun (which, path) => which.name :: path

/-- The write that a variable of the environment makes in a section, if it names a setting there. -/
def writeOf? (which : Section) (assignment : String × String) : Option (List String × Json) :=
  match settingOf? assignment.1 with
  | some (part, path) => if part = which then some (path, valueOf assignment.2) else none
  | none => none

theorem ne_nil_of_settingOf? {variableName : String} {which : Section}
    (found : settingOf? variableName = some (which, path)) : path ≠ [] := by
  simp only [settingOf?, Option.bind_eq_bind, Option.bind_eq_some_iff] at found
  rcases found with ⟨rest, _, found⟩
  split at found
  · simp only [Option.bind_eq_some_iff] at found
    rcases found with ⟨_, _, ⟨⟩⟩
    exact List.cons_ne_nil _ _
  · cases found

theorem writeOf?_eq_some_iff {which : Section} {assignment : String × String}
    {write : List String × Json} :
    writeOf? which assignment = some write ↔
      settingOf? assignment.1 = some (which, write.1) ∧ valueOf assignment.2 = write.2 := by
  rw [writeOf?]
  rcases settingOf? assignment.1 with _ | ⟨part, path⟩
  · simp
  · by_cases same : part = which
    · simp [same, Prod.ext_iff]
    · simp [same]

theorem filterMap_writeOf?_filter (which : Section) (environment : List (String × String)) :
    (environment.filter isSetting).filterMap (writeOf? which) =
      environment.filterMap (writeOf? which) := by
  rw [List.filterMap_filter]
  congr
  funext assignment
  rw [isSetting, writeOf?]
  cases settingOf? assignment.1 <;> rfl

/-- The paths of the settings that the variables set, letter case aside, are distinct, and none is
the beginning of another. -/
def PathsApart (environment : List (String × String)) : Prop :=
  (environment.filterMap (pathOf? ·.1)).Pairwise Apart

theorem PathsApart.separate {environment : List (String × String)} (apart : PathsApart environment)
    (which : Section) : Separate (environment.filterMap (writeOf? which)) where
  further write member := by
    rcases List.mem_filterMap.mp member with ⟨assignment, _, found⟩
    exact ne_nil_of_settingOf? (writeOf?_eq_some_iff.mp found).1
  apart := by
    rw [PathsApart, List.pairwise_filterMap] at apart
    rw [List.pairwise_filterMap]
    apply apart.imp
    intro first second distant write found other also
    have paths := distant (which.name :: write.1) ?_ (which.name :: other.1) ?_
    · exact paths.tail rfl
    · rw [pathOf?, (writeOf?_eq_some_iff.mp found).1, Option.map_some]
    · rw [pathOf?, (writeOf?_eq_some_iff.mp also).1, Option.map_some]

end Environment

namespace Settings

open Environment

theorem part_mergeEnvironment (settings : Settings) (environment : List (String × String))
    (which : Section) :
    (settings.mergeEnvironment environment).part which =
      writeAll (settings.part which) (environment.filterMap (writeOf? which)) := by
  induction environment generalizing settings with
  | nil => rfl
  | cons assignment later ih =>
      rw [mergeEnvironment, List.foldl_cons, ← mergeEnvironment, ih, mergeVariable,
        List.filterMap_cons, writeOf?]
      rcases settingOf? assignment.1 with _ | ⟨part, path⟩
      · rfl
      · by_cases same : part = which
        · simp [part_setPart, same, writeAll]
        · simp [part_setPart, same]

/-- A variable that denotes no setting has no effect, wherever it stands. -/
theorem mergeEnvironment_filter (settings : Settings) (environment : List (String × String)) :
    settings.mergeEnvironment (environment.filter isSetting) =
      settings.mergeEnvironment environment := by
  rw [mergeEnvironment, List.foldl_filter]
  congr
  funext reached assignment
  rw [mergeVariable, isSetting]
  cases settingOf? assignment.1 <;> rfl

theorem sameMap_toJson {first second : Settings}
    (same : ∀ which, Json.SameMap (.object (first.part which)) (.object (second.part which))) :
    Json.SameMap first.toJson second.toJson := by
  apply Json.sameMap_object_iff.mpr
  intro key
  simp only [List.lookup_cons, List.lookup_nil]
  cases key == Section.service.name with
  | true => exact .some (same .service)
  | false =>
      cases key == Section.store.name with
      | true => exact .some (same .store)
      | false => exact .none

/-- A setting that a variable denotes has the value of the variable. -/
theorem exists_reach?_mergeEnvironment (settings : Settings)
    {environment : List (String × String)} (apart : PathsApart environment)
    {assignment : String × String} (member : assignment ∈ environment) {which : Section}
    {path : List String} (denoted : settingOf? assignment.1 = some (which, path)) :
    ∃ reached, (Json.object ((settings.mergeEnvironment environment).part which)).reach?
      (resolvePath (settings.part which) path) = some reached ∧
        Json.SameMap reached (valueOf assignment.2) := by
  have write : (path, valueOf assignment.2) ∈ environment.filterMap (writeOf? which) :=
    List.mem_filterMap.mpr ⟨assignment, member, writeOf?_eq_some_iff.mpr ⟨denoted, rfl⟩⟩
  have below := fun query => shows_writeAll (apart.separate which)
    (.below (List.mem_map.mpr ⟨_, write, rfl⟩) query : Shows (settings.part which) _ _ _)
  simp only [← part_mergeEnvironment, Json.reach?_append] at below
  generalize (Json.object ((settings.mergeEnvironment environment).part which)).reach?
    (resolvePath (settings.part which) path) = reached at below
  cases reached with
  | none => exact absurd (below []) (by simp)
  | some reached => exact ⟨reached, rfl, below⟩

/-- Variables that set nothing have no effect, wherever they stand. If no path of the others is the
beginning of another, every setting that they denote has their value, and in whatever order they
come, they build the same settings but for the order of the keys. -/
theorem mergeEnvironment_order (settings : Settings) (environment : List (String × String)) :
    settings.mergeEnvironment environment =
        settings.mergeEnvironment (environment.filter isSetting) ∧
      (PathsApart environment →
        (∀ assignment ∈ environment, ∀ which path,
          settingOf? assignment.1 = some (which, path) →
            ∃ reached, (Json.object ((settings.mergeEnvironment environment).part which)).reach?
              (resolvePath (settings.part which) path) = some reached ∧
                Json.SameMap reached (valueOf assignment.2)) ∧
        ∀ other : List (String × String),
          (other.filter isSetting).Perm (environment.filter isSetting) →
            Json.SameMap (settings.mergeEnvironment other).toJson
              (settings.mergeEnvironment environment).toJson) := by
  refine ⟨(mergeEnvironment_filter settings environment).symm, fun apart => ⟨?_, ?_⟩⟩
  · intro assignment member which path denoted
    exact exists_reach?_mergeEnvironment settings apart member denoted
  · intro other same
    apply sameMap_toJson
    intro which
    have writes := same.symm.filterMap (writeOf? which)
    rw [filterMap_writeOf?_filter, filterMap_writeOf?_filter] at writes
    rw [part_mergeEnvironment, part_mergeEnvironment]
    exact fun path => (sameMap_writeAll (apart.separate which) writes path).symm

/-- The variables come in two orders, beside some that set nothing. Two of them write below a key
that is new, each in its own letter case, and one makes a mapping of the text `backend`. -/
theorem mergeEnvironment_pool :
    let environment := [("CLOUDCRUD__STORE__POOL__MAX", "5"), ("HOME", "/root"),
      ("CLOUDCRUD__store__Pool__Min", "1"), ("CLOUDCRUD__STORE__BACKEND__URL", "db")]
    let other := [("CLOUDCRUD__STORE__BACKEND__URL", "db"), ("CLOUDCRUD__store__Pool__Min", "1"),
      ("CLOUDCRUD__LIMIT", "3"), ("CLOUDCRUD__STORE__POOL__MAX", "5")]
    PathsApart environment ∧
      (other.filter isSetting).Perm (environment.filter isSetting) ∧
      Json.SameMap (default.mergeEnvironment other).toJson
        (default.mergeEnvironment environment).toJson := by
  intro environment other
  have paths : environment.filterMap (pathOf? ·.1) =
      [["store", "POOL", "MAX"], ["store", "Pool", "Min"], ["store", "BACKEND", "URL"]] := by
    decide +kernel
  have apart : PathsApart environment := by
    rw [PathsApart, paths]
    decide +kernel
  have same : (other.filter isSetting).Perm (environment.filter isSetting) := by decide +kernel
  exact ⟨apart, same, ((mergeEnvironment_order default environment).2 apart).2 other same⟩

end Settings

end TypedRecords
