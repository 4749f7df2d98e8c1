import TypedRecords.Configuration.Loader
import TypedRecords.Proofs.Action

/-!
# The layers of the settings

Settings are built in place, and a source that cannot be used ends that in the middle. What is built
without an error is described here at once: the defaults, the configuration object, the
configuration file and the environment, each set over what comes before it.
-/

namespace ExceptT

variable {Error State Result Next : Type}

/-- A computation that fails leaves what it has done to the state. -/
theorem run_bind_stateM (first : ExceptT Error (StateM State) Result)
    (next : Result → ExceptT Error (StateM State) Next) (state : State) :
    (first >>= next).run state =
      match first.run state with
      | (.ok result, after) => (next result).run after
      | (.error error, after) => (.error error, after) := by
  change ExceptT.bindCont next (first.run state).1 (first.run state).2 = _
  rcases first.run state with ⟨outcome, after⟩
  cases outcome with
  | ok result => rfl
  | error error => rfl

/-- A composed computation succeeds when its parts do, the second on the state that the first one
leaves. -/
theorem run_bind_eq_ok_iff {first : ExceptT Error (StateM State) Result}
    {next : Result → ExceptT Error (StateM State) Next} {state after : State} {final : Next} :
    (first >>= next).run state = (.ok final, after) ↔
      ∃ result middle, first.run state = (.ok result, middle) ∧
        (next result).run middle = (.ok final, after) := by
  rw [run_bind_stateM]
  rcases first.run state with ⟨error | result, middle⟩
  · constructor
    · intro failed
      cases failed
    · rintro ⟨_, _, ⟨⟩, _⟩
  · constructor
    · intro ran
      exact ⟨result, middle, rfl, ran⟩
    · rintro ⟨_, _, ⟨⟩, ran⟩
      exact ran

theorem run_modify_stateM (change : State → State) (state : State) :
    (modify change : ExceptT Error (StateM State) PUnit).run state = (.ok (), change state) :=
  rfl

end ExceptT

namespace TypedRecords

namespace Settings

variable {settings after : Settings} {entries layer : List (String × Json)} {which : Section}

/-- What a layer has for a section. -/
def layerPart (layer : List (String × Json)) (which : Section) : List (String × Json) :=
  match layer.lookup which.name with
  | some (.object patch) => patch
  | _ => []

/-- The settings with each section of a layer set over their own. -/
def overlaid (settings : Settings) (layer : List (String × Json)) : Settings where
  service := Entries.merge settings.service (layerPart layer .service)
  store := Entries.merge settings.store (layerPart layer .store)

theorem part_overlaid (settings : Settings) (layer : List (String × Json)) (which : Section) :
    (settings.overlaid layer).part which =
      Entries.merge (settings.part which) (layerPart layer which) := by
  cases which <;> rfl

/-- A layer has an object for the section, if it has the section at all. -/
def HasPart (layer : List (String × Json)) (which : Section) : Prop :=
  ∀ content, layer.lookup which.name = some content → ∃ patch, content = .object patch

/-- The entries have an object for each section that they have. -/
def IsLayer (layer : List (String × Json)) : Prop :=
  ∀ which, HasPart layer which

/-- A section of a layer is merged exactly if it is an object or not given; a section that is not
given overrides nothing. -/
theorem run_mergePart_eq_ok_iff {result : Unit} :
    (mergePart entries which).run settings = (.ok result, after) ↔
      HasPart entries which ∧
        after = settings.setPart (Entries.merge (settings.part which) (layerPart entries which))
          which := by
  rw [mergePart, HasPart, layerPart]
  rcases entries.lookup which.name with _ | content
  · change (Except.ok (), settings) = _ ↔ _ ∧ _ = settings.setPart (settings.part which) which
    rw [setPart_part]
    simp [eq_comm]
  · cases content with
    | object patch =>
        change (Except.ok (), settings.setPart _ which) = _ ↔ _
        simp [eq_comm]
    | null => exact ⟨nofun, fun fits => nomatch fits.1 _ rfl⟩
    | bool => exact ⟨nofun, fun fits => nomatch fits.1 _ rfl⟩
    | int => exact ⟨nofun, fun fits => nomatch fits.1 _ rfl⟩
    | double => exact ⟨nofun, fun fits => nomatch fits.1 _ rfl⟩
    | text => exact ⟨nofun, fun fits => nomatch fits.1 _ rfl⟩
    | array => exact ⟨nofun, fun fits => nomatch fits.1 _ rfl⟩
    | foreign => exact ⟨nofun, fun fits => nomatch fits.1 _ rfl⟩

theorem run_mergeObject_eq_ok_iff {source : String} {configuration : Json} {result : Unit} :
    (mergeObject source configuration).run settings = (.ok result, after) ↔
      ∃ layer, configuration = .object layer ∧ IsLayer layer ∧ after = settings.overlaid layer := by
  cases configuration with
  | object entries =>
      simp only [mergeObject, ExceptT.run_bind_eq_ok_iff, run_mergePart_eq_ok_iff,
        Json.object.injEq]
      constructor
      · rintro ⟨_, _, ⟨first, rfl⟩, second, rfl⟩
        refine ⟨entries, rfl, ?_, rfl⟩
        intro which
        cases which with
        | service => exact first
        | store => exact second
      · rintro ⟨_, rfl, fits, rfl⟩
        exact ⟨(), _, ⟨fits .service, rfl⟩, fits .store, rfl⟩
  | null => exact ⟨nofun, nofun⟩
  | bool => exact ⟨nofun, nofun⟩
  | int => exact ⟨nofun, nofun⟩
  | double => exact ⟨nofun, nofun⟩
  | text => exact ⟨nofun, nofun⟩
  | array => exact ⟨nofun, nofun⟩
  | foreign => exact ⟨nofun, nofun⟩

theorem run_mergeText_eq_ok_iff {path content : String} {result : Unit} :
    (mergeText path content).run settings = (.ok result, after) ↔
      ∃ layer, Json.read? content = some (.object layer) ∧ IsLayer layer ∧
        after = settings.overlaid layer := by
  rw [mergeText]
  rcases Json.read? content with _ | configuration
  · constructor
    · intro failed
      cases failed
    · rintro ⟨_, ⟨⟩, _⟩
  · simp only [run_mergeObject_eq_ok_iff, Option.some.injEq]

end Settings

namespace Loader

open Settings

variable {path : Option String} {remembered : Option Json} {surroundings : Surroundings}
  {settings after : Settings}

/-- The layer of the remembered configuration object; one that is not given has no entries. -/
inductive ObjectLayer : Option Json → List (String × Json) → Prop where
  | none : ObjectLayer none []
  | given {layer : List (String × Json)} (fits : IsLayer layer) :
      ObjectLayer (some (.object layer)) layer

/-- The layer of the configuration file. Without a path, and without a file at the path, it has no
entries. -/
inductive FileLayer (surroundings : Surroundings) :
    Option String → List (String × Json) → Prop where
  | none : FileLayer surroundings none []
  | empty : FileLayer surroundings (some "") []
  | missing {path : String} (set : path ≠ "") (absent : surroundings.read path = .ok none) :
      FileLayer surroundings (some path) []
  | found {path content : String} {layer : List (String × Json)} (set : path ≠ "")
      (present : surroundings.read path = .ok (some content))
      (written : Json.read? content = some (.object layer)) (fits : IsLayer layer) :
      FileLayer surroundings (some path) layer

/-- The settings are built from the defaults, the configuration object, the configuration file and
the environment, each set over what comes before it. -/
def Built (path : Option String) (remembered : Option Json) (surroundings : Surroundings)
    (settings : Settings) : Prop :=
  ∃ given written, ObjectLayer remembered given ∧ FileLayer surroundings path written ∧
    settings =
      ((Settings.default.overlaid given).overlaid written).mergeEnvironment surroundings.environment

theorem run_mergeRemembered_eq_ok_iff {result : Unit} :
    (mergeRemembered remembered).run settings = (.ok result, after) ↔
      ∃ layer, ObjectLayer remembered layer ∧ after = settings.overlaid layer := by
  cases remembered with
  | none =>
      constructor
      · intro ran
        cases ran
        exact ⟨[], .none, rfl⟩
      · rintro ⟨_, ⟨⟩, rfl⟩
        rfl
  | some configuration =>
      rw [mergeRemembered, run_mergeObject_eq_ok_iff]
      constructor
      · rintro ⟨layer, rfl, fits, rfl⟩
        exact ⟨layer, .given fits, rfl⟩
      · rintro ⟨layer, object, rfl⟩
        cases object with
        | given fits => exact ⟨layer, rfl, fits, rfl⟩

theorem fileLayer_some_iff {path : String} (set : path ≠ "") {layer : List (String × Json)} :
    FileLayer surroundings (some path) layer ↔
      surroundings.read path = .ok none ∧ layer = [] ∨
        ∃ content, surroundings.read path = .ok (some content) ∧
          Json.read? content = some (.object layer) ∧ IsLayer layer := by
  constructor
  · intro file
    cases file with
    | empty => exact absurd rfl set
    | missing _ absent => exact Or.inl ⟨absent, rfl⟩
    | found _ present written fits => exact Or.inr ⟨_, present, written, fits⟩
  · rintro (⟨absent, rfl⟩ | ⟨content, present, written, fits⟩)
    · exact .missing set absent
    · exact .found set present written fits

theorem run_mergeFile_eq_ok_iff {result : Unit} :
    (mergeFile path surroundings).run settings = (.ok result, after) ↔
      ∃ layer, FileLayer surroundings path layer ∧ after = settings.overlaid layer := by
  cases path with
  | none =>
      constructor
      · intro ran
        cases ran
        exact ⟨[], .none, rfl⟩
      · rintro ⟨_, ⟨⟩, rfl⟩
        rfl
  | some path =>
      by_cases unset : path = ""
      · subst unset
        constructor
        · intro ran
          cases ran
          exact ⟨[], .empty, rfl⟩
        · rintro ⟨layer, file, rfl⟩
          cases file with
          | empty => rfl
          | missing set => exact absurd rfl set
          | found set => exact absurd rfl set
      · have set : path.isEmpty = false := by simpa using unset
        simp only [mergeFile, set, Bool.false_eq_true, ↓reduceIte, ExceptT.run_bind_eq_ok_iff,
          fileLayer_some_iff unset]
        rcases surroundings.read path with error | _ | content
        · constructor
          · rintro ⟨_, _, ⟨⟩, _⟩
          · rintro ⟨_, ⟨⟨⟩, _⟩ | ⟨_, ⟨⟩, _⟩, _⟩
        · constructor
          · rintro ⟨_, _, ⟨⟩, ran⟩
            cases ran
            exact ⟨[], Or.inl ⟨rfl, rfl⟩, rfl⟩
          · rintro ⟨_, ⟨_, rfl⟩ | ⟨_, ⟨⟩, _⟩, rfl⟩
            exact ⟨_, settings, rfl, rfl⟩
        · constructor
          · rintro ⟨_, _, ⟨⟩, ran⟩
            rcases run_mergeText_eq_ok_iff.mp ran with ⟨layer, written, fits, rfl⟩
            exact ⟨layer, Or.inr ⟨content, rfl, written, fits⟩, rfl⟩
          · rintro ⟨layer, ⟨⟨⟩, _⟩ | ⟨_, ⟨⟩, written, fits⟩, rfl⟩
            exact ⟨_, settings, rfl, run_mergeText_eq_ok_iff.mpr ⟨layer, written, fits, rfl⟩⟩

/-- Merging the sources in place succeeds exactly if the settings can be built from them, with these
settings. -/
theorem run_mergeSources_eq_ok_iff {result : Unit} :
    (mergeSources path remembered surroundings).run Settings.default = (.ok result, settings) ↔
      Built path remembered surroundings settings := by
  simp only [mergeSources, ExceptT.run_bind_eq_ok_iff, run_mergeRemembered_eq_ok_iff,
    run_mergeFile_eq_ok_iff]
  constructor
  · rintro ⟨_, _, ⟨given, first, rfl⟩, _, _, ⟨written, second, rfl⟩, ran⟩
    cases ran
    exact ⟨given, written, first, second, rfl⟩
  · rintro ⟨given, written, first, second, rfl⟩
    exact ⟨(), _, ⟨given, first, rfl⟩, (), _, ⟨written, second, rfl⟩, rfl⟩

end Loader

end TypedRecords
