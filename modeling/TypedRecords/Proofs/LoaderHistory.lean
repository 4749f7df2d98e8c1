import Mathlib.Data.List.Induction
import TypedRecords.Proofs.SettingsLayers

/-!
# The history of a loader

A loader is called in turn, each time with other surroundings. A call that finds no loaded settings
loads them first, and so does a call to load again; it may fail in the middle, and leaves settings
that are half built. Still no call ever shows these: what is shown was built at the last load, which
succeeded, and differs from that only by the settings that were set since.
-/

namespace TypedRecords.Loader

/-- The calls of a loader. -/
inductive Call where
  | load (given : Json)
  | reload
  | set (key : String) (value : Json)
  | setting (which : Section) (key fallback : Json)
  | wholeSection (which : Section)
  | all

/-- A call, and what is around the loader at that time. -/
structure Event where
  call : Call
  surroundings : Surroundings := {}

namespace Call

/-- What a call does, and what it answers; a call that only does something answers with null. -/
def run (surroundings : Surroundings) : Call → Run Json
  | .load given => do
      Loader.load surroundings given
      return .null
  | .reload => do
      Loader.reload surroundings
      return .null
  | .set key value => do
      Loader.set surroundings key value
      return .null
  | .setting which key fallback => Loader.setting surroundings which key fallback
  | .wholeSection which => Loader.wholeSection surroundings which
  | .all => Loader.all surroundings

/-- The call is one to load, with a configuration object or again. -/
def Loads : Call → Prop
  | .load _ | .reload => True
  | _ => False

/-- The configuration object that the call gives; null if it gives none. -/
def given : Call → Json
  | .load given => given
  | _ => .null

/-- The settings with the one that the call sets. -/
def applied (settings : Settings) : Call → Settings
  | .set key value => { settings with service := Entries.set settings.service key value }
  | _ => settings

/-- What the call shows of the settings. -/
def shown (settings : Settings) : Call → Except HostError Json
  | .setting which key fallback =>
      match key.key with
      | .ok (.text key) => .ok (((settings.part which).lookup key).getD fallback)
      | .ok _ => .ok fallback
      | .error error => .error error
  | .wholeSection which => .ok (.object (settings.part which))
  | .all => .ok settings.toJson
  | _ => .ok .null

end Call

/-- The loader as a call finds it: with a call to load again it does not count as loaded. -/
def facing (loader : Loader) : Call → Loader
  | .reload => { loader with isLoaded := false }
  | _ => loader

/-- Whether the call loads the settings, or tries to: it is one to load again, or they are not
loaded. -/
def attempts (loader : Loader) (call : Call) : Bool :=
  !(loader.facing call).isLoaded

namespace Event

/-- The result of an event and the loader after it. -/
def run (event : Event) (loader : Loader) : Except HostError Json × Loader :=
  (event.call.run event.surroundings).run loader

/-- The result of an event. -/
def outcome (event : Event) (loader : Loader) : Except HostError Json :=
  (event.run loader).1

/-- The loader after an event. -/
def next (event : Event) (loader : Loader) : Loader :=
  (event.run loader).2

end Event

/-- A loader that has loaded nothing, with the path of its configuration file if there is one. -/
def new (path : Option String) : Loader :=
  { path }

/-- The loader after all events, in their order. -/
def after (loader : Loader) : List Event → Loader
  | [] => loader
  | event :: rest => (event.next loader).after rest

/-- The configuration objects that are given to calls to load, without those to which it makes no
difference because the settings are loaded already. -/
def givens (loader : Loader) : List Event → List Json
  | [] => []
  | event :: rest =>
      (if loader.attempts event.call && !event.call.given.isNull then [event.call.given] else []) ++
        (event.next loader).givens rest

/-- None of the calls loads the settings, or tries to. -/
def Keeps (loader : Loader) : List Event → Prop
  | [] => True
  | event :: rest => loader.attempts event.call = false ∧ (event.next loader).Keeps rest

/-- The settings are those built at the last of the calls that loads them, with the settings that
are set by this call or since. It has succeeded, and none of the calls after it tries to load. -/
def LastBuilt (path : Option String) (events : List Event) (settings : Settings) : Prop :=
  ∃ earlier loading later built, events = earlier ++ loading :: later ∧
    ((new path).after earlier).attempts loading.call = true ∧
    ((new path).after (earlier ++ [loading])).isLoaded = true ∧
    ((new path).after (earlier ++ [loading])).Keeps later ∧
    Built path ((new path).givens (earlier ++ [loading])).getLast? loading.surroundings
      built ∧
    settings = (loading :: later).foldl (fun settings event => event.call.applied settings) built

variable {loader after : Loader} {surroundings : Surroundings} {given : Json}

theorem run_edit (change : Settings.Edit Unit) (loader : Loader) :
    (edit change).run loader =
      ((change.run loader.settings).1,
        { loader with settings := (change.run loader.settings).2 }) :=
  rfl

theorem run_load_of_isLoaded (loaded : loader.isLoaded = true) :
    (load surroundings given).run loader = (.ok (), loader) := by
  rw [load, ExceptT.run_bind_stateM]
  change (if loader.isLoaded = true then _ else _ : Run Unit).run loader = _
  rw [loaded]
  rfl

theorem run_load_of_not_isLoaded (unloaded : loader.isLoaded = false) :
    (load surroundings given).run loader =
      match (mergeSources loader.path (remember given loader.remembered) surroundings).run
        Settings.default with
      | (.ok _, settings) =>
          (.ok (), { loader with
            remembered := remember given loader.remembered, settings, isLoaded := true })
      | (.error error, settings) =>
          (.error error, { loader with
            remembered := remember given loader.remembered, settings }) := by
  rcases loader with ⟨path, remembered, settings, isLoaded⟩
  change isLoaded = false at unloaded
  subst unloaded
  rw [load, ExceptT.run_bind_stateM]
  change (do
    edit (mergeSources path (remember given remembered) surroundings)
    modify fun loader => { loader with isLoaded := true } : Run Unit).run
      ⟨path, remember given remembered, Settings.default, false⟩ = _
  rw [ExceptT.run_bind_stateM, run_edit]
  rcases (mergeSources path (remember given remembered) surroundings).run Settings.default with
    ⟨error | result, built⟩
  · rfl
  · rfl

/-- A load of settings that are not loaded returns exactly if they can be built, and leaves them. -/
theorem run_load_eq_ok_iff (unloaded : loader.isLoaded = false) :
    (load surroundings given).run loader = (.ok (), after) ↔
      ∃ settings, Built loader.path (remember given loader.remembered) surroundings settings ∧
        after = { loader with
          remembered := remember given loader.remembered
          settings
          isLoaded := true } := by
  rw [run_load_of_not_isLoaded unloaded]
  rcases merged : (mergeSources loader.path (remember given loader.remembered) surroundings).run
    Settings.default with ⟨error | result, built⟩
  · constructor
    · intro failed
      cases failed
    · rintro ⟨settings, sources, _⟩
      cases merged.symm.trans ((run_mergeSources_eq_ok_iff : _ = (.ok (), _) ↔ _).mpr sources)
  · constructor
    · intro loaded
      cases loaded
      exact ⟨built, run_mergeSources_eq_ok_iff.mp merged, rfl⟩
    · rintro ⟨settings, sources, rfl⟩
      cases merged.symm.trans (run_mergeSources_eq_ok_iff.mpr sources)
      rfl

/-- A call loads the settings, if it must, and then shows them or changes them. -/
theorem Call.run_eq (call : Call) (surroundings : Surroundings) (loader : Loader) :
    (call.run surroundings).run loader =
      match (Loader.load surroundings call.given).run (loader.facing call) with
      | (.ok _, middle) =>
          (call.shown middle.settings,
            { middle with settings := call.applied middle.settings })
      | (.error error, middle) => (.error error, middle) := by
  cases call with
  | load given =>
      simp only [run, ExceptT.run_bind_stateM, Call.given, facing]
      rcases (Loader.load surroundings given).run loader with ⟨error | _, middle⟩
      · rfl
      · rfl
  | reload =>
      simp only [run, Loader.reload, ExceptT.run_bind_stateM, ExceptT.run_modify_stateM, Call.given,
        facing]
      rcases (Loader.load surroundings .null).run { loader with isLoaded := false } with
        ⟨error | _, middle⟩
      · rfl
      · rfl
  | set key value =>
      simp only [run, Loader.set, ExceptT.run_bind_stateM, Call.given, facing]
      rcases (Loader.load surroundings .null).run loader with ⟨error | _, middle⟩
      · rfl
      · rfl
  | setting which key fallback =>
      simp only [run, Loader.setting, current, ExceptT.run_bind_stateM, Call.given, facing, shown]
      rcases (Loader.load surroundings .null).run loader with ⟨error | _, middle⟩
      · rfl
      · cases key.key with
        | error => rfl
        | ok key =>
            cases key with
            | text => rfl
            | null => rfl
            | number => rfl
            | undefined => rfl
            | foreign => rfl
  | wholeSection =>
      simp only [run, Loader.wholeSection, current, ExceptT.run_bind_stateM, Call.given, facing]
      rcases (Loader.load surroundings .null).run loader with ⟨error | _, middle⟩
      · rfl
      · rfl
  | all =>
      simp only [run, Loader.all, current, ExceptT.run_bind_stateM, Call.given, facing]
      rcases (Loader.load surroundings .null).run loader with ⟨error | _, middle⟩
      · rfl
      · rfl

section Histories

variable {event : Event} {events rest : List Event} {path : Option String}

theorem after_append (loader : Loader) (events rest : List Event) :
    loader.after (events ++ rest) = (loader.after events).after rest := by
  induction events generalizing loader with
  | nil => rfl
  | cons event _ ih => exact ih (event.next loader)

theorem givens_append (loader : Loader) (events rest : List Event) :
    loader.givens (events ++ rest) = loader.givens events ++ (loader.after events).givens rest := by
  induction events generalizing loader with
  | nil => rfl
  | cons event _ ih =>
      rw [List.cons_append, givens, givens, ih (event.next loader), List.append_assoc]
      rfl

theorem keeps_append : loader.Keeps (events ++ rest) ↔
    loader.Keeps events ∧ (loader.after events).Keeps rest := by
  induction events generalizing loader with
  | nil => simp [Keeps, after]
  | cons event _ ih => simp [Keeps, after, ih, and_assoc]

theorem facing_of_not_attempts {call : Call} (kept : loader.attempts call = false) :
    loader.isLoaded = true ∧ loader.facing call = loader := by
  rw [attempts, Bool.not_eq_false'] at kept
  cases call with
  | reload => cases kept
  | load => exact ⟨kept, rfl⟩
  | set => exact ⟨kept, rfl⟩
  | setting => exact ⟨kept, rfl⟩
  | wholeSection => exact ⟨kept, rfl⟩
  | all => exact ⟨kept, rfl⟩

/-- A call that finds the settings loaded shows them or changes them. -/
theorem Event.run_of_not_attempts (kept : loader.attempts event.call = false) :
    event.run loader = (event.call.shown loader.settings,
      { loader with settings := event.call.applied loader.settings }) := by
  rcases facing_of_not_attempts kept with ⟨loaded, same⟩
  rw [Event.run, Call.run_eq, same, run_load_of_isLoaded loaded]

theorem facing_eq {call : Call} (unloaded : (loader.facing call).isLoaded = false) :
    loader.facing call = { loader with isLoaded := false } := by
  rcases loader with ⟨path, remembered, settings, isLoaded⟩
  cases call with
  | reload => rfl
  | load => cases unloaded; rfl
  | set => cases unloaded; rfl
  | setting => cases unloaded; rfl
  | wholeSection => cases unloaded; rfl
  | all => cases unloaded; rfl

/-- A call that finds no settings loaded builds them before it does anything else. Otherwise it
fails, and they are not loaded. -/
theorem Event.run_of_attempts (tries : loader.attempts event.call = true) :
    (∃ built, Built loader.path (remember event.call.given loader.remembered) event.surroundings
        built ∧
      event.run loader = (event.call.shown built, { loader with
        remembered := remember event.call.given loader.remembered
        settings := event.call.applied built
        isLoaded := true })) ∨
    ∃ error settings, event.run loader = (.error error, { loader with
      remembered := remember event.call.given loader.remembered
      settings
      isLoaded := false }) := by
  rw [attempts, Bool.not_eq_true'] at tries
  rw [Event.run, Call.run_eq, facing_eq tries, run_load_of_not_isLoaded rfl]
  rcases merged : (mergeSources loader.path (remember event.call.given loader.remembered)
    event.surroundings).run Settings.default with ⟨error | result, settings⟩
  · exact Or.inr ⟨error, settings, rfl⟩
  · exact Or.inl ⟨settings, run_mergeSources_eq_ok_iff.mp merged, rfl⟩

/-- The configuration object that is remembered is the last one that was given to a call to load. -/
theorem getLast?_givens_append (loader : Loader) (events : List Event) (event : Event) :
    (loader.givens (events ++ [event])).getLast? =
      if (loader.after events).attempts event.call = true then
        remember event.call.given (loader.givens events).getLast?
      else (loader.givens events).getLast? := by
  rw [givens_append, givens, givens, List.append_nil, List.getLast?_append, remember]
  cases (loader.after events).attempts event.call with
  | false => rfl
  | true =>
      cases event.call.given.isNull with
      | false => rfl
      | true => rfl

theorem LastBuilt.append {settings : Settings} (built : LastBuilt path events settings)
    (kept : ((new path).after events).attempts event.call = false) :
    LastBuilt path (events ++ [event]) (event.call.applied settings) := by
  rcases built with ⟨earlier, loading, later, built, rfl, tries, loaded, keeps, sources, rfl⟩
  refine ⟨earlier, loading, later ++ [event], built, by simp, tries, loaded, ?_, sources, by simp⟩
  rw [keeps_append, ← after_append]
  refine ⟨keeps, ?_, trivial⟩
  simpa using kept

/-- What a loader tells of the events since it was new: it kept its path, it remembers the last
configuration object given, and once loaded it shows what the last building of the settings gave. -/
structure Follows (path : Option String) (events : List Event) (loader : Loader) : Prop where
  samePath : loader.path = path
  remembered : loader.remembered = ((new path).givens events).getLast?
  loaded : loader.isLoaded = true → LastBuilt path events loader.settings

/-- A loader follows its events, by induction from the last one backwards. -/
theorem follows_after (path : Option String) (events : List Event) :
    Follows path events ((new path).after events) := by
  induction events using List.reverseRecOn with
  | nil => exact ⟨rfl, rfl, nofun⟩
  | append_singleton events event ih =>
      have next : (new path).after (events ++ [event]) =
          (event.run ((new path).after events)).2 := after_append _ _ _
      have remembers := getLast?_givens_append (new path) events event
      rw [← ih.remembered] at remembers
      rcases tries : ((new path).after events).attempts event.call with _ | _
      · have ran := Event.run_of_not_attempts tries
        rw [tries] at remembers
        rw [next, ran]
        exact ⟨ih.samePath, remembers.symm, fun loaded => (ih.loaded loaded).append tries⟩
      · rw [if_pos tries] at remembers
        rcases Event.run_of_attempts tries with ⟨built, sources, ran⟩ | ⟨error, settings, ran⟩
        · rw [ih.samePath, ← remembers] at sources
          rw [next, ran]
          refine ⟨ih.samePath, remembers.symm, fun _ => ?_⟩
          refine ⟨events, event, [], built, rfl, tries, ?_, trivial, sources, rfl⟩
          rw [next, ran]
        · rw [next, ran]
          exact ⟨ih.samePath, remembers.symm, nofun⟩

theorem Call.shown_applied (call : Call) (settings : Settings) :
    call.shown (call.applied settings) = call.shown settings := by
  cases call <;> rfl

theorem Event.isLoaded_of_outcome_eq_ok {value : Json}
    (returned : event.outcome loader = .ok value) :
    (event.next loader).isLoaded = true ∧
      event.call.shown (event.next loader).settings = .ok value := by
  rw [outcome] at returned
  rw [next]
  rcases tries : loader.attempts event.call with _ | _
  · rw [run_of_not_attempts tries] at returned ⊢
    exact ⟨(facing_of_not_attempts tries).1, (Call.shown_applied _ _).trans returned⟩
  · rcases run_of_attempts tries with ⟨built, _, ran⟩ | ⟨error, settings, ran⟩
    · rw [ran] at returned ⊢
      exact ⟨rfl, (Call.shown_applied _ _).trans returned⟩
    · rw [ran] at returned
      cases returned

theorem Event.not_isLoaded_of_outcome_eq_error {error : HostError} (loads : event.call.Loads)
    (failed : event.outcome loader = .error error) : (event.next loader).isLoaded = false := by
  have silent : ∀ settings, event.call.shown settings = .ok .null := by
    intro settings
    cases called : event.call with
    | load => rfl
    | reload => rfl
    | set => rfl
    | setting => rw [called] at loads; cases loads
    | wholeSection => rw [called] at loads; cases loads
    | all => rw [called] at loads; cases loads
  rw [outcome] at failed
  rw [next]
  rcases tries : loader.attempts event.call with _ | _
  · rw [run_of_not_attempts tries, silent] at failed
    cases failed
  · rcases run_of_attempts tries with ⟨built, _, ran⟩ | ⟨error, settings, ran⟩
    · rw [ran, silent] at failed
      cases failed
    · rw [ran]

theorem Event.outcome_of_built (tries : loader.attempts event.call = true) {built : Settings}
    (sources : Built loader.path (remember event.call.given loader.remembered) event.surroundings
      built) :
    event.outcome loader = event.call.shown built := by
  rw [attempts, Bool.not_eq_true'] at tries
  have unloaded : ({ loader with isLoaded := false } : Loader).isLoaded = false := rfl
  rw [outcome, Event.run, Call.run_eq, facing_eq tries,
    (run_load_eq_ok_iff unloaded).mpr ⟨built, sources, rfl⟩]

/-- Whatever was called before, and however the file and the environment changed in between: a call
that returns shows the settings built at the last load, which succeeded, with those that were set
since. A call that has to load does so if the sources can be used. A call to load that fails leaves
the loader without loaded settings. -/
theorem shows_last_built (path : Option String) (events : List Event) (event : Event) :
    (∀ value, event.outcome ((new path).after events) = .ok value →
      ∃ settings, LastBuilt path (events ++ [event]) settings ∧
        event.call.shown settings = .ok value) ∧
    (∀ built, ((new path).after events).attempts event.call = true →
      Built path ((new path).givens (events ++ [event])).getLast? event.surroundings built →
        event.outcome ((new path).after events) = event.call.shown built) ∧
    (∀ error, event.call.Loads → event.outcome ((new path).after events) = .error error →
      (event.next ((new path).after events)).isLoaded = false) := by
  refine ⟨?_, ?_, ?_⟩
  · intro value returned
    have follows := follows_after path (events ++ [event])
    rw [after_append] at follows
    rcases Event.isLoaded_of_outcome_eq_ok returned with ⟨loaded, shown⟩
    exact ⟨_, follows.loaded loaded, shown⟩
  · intro built tries sources
    have follows := follows_after path events
    rw [getLast?_givens_append, if_pos tries] at sources
    apply Event.outcome_of_built tries
    rw [follows.samePath, follows.remembered]
    exact sources
  · intro error loads failed
    exact Event.not_isLoaded_of_outcome_eq_error loads failed

end Histories

/-- A configuration object of which only the first section can be used. -/
def brokenObject : Json :=
  .object [("cloudcrud", .object [("max_limit", .int 5)]), ("store", .int 5)]

/-- A load of the object, which fails; then a load of another one, and a setting that is set. -/
def brokenThenLoaded : List Event :=
  [{ call := .load brokenObject },
    { call := .load (.object [("cloudcrud", .object [("default_limit", .int 7)])])
      surroundings := { environment := [("CLOUDCRUD__STORE__NAME", "main")] } },
    { call := .set "server_version" (.text "5") }]

/-- The question for the bound of page sizes in surroundings that hold nothing. -/
def readingMaxLimit : Event :=
  { call := .setting .service (.text "max_limit") (.int 0) }

/-- What a load that failed has merged is not shown later. -/
theorem brokenObject_not_shown :
    (∃ error, ({ call := .load brokenObject } : Event).outcome ((new none).after []) =
      .error error) ∧
    (({ call := .load brokenObject } : Event).next ((new none).after [])).isLoaded = false ∧
    ∃ value settings, value.isNull = true ∧
      LastBuilt none (brokenThenLoaded ++ [readingMaxLimit]) settings ∧
        readingMaxLimit.call.shown settings = .ok value := by
  have failed : ({ call := .load brokenObject } : Event).outcome ((new none).after []) =
      .error (Settings.refusal "'store' section must be an object") := rfl
  have null : (readingMaxLimit.outcome ((new none).after brokenThenLoaded)).toOption.map
      Json.isNull = some true := by
    decide +kernel
  rcases returned : readingMaxLimit.outcome ((new none).after brokenThenLoaded) with error | value
  · rw [returned] at null
    cases null
  · rw [returned] at null
    rcases (shows_last_built _ brokenThenLoaded _).1 value returned with ⟨settings, built, shown⟩
    exact ⟨⟨_, failed⟩, (shows_last_built _ [] _).2.2 _ trivial failed, value, settings,
      Option.some.inj null, built, shown⟩

end TypedRecords.Loader
