import TypedRecords.Proofs.EnvironmentOrder
import TypedRecords.Proofs.LoaderHistory
import TypedRecords.Proofs.ReadValues

/-!
# Which layer a setting comes from

The defaults, the configuration object and the configuration file are set over each other key by
key, with regard to letter case. A variable of the environment is set over them without regard to
it: it writes at the first key that is there but for letter case. So a key that no variable concerns
has the content from the last layer that has the key, and the value of a variable that alone
concerns a key lies where the layers first have the key, however that is spelled there.
-/

namespace TypedRecords

namespace Environment

variable {entries : List (String × Json)} {key other name : String} {path : List String}
  {value : Json} {writes front back : List (List String × Json)} {which : Section}
  {environment : List (String × String)} {assignment : String × String}

/-- The first key of the path is the given one but for letter case. -/
def beginsWith (key : String) : List String → Bool
  | first :: _ => lowercase first == lowercase key
  | [] => false

/-- The variable sets a setting of the section at the key or below it, letter case aside. -/
def concerns (which : Section) (key : String) (assignment : String × String) : Bool :=
  match settingOf? assignment.1 with
  | some (part, path) => decide (part = which) && beginsWith key path
  | none => false

/-- None of the writes is at the key or below it, letter case aside. -/
def Aside (key : String) (writes : List (List String × Json)) : Prop :=
  ∀ write ∈ writes, beginsWith key write.1 = false

theorem beginsWith_congr (same : lowercase key = lowercase other) (path : List String) :
    beginsWith key path = beginsWith other path := by
  cases path with
  | nil => rfl
  | cons first rest => rw [beginsWith, beginsWith, same]

theorem Aside.congr (aside : Aside key writes) (same : lowercase key = lowercase other) :
    Aside other writes :=
  fun write member => (beginsWith_congr same _).symm.trans (aside write member)

theorem lookup_setAt (aside : beginsWith key path = false) :
    (setAt entries path value).lookup key = entries.lookup key := by
  cases path with
  | nil => rfl
  | cons first rest =>
      rw [setAt_cons, Entries.lookup_set_of_ne]
      rintro rfl
      rw [beginsWith, lowercase_resolve, beq_self_eq_true] at aside
      cases aside

theorem resolve_writeAll (entries : List (String × Json)) (writes : List (List String × Json))
    (key : String) : resolve (writeAll entries writes) key = resolve entries key := by
  induction writes generalizing entries with
  | nil => rfl
  | cons write rest ih => exact (ih _).trans (resolve_setAt entries write.1 write.2 key)

theorem lookup_writeAll (aside : Aside key writes) :
    (writeAll entries writes).lookup key = entries.lookup key := by
  induction writes generalizing entries with
  | nil => rfl
  | cons write rest ih =>
      rw [Aside, List.forall_mem_cons] at aside
      exact (ih aside.2).trans (lookup_setAt aside.1)

/-- A write at one key that is alone in concerning it changes what the key is resolved to, and no
other spelling of it. -/
theorem lookup_writeAll_alone (before : Aside name front) (behind : Aside name back)
    (same : lowercase other = lowercase name) :
    (writeAll entries (front ++ ([name], value) :: back)).lookup other =
      if other = resolve entries name then some value else entries.lookup other := by
  have written : writeAll entries (front ++ ([name], value) :: back) =
      writeAll (Entries.set (writeAll entries front) (resolve entries name) value) back := by
    rw [← resolve_writeAll entries front name, writeAll, List.foldl_append]
    rfl
  rw [written, lookup_writeAll (behind.congr same.symm), Entries.lookup_set,
    lookup_writeAll (before.congr same.symm)]

theorem aside_of_filter_eq_nil (clear : environment.filter (concerns which key) = []) :
    Aside key (environment.filterMap (writeOf? which)) := by
  intro write member
  rcases List.mem_filterMap.mp member with ⟨assignment, present, found⟩
  have away := List.filter_eq_nil_iff.mp clear assignment present
  simpa [concerns, (writeOf?_eq_some_iff.mp found).1] using away

/-- The writes of an environment in which one variable alone concerns a key. -/
theorem exists_writes_of_filter_eq_singleton
    (alone : environment.filter (concerns which key) = [assignment])
    (denoted : settingOf? assignment.1 = some (which, path)) :
    ∃ front back, environment.filterMap (writeOf? which) =
        front ++ (path, valueOf assignment.2) :: back ∧ Aside key front ∧ Aside key back := by
  rcases List.filter_eq_cons_iff.mp alone with ⟨front, back, rfl, before, _, behind⟩
  refine ⟨front.filterMap (writeOf? which), back.filterMap (writeOf? which), ?_,
    aside_of_filter_eq_nil (List.filter_eq_nil_iff.mpr before), aside_of_filter_eq_nil behind⟩
  have write : writeOf? which assignment = some (path, valueOf assignment.2) :=
    writeOf?_eq_some_iff.mpr ⟨denoted, rfl⟩
  rw [List.filterMap_append, List.filterMap_cons_some write]

theorem lowercase_eq_of_concerns (denoted : settingOf? assignment.1 = some (which, [name]))
    (concerned : concerns which key assignment = true) : lowercase name = lowercase key := by
  simpa [concerns, denoted, beginsWith] using concerned

end Environment

namespace Settings

variable {layer : List (String × Json)} {which : Section} {key : String}

/-- What the last of the layers that has a key of a section has for it. -/
def layered? (object file : List (String × Json)) (which : Section) (key : String) : Option Json :=
  ((layerPart file which).lookup key).or
    (((layerPart object which).lookup key).or ((default.part which).lookup key))

/-- The keys of a section as the layers have them, one layer after the other. -/
def layeredKeys (object file : List (String × Json)) (which : Section) : List String :=
  Entries.keys (default.part which) ++ Entries.keys (layerPart object which) ++
    Entries.keys (layerPart file which)

theorem nodup_keys_layerPart (proper : (Json.object layer).isWellFormed = true)
    (which : Section) : (Entries.keys (layerPart layer which)).Nodup := by
  rw [Json.isWellFormed, Bool.and_eq_true, Json.entriesWellFormed_iff] at proper
  rw [layerPart]
  split
  · rename_i patch found
    have content := proper.2 _ (Entries.mem_of_lookup found)
    rw [Json.isWellFormed, Bool.and_eq_true, decide_eq_true_eq] at content
    exact content.1
  · exact List.nodup_nil

theorem lookup_part_overlaid (settings : Settings)
    (distinct : (Entries.keys (layerPart layer which)).Nodup) (key : String) :
    ((settings.overlaid layer).part which).lookup key =
      ((layerPart layer which).lookup key).or ((settings.part which).lookup key) := by
  rw [part_overlaid, Entries.lookup_merge, Entries.given?_eq_lookup distinct]

theorem resolve_part_overlaid (object file : List (String × Json)) (which : Section)
    (key : String) :
    Environment.resolve (((default.overlaid object).overlaid file).part which) key =
      ((layeredKeys object file which).find? (lowercase · == lowercase key)).getD
        (lowercase key) := by
  rw [Environment.resolve, part_overlaid, Entries.find?_keys_merge, part_overlaid,
    List.find?_append, Entries.find?_keys_merge, ← List.find?_append, layeredKeys]

end Settings

namespace Loader

open Settings Environment

variable {loader after : Loader} {surroundings : Surroundings} {given : Json} {path : Option String}

theorem FileLayer.nodup_keys {layer : List (String × Json)}
    (file : FileLayer surroundings path layer) (which : Section) :
    (Entries.keys (layerPart layer which)).Nodup := by
  cases file with
  | none => exact List.nodup_nil
  | empty => exact List.nodup_nil
  | missing => exact List.nodup_nil
  | found _ _ written => exact nodup_keys_layerPart (Json.isWellFormed_of_read? written) which

theorem ObjectLayer.nodup_keys {remembered : Option Json} {layer : List (String × Json)}
    (object : ObjectLayer remembered layer)
    (distinct : ∀ layer, remembered = some (.object layer) →
      ∀ which, (Entries.keys (layerPart layer which)).Nodup) (which : Section) :
    (Entries.keys (layerPart layer which)).Nodup := by
  cases object with
  | none => exact List.nodup_nil
  | given => exact distinct layer rfl which

theorem run_all_of_isLoaded (loaded : loader.isLoaded = true) :
    (all surroundings).run loader = (.ok loader.settings.toJson, loader) := by
  rw [all, ExceptT.run_bind_stateM, current, ExceptT.run_bind_stateM, run_load_of_isLoaded loaded]
  rfl

/-- A load that returns, with a configuration object that has no key of a section twice, leaves the
two sections. A key that no variable concerns has the value of the configuration file, or else of
the configuration object, or else the default, or is absent. If one variable alone concerns a key
and sets it itself, its value lies at the first key of the layers that is this one but for letter
case, and under the lower-case name if there is none; other spellings of the key keep what the
layers have. -/
theorem loaded_by_precedence (unloaded : loader.isLoaded = false)
    (ran : (load surroundings given).run loader = (.ok (), after))
    (distinct : ∀ layer, remember given loader.remembered = some (.object layer) →
      ∀ which, (Entries.keys (layerPart layer which)).Nodup) :
    ∃ object file, ObjectLayer (remember given loader.remembered) object ∧
      FileLayer surroundings loader.path file ∧
      (∀ others, (all others).run after = (.ok (.object [
        ("cloudcrud", .object (after.settings.part .service)),
        ("store", .object (after.settings.part .store))]), after)) ∧
      ∀ which key,
        (surroundings.environment.filter (concerns which key) = [] →
          (after.settings.part which).lookup key = layered? object file which key) ∧
        ∀ assignment name, surroundings.environment.filter (concerns which key) = [assignment] →
          settingOf? assignment.1 = some (which, [name]) →
            ∃ stored, stored = ((layeredKeys object file which).find?
                (lowercase · == lowercase key)).getD (lowercase name) ∧
              (after.settings.part which).lookup stored = some (valueOf assignment.2) ∧
              ∀ other, lowercase other = lowercase key → other ≠ stored →
                (after.settings.part which).lookup other = layered? object file which other := by
  rcases (run_load_eq_ok_iff unloaded).mp ran with
    ⟨_, ⟨object, file, objectLayer, fileLayer, rfl⟩, rfl⟩
  have layers (which key) : (((Settings.default.overlaid object).overlaid file).part which).lookup
      key = layered? object file which key := by
    rw [lookup_part_overlaid _ (fileLayer.nodup_keys which),
      lookup_part_overlaid _ (objectLayer.nodup_keys distinct which), layered?]
  refine ⟨object, file, objectLayer, fileLayer, fun _ => run_all_of_isLoaded rfl, ?_⟩
  intro which key
  rw [part_mergeEnvironment]
  refine ⟨?_, ?_⟩
  · intro clear
    rw [lookup_writeAll (aside_of_filter_eq_nil clear), layers]
  · intro assignment name alone denoted
    have concerned : concerns which key assignment = true :=
      (List.mem_filter.mp (alone ▸ List.mem_singleton_self assignment)).2
    have same := lowercase_eq_of_concerns denoted concerned
    rcases exists_writes_of_filter_eq_singleton alone denoted with
      ⟨front, back, writes, before, behind⟩
    have before := before.congr same.symm
    have behind := behind.congr same.symm
    rw [writes, ← same, ← resolve_part_overlaid]
    refine ⟨_, rfl, ?_, ?_⟩
    · rw [lookup_writeAll_alone before behind (lowercase_resolve _ _), if_pos rfl]
    · intro other spelled different
      rw [lookup_writeAll_alone before behind spelled, if_neg different, layers]

/-- The entries of a configuration object. -/
def urlObject : List (String × Json) :=
  [("store", .object [("Url", .text "a.db"), ("backend", .text "disk")])]

/-- The entries of a configuration file, which spells one of the keys in another case. -/
def urlFile : List (String × Json) :=
  [("store", .object [("url", .text "b.db"), ("backend", .text "log")])]

/-- A configuration file that sets the url and the backend of the store. -/
def urlText : String :=
  "\x7b\"store\": \x7b\"url\": \"b.db\", \"backend\": \"log\"\x7d\x7d"

/-- Surroundings with that file, and with a variable that sets the url of the store too. -/
def urlSurroundings : Surroundings where
  environment := [("HOME", "/root"), ("CLOUDCRUD__STORE__URL", "c.db")]
  files := [("c", urlText)]

/-- A path of one letter has one part: the letter is no slash, and the text ends behind it. -/
theorem parts_letter : FilePath.parts "c" = ["c"] := by
  have whole : "c".splitOn "/" = ["c"] := by
    rw [String.splitOn, if_neg (by decide), String.splitOnAux, if_neg (by decide),
      if_neg (by decide), String.splitOnAux, if_pos (by decide)]
    rfl
  rw [FilePath.parts, whole]
  decide +kernel

theorem normalized_letter : FilePath.normalized "c" = "c" := by
  have relative : FilePath.root "c" = "" := by decide +kernel
  rw [FilePath.normalized, parts_letter, relative]
  decide +kernel

theorem read_letter : urlSurroundings.read "c" = .ok (some urlText) := by
  have short : FilePath.isTooLong "c" = false := by
    rw [FilePath.isTooLong, normalized_letter, parts_letter]
    exact Bool.and_false _
  have named : FilePath.isAscent "c" = false := by
    rw [FilePath.isAscent, parts_letter]
    decide +kernel
  rw [Surroundings.read, short, named, normalized_letter]
  rfl

theorem read?_urlText : Json.read? urlText = some (.object urlFile) :=
  rfl

theorem load_url : ∃ after,
    (load urlSurroundings (.object urlObject)).run { path := some "c" } = (.ok (), after) := by
  have fits {patch} : IsLayer [("store", .object patch)] := by
    intro which content found
    cases which with
    | service => cases found
    | store =>
        cases found
        exact ⟨_, rfl⟩
  have built : Built (some "c") (some (.object urlObject)) urlSurroundings _ :=
    ⟨urlObject, urlFile, .given fits, .found (by decide) read_letter read?_urlText fits, rfl⟩
  exact ⟨_, (run_load_eq_ok_iff rfl).mpr ⟨_, built, rfl⟩⟩

/-- The variable takes the spelling of the configuration object, which comes before the file. -/
theorem url_by_precedence :
    ∃ after, (load urlSurroundings (.object urlObject)).run { path := some "c" } =
        (.ok (), after) ∧
      (after.settings.part .store).lookup "Url" = some (.text "c.db") ∧
      (after.settings.part .store).lookup "url" = some (.text "b.db") ∧
      (after.settings.part .store).lookup "backend" = some (.text "log") := by
  rcases load_url with ⟨after, ran⟩
  have distinct : ∀ layer, remember (.object urlObject) none = some (.object layer) →
      ∀ which, (Entries.keys (layerPart layer which)).Nodup := by
    rintro _ ⟨⟩ which
    cases which with
    | service => decide +kernel
    | store => decide +kernel
  rcases loaded_by_precedence rfl ran distinct with
    ⟨object, file, objectLayer, fileLayer, _, contents⟩
  cases objectLayer
  have same : file = urlFile := by
    rcases (fileLayer_some_iff (by decide)).mp fileLayer with
      ⟨absent, _⟩ | ⟨_, present, written, _⟩
    · cases read_letter.symm.trans absent
    · cases read_letter.symm.trans present
      cases read?_urlText.symm.trans written
      rfl
  subst same
  have alone : urlSurroundings.environment.filter (concerns .store "url") =
      [("CLOUDCRUD__STORE__URL", "c.db")] := by
    decide +kernel
  rcases (contents .store "url").2 _ "URL" alone (by decide +kernel) with
    ⟨stored, first, written, others⟩
  have first : stored = "Url" := first.trans (by decide +kernel)
  subst first
  exact ⟨after, ran, written, others "url" rfl (by decide),
    (contents .store "backend").1 (by decide +kernel)⟩

end Loader

end TypedRecords
