import TypedRecords.Proofs.RacingUpdates
import TypedRecords.Proofs.StaleMerges

/-!
# When an update succeeds

An update writes back all fields of a record with those of its patch set, and the store checks all
of them again. But what a record has is covered by the schema of its class, also when that has
grown since. So in every store that requests lead to it depends on the patch alone whether a record
can be updated, and an empty patch is always taken.
-/

namespace TypedRecords

open TypedRecords.Action

/-- What a grown schema takes was taken before. -/
theorem Schema.Admits.of_extends {schema larger : Schema} {entry : String × Value}
    (admitted : larger.Admits entry) (grown : schema.Extends larger) : schema.Admits entry := by
  intro given
  rcases admitted given with ⟨named, descriptor, described, known⟩
  refine ⟨named, descriptor, described, ?_⟩
  rcases before : schema.lookup entry.1 with _ | found
  · exact Or.inl rfl
  · rw [grown.lookup_eq_some before] at known
    simpa using known

namespace Store

variable {name : String} {schema : Schema} {fields patch : List (String × Value)}

/-- Whether a patch can be written over fields that the schema covers depends on what it gives. -/
theorem exists_prepare_merge_iff (named : isName name = true) (wellFormed : schema.WellFormed)
    (covered : schema.Covers fields) :
    (∃ larger, prepare (.text name) schema (Entries.merge fields patch) = .ok larger) ↔
      ∀ field value, Entries.given? patch field = some value →
        schema.Admits (field, value) := by
  constructor
  · rintro ⟨larger, prepared⟩ field value given
    rcases prepare_eq_ok prepared with ⟨_, _, _, grown, takes⟩
    have merged : (Entries.merge fields patch).lookup field = some value := by
      rw [Entries.lookup_merge, given, Option.some_or]
    have admitted := takes.admits (grown.wellFormed wellFormed) (Entries.mem_of_lookup merged)
    exact admitted.of_extends grown
  · intro admitted
    apply exists_prepare named _ (covered.learnsOnce.merge patch)
    intro entry member
    rcases Entries.mem_merge_cases member with given | old
    · exact admitted entry.1 entry.2 given
    · exact covered.admits wellFormed old

end Store

namespace Records

variable {className objectId data : Json} {backend after : Backend} {record existing : Record}

/-- When an update succeeds, and what it leaves. -/
theorem run_update_eq_ok_iff (served : backend.outages = []) :
    (update className objectId data).run backend = (.ok record, after) ↔
      requireClass className = .ok () ∧ requireArgument "objectId" objectId = .ok () ∧
        ∃ patch existing store, decodeData "data" data = .ok patch ∧
          backend.store.getById className objectId = .ok (some existing) ∧
          backend.store.update backend.time className objectId
            (Entries.merge existing.fields patch) = .ok (record, store) ∧
          after = { backend with store } := by
  have unbroken := Backend.outage?_eq_none served
  rw [update_eq_bind]
  constructor
  · intro ran
    have kept := keepsBackend_beginUpdate className objectId data
    rcases kept.bind_eq_ok ran with ⟨⟨patch, existing⟩, began, wrote⟩
    rcases beginUpdate_eq_ok began with ⟨decoded, found⟩
    rcases KeepsBackend.bind_eq_ok (.ofInput _) began with ⟨_, named, began⟩
    rcases KeepsBackend.bind_eq_ok (.ofInput _) began with ⟨_, known, _⟩
    refine ⟨of_run_ofInput named, of_run_ofInput known, patch, existing, ?_⟩
    rw [endUpdate, Backend.run_update (unbroken _)] at wrote
    rcases done : backend.store.update backend.time className objectId
      (Entries.merge existing.fields patch) with failure | ⟨written, store⟩
    · rw [done] at wrote
      cases wrote
    · rw [done] at wrote
      cases wrote
      exact ⟨store, decoded, found, rfl, rfl⟩
  · rintro ⟨named, known, patch, existing, store, decoded, found, done, rfl⟩
    have given : requireArgument "data" data = .ok () := by
      cases data <;> simp_all [decodeData, requireArgument, Json.isBlank]
    have began : (beginUpdate className objectId data).run backend =
        (.ok (patch, existing), backend) := by
      simp only [beginUpdate, run_bind, run_ofInput, named, known, given, decoded,
        Except.mapError_ok, run_find (unbroken _) found]
      rfl
    rw [run_bind_of_ok began, endUpdate, Backend.run_update (unbroken _), done]

end Records

/-- A record of a sound store is updated exactly when the schema of its class takes what the patch
gives. -/
theorem Records.exists_run_update_iff {backend : Backend} (sound : backend.store.Sound)
    (served : backend.outages = []) {name objectId : String} (drawn : objectId ≠ "")
    {existing : Record}
    (found : backend.store.record? (.text name) (.text objectId) = some existing) {data : Json}
    {patch : List (String × Value)} (decoded : decodeData "data" data = .ok patch) :
    (∃ record after, (update (.text name) (.text objectId) data).run backend =
        (.ok record, after)) ↔
      ∀ field value, Entries.given? patch field = some value →
        (backend.store.schemaOf (.text name)).Admits (field, value) := by
  have wellFormed := sound.wellFormed.schemas (.text name)
  have filed := sound.wellFormed.records _ _ existing found
  have named := sound.named name objectId ⟨existing, found⟩
  have read : backend.store.getById (.text name) (.text objectId) = .ok (some existing) :=
    congrArg Except.ok found
  rw [← Store.exists_prepare_merge_iff named wellFormed filed.covered]
  simp only [run_update_eq_ok_iff served]
  constructor
  · rintro ⟨record, after, _, _, given, known, store, same, again, done, _⟩
    rw [decoded] at same
    cases same
    rw [read] at again
    cases again
    rcases Store.update_eq_ok done with ⟨_, _, _, schema, inClass, _, _, prepared, _⟩
    cases inClass
    exact ⟨schema, prepared⟩
  · rintro ⟨larger, prepared⟩
    have called : requireClass (.text name) = .ok () := by
      apply requireClass_text
      rintro rfl
      exact absurd named (by decide)
    have identified : requireArgument "objectId" (.text objectId) = .ok () := by
      simp [requireArgument, Json.isBlank, drawn]
    rcases Store.exists_update_of_live ⟨existing, found⟩ prepared with ⟨record, store, done⟩
    exact ⟨record, _, called, identified, patch, existing, store, decoded, read, done, rfl⟩

namespace Store

/-- In every store that requests lead to, a record can be updated exactly when the schema of its
class takes what the patch gives: what is not null has an accepted name, and if the schema knows the
field, the type that it has there. So every record takes an empty patch. (The ids that are drawn
are never empty.) -/
theorem update_succeeds_iff (requests : List Request) {name objectId : String} {existing : Record}
    {backend : Backend} (stored : backend.store = ({} : Store).after requests)
    (served : backend.outages = []) (drawn : objectId ≠ "")
    (found : backend.store.record? (.text name) (.text objectId) = some existing) :
    (∀ data patch, Records.decodeData "data" data = .ok patch →
      ((∃ record after, (Records.update (.text name) (.text objectId) data).run backend =
          (.ok record, after)) ↔
        ∀ field value, Entries.given? patch field = some value →
          (backend.store.schemaOf (.text name)).Admits (field, value))) ∧
    ∃ record after, (Records.update (.text name) (.text objectId) (.object [])).run backend =
      (.ok record, after) := by
  have sound := sound_empty.after requests
  rw [← stored] at sound
  refine ⟨fun _ _ => Records.exists_run_update_iff sound served drawn found, ?_⟩
  apply (Records.exists_run_update_iff sound served drawn found rfl).mpr
  intro field value given
  cases given

/-- Requests for a record, and for another one of the class that brings a second field. -/
def laterField : List Request :=
  let item (field : String) (value : Json) (objectId : String) : Request :=
    .call "createRecord" [("className", .text "A"), ("data", .object [(field, value)])] [objectId]
  [item "n" (.int 1) "x", item "m" (.text "new") "y"]

/-- A backend on which these requests were answered. -/
def onLaterField : Backend :=
  { name := .text "memory", now := { instant := 0, offset := 0 },
    store := ({} : Store).after laterField }

/-- The first record takes a text for the field that the second one brought, but no number. -/
theorem laterField_accepted :
    "x" ≠ "" ∧ (∃ existing, onLaterField.store.record? (.text "A") (.text "x") = some existing) ∧
      (∃ record after, (Records.update (.text "A") (.text "x")
        (.object [("m", .text "old"), ("not a name", .null)])).run onLaterField =
          (.ok record, after)) ∧
      ¬ ∃ record after, (Records.update (.text "A") (.text "x")
        (.object [("m", .int 2)])).run onLaterField = (.ok record, after) := by
  have drawn : "x" ≠ "" := by decide
  have stored : onLaterField.store = ({} : Store).after laterField := by rw [onLaterField]
  have served : onLaterField.outages = [] := rfl
  have found : onLaterField.store.record? (.text "A") (.text "x") =
      some { className := "A", objectId := "x", fields := [("n", .int 1)],
             access := AccessPolicy.everyone, createdAt := { instant := 0, offset := 0 },
             updatedAt := { instant := 0, offset := 0 } } := by
    rw [stored]
    rfl
  have known : (onLaterField.store.schemaOf (.text "A")).lookup "m" =
      some { type := .string } := by
    rw [stored]
    rfl
  rcases update_succeeds_iff laterField stored served drawn found with ⟨succeeds, _⟩
  refine ⟨drawn, ⟨_, found⟩, ?_, ?_⟩
  · rw [succeeds _ [("m", .text "old"), ("not a name", .null)] rfl]
    intro field value given set
    rcases List.mem_cons.mp (Entries.mem_of_lookup given) with same | other
    · cases same
      cases set
    · cases List.mem_singleton.mp other
      exact ⟨by decide, { type := .string }, rfl, Or.inr known⟩
  · rw [succeeds _ [("m", .int 2)] rfl]
    intro admitted
    rcases admitted "m" (.int 2) rfl rfl with ⟨_, descriptor, described, takes⟩
    cases described
    rw [known] at takes
    rcases takes with unknown | same
    · cases unknown
    · cases same

end Store

end TypedRecords
