import TypedRecords.Proofs.Acceptance
import TypedRecords.Proofs.Interleaving

/-!
# Stale merges

An update writes all fields that it read before, with those of its patch set, and other callers may
have had their turns in between. Nevertheless the store stays covered by its schemas; an update
whose record was removed finds none and changes nothing, so no record comes back; and an update
whose record still lives can fail through its own patch only, because the fields that it read are
covered still.
-/

namespace TypedRecords

open TypedRecords.Action

namespace Store

variable {store : Store} {name objectId : String} {now : Moment} {fields : List (String × Value)}

theorem update_of_not_live (gone : ¬ store.Live (.text name) objectId) :
    store.update now (.text name) (.text objectId) fields =
      .error (.notFound (.text name) (.text objectId)) := by
  have absent : store.record? (.text name) (.text objectId) = none := by
    rw [Option.eq_none_iff_forall_ne_some]
    exact fun record found => gone ⟨record, found⟩
  simp [update, Json.key, bind, Except.bind, absent, throw, throwThe, MonadExceptOf.throw]

theorem exists_update_of_live (live : store.Live (.text name) objectId) {schema : Schema}
    (prepared : prepare (.text name) (store.schemaOf (.text name)) fields = .ok schema) :
    ∃ record after, store.update now (.text name) (.text objectId) fields =
      .ok (record, after) := by
  rcases live with ⟨existing, found⟩
  simp [update, Json.key, bind, Except.bind, found, prepared, pure, Except.pure]

end Store

namespace PendingUpdate

variable {pending : PendingUpdate} {store : Store}

theorem Sound.run_write (sound : pending.Sound store) :
    pending.write.run (store.serving pending.now) =
      match store.update pending.now.truncated (.text pending.existing.className)
        (.text pending.existing.objectId) (Entries.merge pending.existing.fields pending.patch) with
      | .error failure => (.error failure, store.serving pending.now)
      | .ok (record, after) => (.ok record, { store.serving pending.now with store := after }) := by
  rw [write, Records.endUpdate, Backend.run_update rfl, sound.className, sound.objectId]
  rfl

/-- Without its record an update is told so, and changes nothing. -/
theorem Sound.run_write_of_not_live (sound : pending.Sound store)
    (gone : ¬ store.Live (.text pending.existing.className) pending.existing.objectId) :
    pending.write.run (store.serving pending.now) =
      (.error (.notFound pending.className pending.objectId), store.serving pending.now) := by
  rw [sound.run_write, Store.update_of_not_live gone, sound.className, sound.objectId]

/-- If its record lives, an update is written as soon as the schema takes each entry of its patch:
what it has read stands in no way. -/
theorem Sound.exists_run_write_of_live (sound : pending.Sound store) (stored : store.Sound)
    (live : store.Live (.text pending.existing.className) pending.existing.objectId)
    (admitted : ∀ entry ∈ pending.patch,
      (store.schemaOf (.text pending.existing.className)).Admits entry) :
    ∃ record after, pending.write.run (store.serving pending.now) = (.ok record, after) := by
  have wellFormed := stored.wellFormed.schemas (.text pending.existing.className)
  rcases Store.exists_prepare_merge (stored.named _ _ live) wellFormed (sound.covered live)
    admitted with ⟨schema, prepared⟩
  rcases Store.exists_update_of_live live prepared with ⟨record, after, done⟩
  rw [sound.run_write, done]
  exact ⟨record, _, rfl⟩

end PendingUpdate

namespace Workspace

variable {workspace : Workspace} {index : Nat} {className objectId : String}

/-- The turn of a caller removes the record of a class under an id: it ends a deletion, or a request
deletes the record or the whole class. -/
inductive Removes (workspace : Workspace) (index : Nat) (className objectId : String) : Prop where
  | deleted {now : Moment}
      (calling : workspace.callers[index]? =
        some (.deleting now (.text className) (.text objectId)))
      (done : (workspace.turn index).callers[index]? = some (.deleted (.ok ())))
  | requested {request : Request}
      (calling : workspace.callers[index]? = some (.waiting (.request request)))
      (removes : request.Removes workspace.store className objectId)

/-- Where a turn removes a record, there was one, and there is none any more. -/
theorem Removes.live (removes : workspace.Removes index className objectId) :
    workspace.store.Live (.text className) objectId ∧
      ¬ (workspace.turn index).store.Live (.text className) objectId := by
  cases removes with
  | @deleted now calling done =>
      rw [callers_turn calling, Caller.turn] at done
      rw [turn_eq calling, Caller.turn]
      rcases wrote : (Backend.delete (.text className) (.text objectId)).run
        (workspace.store.serving now) with ⟨failure | _, after⟩
      · rw [wrote] at done
        cases done
      · have deleted := Backend.eq_ok_of_store (Backend.run_writing_eq_ok wrote)
        exact Store.live_of_delete deleted
  | requested calling removes =>
      rw [turn_eq calling]
      exact ⟨removes.live, removes.not_live⟩

theorem Removes.not_live_after (removes : workspace.Removes index className objectId)
    (sound : workspace.Sound) (schedule : List Nat) :
    ¬ (workspace.after (index :: schedule)).store.Live (.text className) objectId := by
  rcases removes.live with ⟨lived, gone⟩
  rcases sound.turn index with ⟨next, evolves⟩
  have issued := evolves.issued _ (sound.store.wellFormed.issued_of_live lived)
  rw [after_cons]
  exact (next.after schedule).2.not_live issued gone

theorem turn_of_updating {pending : PendingUpdate} {outcome : Except Failure Record} {left : Store}
    {rest : Backend} (calling : workspace.callers[index]? = some (.updating pending))
    (ran : pending.write.run (workspace.store.serving pending.now) = (outcome, rest))
    (same : rest.store = left) :
    workspace.turn index =
      { store := left, callers := workspace.callers.set index (.updated outcome) } := by
  rw [turn_eq calling, Caller.turn, ran, same]

/-- Stale merges do no harm in a workspace and in what comes after it. -/
structure Harmless (workspace : Workspace) : Prop where
  /-- Every field of a record that is not null is in the schema of its class, with the descriptor
  of its value. -/
  covered : ∀ key objectId record, workspace.store.record? key objectId = some record →
    ∃ schema, workspace.store.schemas.lookup key = some schema ∧
      ∀ field ∈ record.fields, field.2.isNull = false → ∃ descriptor,
        field.2.descriptor? = .ok (some descriptor) ∧
          schema.fields.lookup field.1 = some descriptor
  /-- No record comes back once a turn has removed it. -/
  gone : ∀ remover className objectId, workspace.Removes remover className objectId →
    ∀ later, ¬ (workspace.after (remover :: later)).store.Live (.text className) objectId
  /-- An update that has read a record, and that has its next turn at any time after the record was
  removed, finds none and leaves the store as it is. -/
  refused : ∀ index pending remover later,
    workspace.Removes remover pending.existing.className pending.existing.objectId →
    ∀ reached, reached = workspace.after (remover :: later) →
      reached.callers[index]? = some (.updating pending) →
      reached.turn index =
        { store := reached.store
          callers := reached.callers.set index
            (.updated (.error (.notFound pending.className pending.objectId))) }
  /-- An update whose record lives is written, unless an entry of its own patch that is not null has
  a name that is not accepted or a value that does not fit the schema of the class as it is. -/
  written : ∀ index pending, workspace.callers[index]? = some (.updating pending) →
    workspace.store.Live (.text pending.existing.className) pending.existing.objectId →
    (∃ record, (workspace.turn index).callers[index]? = some (.updated (.ok record))) ∨
      ∃ entry ∈ pending.patch, entry.2.isNull = false ∧ (isName entry.1 = false ∨
        ¬ (workspace.store.schemaOf (.text pending.existing.className)).Fits entry)

theorem Sound.harmless (sound : workspace.Sound) : workspace.Harmless where
  covered key objectId record found := by
    have wellFormed := sound.store.wellFormed
    have present := wellFormed.mem_schemas_of_record? found
    rcases Option.isSome_iff_exists.mp (Entries.lookup_isSome_iff.mpr present) with ⟨schema, known⟩
    have covered := (wellFormed.records key objectId record found).covered
    rw [Store.schemaOf, known] at covered
    exact ⟨schema, known, covered⟩
  gone remover className objectId removes later := removes.not_live_after sound later
  refused index pending remover later removes reached same calling := by
    have gone := removes.not_live_after sound later
    have remembered := (sound.after (remover :: later)).1.callers _
      (List.mem_of_getElem? (same ▸ calling)) pending rfl
    rw [← same] at gone remembered
    exact turn_of_updating calling (remembered.run_write_of_not_live gone) rfl
  written index pending calling live := by
    have remembered := sound.callers _ (List.mem_of_getElem? calling) pending rfl
    by_cases admitted : ∀ entry ∈ pending.patch,
        (workspace.store.schemaOf (.text pending.existing.className)).Admits entry
    · left
      rcases remembered.exists_run_write_of_live sound.store live admitted with ⟨record, rest, ran⟩
      refine ⟨record, ?_⟩
      rw [callers_turn calling, Caller.turn, ran]
    · right
      simp only [Schema.Admits, not_forall, exists_prop] at admitted
      rcases admitted with ⟨entry, member, given, refused⟩
      refine ⟨entry, member, given, ?_⟩
      rwa [← Bool.not_eq_true, ← not_and_or]

/-- Any number of callers take their turns in any order, each caller one step after the other. Then
stale merges do no harm. -/
theorem stale_merges_harmless (jobs : List Job) (schedule : List Nat) :
    ((start jobs).after schedule).Harmless :=
  ((sound_start jobs).after schedule).1.harmless

/-- A request that files a record, two updates that set different fields of it, and its
deletion. -/
def contenders : List Job :=
  let now : Moment := { instant := 0, offset := 0 }
  let update (entries : List (String × Json)) : Job :=
    .update now (.text "A") (.text "x") (.object entries)
  [.request (Store.creating ["x"]), update [("n", .int 2)], update [("m", .text "new")],
    .delete now (.text "A") (.text "x")]

/-- The first update and the deletion have read the record, and the second update has written it
since. -/
def contended : Workspace :=
  (start contenders).after [0, 1, 3, 2, 2]

/-- The first update is still written, but not if the deletion has its turn before. -/
theorem contended_harmless :
    ∃ pending, contended.callers[1]? = some (.updating pending) ∧
      (∃ record, (contended.turn 1).callers[1]? = some (.updated (.ok record))) ∧
      contended.Removes 3 pending.existing.className pending.existing.objectId ∧
      (contended.turn 3).turn 1 =
        { store := (contended.turn 3).store
          callers := (contended.turn 3).callers.set 1
            (.updated (.error (.notFound pending.className pending.objectId))) } := by
  have harmless := stale_merges_harmless contenders [0, 1, 3, 2, 2]
  refine ⟨_, rfl, ?_, ?_, ?_⟩
  · rcases harmless.written 1 _ rfl ⟨_, rfl⟩ with done | ⟨entry, member, _, refused⟩
    · exact done
    · cases List.mem_singleton.mp member
      rcases refused with misnamed | clash
      · exact absurd misnamed (by decide)
      · exact absurd ⟨_, rfl, Or.inr rfl⟩ clash
  · exact .deleted rfl rfl
  · exact harmless.refused 1 _ 3 [] (.deleted rfl rfl) _ rfl rfl

end Workspace

end TypedRecords
