import TypedRecords.Proofs.Evolution
import TypedRecords.Proofs.Reuse

/-!
# Interleaved callers

An update of a record takes two steps of a store, and so does a deletion: one that reads the record
and one that writes. Between them the store serves other callers. A `Workspace` is a store with its
callers, and a schedule tells whose turn it is, again and again, in any order; every turn is one
step. Two turns in succession come to what the update, or the deletion, does at once.

Whatever the order, the store evolves, and an update that has read its record remembers fields that
the schema of the class still covers if the record still lives.
-/

namespace TypedRecords

open TypedRecords.Action

namespace Records

variable (className objectId data : Json)

/-- The first step of an update: check the arguments and read the record. It gives the fields to set
and the record. -/
def beginUpdate : Action (List (String × Value) × Record) := do
  Action.ofInput (requireClass className)
  Action.ofInput (requireArgument "objectId" objectId)
  Action.ofInput (requireArgument "data" data)
  let patch ← Action.ofInput (decodeData "data" data)
  let existing ← find className objectId
  return (patch, existing)

/-- The second step of an update: write the fields that were read, with those of the patch set. -/
def endUpdate (patch : List (String × Value)) (existing : Record) : Action Record :=
  Backend.update className objectId (Entries.merge existing.fields patch)

theorem update_eq_bind :
    update className objectId data = (do
      let read ← beginUpdate className objectId data
      endUpdate className objectId read.1 read.2) := by
  simp [update, beginUpdate, endUpdate, mergePatch]

/-- The first step of a deletion: check the arguments and read the record. -/
def beginDelete : Action Unit := do
  Action.ofInput (requireClass className)
  Action.ofInput (requireArgument "objectId" objectId)
  let _ ← find className objectId

theorem delete_eq_bind :
    delete className objectId = (do
      beginDelete className objectId
      Backend.delete className objectId) := by
  simp [delete, beginDelete]

theorem keepsBackend_beginUpdate : (beginUpdate className objectId data).KeepsBackend := by
  apply KeepsBackend.bind (.ofInput _)
  intro named
  apply KeepsBackend.bind (.ofInput _)
  intro known
  apply KeepsBackend.bind (.ofInput _)
  intro given
  apply KeepsBackend.bind (.ofInput _)
  intro patch
  apply KeepsBackend.bind (keepsBackend_find className objectId)
  intro existing
  exact .pure _

theorem keepsBackend_beginDelete : (beginDelete className objectId).KeepsBackend := by
  apply KeepsBackend.bind (.ofInput _)
  intro named
  apply KeepsBackend.bind (.ofInput _)
  intro known
  apply KeepsBackend.bind (keepsBackend_find className objectId)
  intro existing
  exact .pure _

variable {className objectId data}

/-- An update that begins has read its patch from its data, and has found its record. -/
theorem beginUpdate_eq_ok {backend after : Backend} {patch : List (String × Value)}
    {existing : Record}
    (ran : (beginUpdate className objectId data).run backend = (.ok (patch, existing), after)) :
    decodeData "data" data = .ok patch ∧
      backend.store.getById className objectId = .ok (some existing) := by
  rcases KeepsBackend.bind_eq_ok (.ofInput _) ran with ⟨_, _, ran⟩
  rcases KeepsBackend.bind_eq_ok (.ofInput _) ran with ⟨_, _, ran⟩
  rcases KeepsBackend.bind_eq_ok (.ofInput _) ran with ⟨_, _, ran⟩
  rcases KeepsBackend.bind_eq_ok (.ofInput _) ran with ⟨read, decoded, ran⟩
  rcases KeepsBackend.bind_eq_ok (keepsBackend_find _ _) ran with ⟨record, found, ran⟩
  cases ran
  refine ⟨of_run_ofInput decoded, ?_⟩
  rcases run_find_cases className objectId backend with ⟨failure, ran⟩ | ⟨record, known, ran⟩
  · rw [found] at ran
    cases ran
  · rw [found] at ran
    cases ran
    exact known

end Records

/-- The backend in which a store serves one step of a caller. -/
def Store.serving (store : Store) (now : Moment) : Backend :=
  { name := .text "memory", now, store }

/-- What a caller asks of a store. A request takes one step. An update and a deletion of a record
take two, at a moment. -/
inductive Job where
  | request (request : Request)
  | update (now : Moment) (className objectId data : Json)
  | delete (now : Moment) (className objectId : Json)

/-- An update that has read its record and not yet written. -/
structure PendingUpdate where
  now : Moment
  className : Json
  objectId : Json
  patch : List (String × Value)
  existing : Record

/-- The writing step of an update that has read its record. -/
def PendingUpdate.write (pending : PendingUpdate) : Action Record :=
  Records.endUpdate pending.className pending.objectId pending.patch pending.existing

/-- How far a caller has come. -/
inductive Caller where
  | waiting (job : Job)
  | updating (pending : PendingUpdate)
  | deleting (now : Moment) (className objectId : Json)
  | answered (outcome : Except Failure Json)
  | updated (outcome : Except Failure Record)
  | deleted (outcome : Except Failure Unit)

namespace Caller

/-- The next step of a caller, with the store that it leaves. A caller that has its outcome takes no
further step. -/
def turn (store : Store) : Caller → Caller × Store
  | .waiting (.request request) => (.answered (request.outcome store), request.next store)
  | .waiting (.update now className objectId data) =>
      match (Records.beginUpdate className objectId data).run (store.serving now) with
      | (.ok (patch, existing), after) =>
          (.updating { now, className, objectId, patch, existing }, after.store)
      | (.error failure, after) => (.updated (.error failure), after.store)
  | .waiting (.delete now className objectId) =>
      match (Records.beginDelete className objectId).run (store.serving now) with
      | (.ok _, after) => (.deleting now className objectId, after.store)
      | (.error failure, after) => (.deleted (.error failure), after.store)
  | .updating pending =>
      let ran := pending.write.run (store.serving pending.now)
      (.updated ran.1, ran.2.store)
  | .deleting now className objectId =>
      let ran := (Backend.delete className objectId).run (store.serving now)
      (.deleted ran.1, ran.2.store)
  | caller => (caller, store)

variable {store middle : Store} {caller : Caller} {now : Moment} {className objectId data : Json}

/-- Two turns in succession come to what the update does at once. -/
theorem turn_turn_update
    (first : turn store (.waiting (.update now className objectId data)) = (caller, middle)) :
    caller.turn middle =
      let ran := (Records.update className objectId data).run (store.serving now)
      (.updated ran.1, ran.2.store) := by
  have kept := Records.keepsBackend_beginUpdate className objectId data (store.serving now)
  rw [Records.update_eq_bind, run_bind]
  rw [turn] at first
  rcases began : (Records.beginUpdate className objectId data).run (store.serving now) with
    ⟨failure | ⟨patch, existing⟩, after⟩
  · rw [began] at first kept
    subst kept
    cases first
    rfl
  · rw [began] at first kept
    subst kept
    cases first
    rfl

theorem turn_turn_delete
    (first : turn store (.waiting (.delete now className objectId)) = (caller, middle)) :
    caller.turn middle =
      let ran := (Records.delete className objectId).run (store.serving now)
      (.deleted ran.1, ran.2.store) := by
  have kept := Records.keepsBackend_beginDelete className objectId (store.serving now)
  rw [Records.delete_eq_bind, run_bind]
  rw [turn] at first
  rcases began : (Records.beginDelete className objectId).run (store.serving now) with
    ⟨failure | _, after⟩
  · rw [began] at first kept
    subst kept
    cases first
    rfl
  · rw [began] at first kept
    subst kept
    cases first
    rfl

end Caller

/-- The update remembers a record that was filed under an id issued in its class, and none of the
fields to write is reserved. If the record lives, the schema of the class covers what is
remembered. -/
structure PendingUpdate.Sound (pending : PendingUpdate) (store : Store) : Prop where
  className : pending.className = .text pending.existing.className
  objectId : pending.objectId = .text pending.existing.objectId
  issued : pending.existing.objectId ∈ store.issuedFor (.text pending.existing.className)
  unreserved : Schema.Unreserved (Entries.merge pending.existing.fields pending.patch)
  covered : store.Live (.text pending.existing.className) pending.existing.objectId →
    (store.schemaOf (.text pending.existing.className)).Covers pending.existing.fields

theorem PendingUpdate.Sound.evolve {pending : PendingUpdate} {before after : Store}
    (sound : pending.Sound before) (evolves : before.Evolves after) : pending.Sound after where
  className := sound.className
  objectId := sound.objectId
  issued := evolves.issued _ sound.issued
  unreserved := sound.unreserved
  covered live := by
    rcases evolves.lived _ _ sound.issued live with ⟨lived, grown⟩
    exact grown.covers (sound.covered lived)

namespace Caller

variable {store : Store} {caller : Caller}

/-- What a pending update has read is in keeping with the store; a caller without one is sound. -/
def Sound (caller : Caller) (store : Store) : Prop :=
  ∀ pending, caller = .updating pending → pending.Sound store

theorem sound_updating {now : Moment} {className objectId data : Json}
    {patch : List (String × Value)} {existing : Record} {after : Backend} (stored : store.Sound)
    (began : (Records.beginUpdate className objectId data).run (store.serving now) =
      (.ok (patch, existing), after)) :
    ({ now, className, objectId, patch, existing } : PendingUpdate).Sound store := by
  rcases Records.beginUpdate_eq_ok began with ⟨decoded, found⟩
  rcases Store.getById_eq_ok found with ⟨key, objectKey, keyed, objectKeyed, found⟩
  have filed := stored.wellFormed.records key objectKey existing found
  rcases filed.className with rfl
  rcases filed.identified with rfl
  exact {
    className := Json.eq_text_of_key keyed
    objectId := Json.eq_text_of_key objectKeyed
    issued := filed.objectId
    unreserved := filed.unreserved.merge (Records.unreserved_of_decodeData decoded)
    covered := fun _ => filed.covered }

/-- Whatever step a caller takes, the store evolves, and the caller remembers what it has read
there. -/
theorem turn_sound (sound : caller.Sound store) (stored : store.Sound) :
    (caller.turn store).2.Sound ∧ store.Evolves (caller.turn store).2 ∧
      (caller.turn store).1.Sound (caller.turn store).2 := by
  cases caller with
  | waiting job =>
      cases job with
      | request request =>
          rcases request.evolves_next stored with ⟨next, evolves⟩
          exact ⟨next, evolves, nofun⟩
      | update now className objectId data =>
          have kept := Records.keepsBackend_beginUpdate className objectId data (store.serving now)
          rw [turn]
          rcases began : (Records.beginUpdate className objectId data).run (store.serving now) with
            ⟨failure | ⟨patch, existing⟩, after⟩
          · rw [began] at kept
            subst kept
            exact ⟨stored, .refl _, nofun⟩
          · rw [began] at kept
            subst kept
            refine ⟨stored, .refl _, ?_⟩
            rintro pending same
            cases same
            exact sound_updating stored began
      | delete now className objectId =>
          have kept := Records.keepsBackend_beginDelete className objectId (store.serving now)
          rw [turn]
          rcases began : (Records.beginDelete className objectId).run (store.serving now) with
            ⟨failure | _, after⟩
          · rw [began] at kept
            subst kept
            exact ⟨stored, .refl _, nofun⟩
          · rw [began] at kept
            subst kept
            exact ⟨stored, .refl _, nofun⟩
  | updating pending =>
      have remembered := sound pending rfl
      have wrote : pending.write.LeavesStore (fun after => after.Sound ∧ store.Evolves after)
          (store.serving pending.now) := by
        apply LeavesStore.writing _ ⟨stored, .refl _⟩
        intro record after rest done
        exact Store.evolves_of_update stored remembered.unreserved (Backend.eq_ok_of_result done)
      exact ⟨wrote.1, wrote.2, nofun⟩
  | deleting now className objectId =>
      have wrote : (Backend.delete className objectId).LeavesStore
          (fun after => after.Sound ∧ store.Evolves after) (store.serving now) := by
        apply LeavesStore.writing _ ⟨stored, .refl _⟩
        intro _ after rest done
        exact Store.evolves_of_delete stored (Backend.eq_ok_of_store done)
      exact ⟨wrote.1, wrote.2, nofun⟩
  | answered outcome => exact ⟨stored, .refl _, nofun⟩
  | updated outcome => exact ⟨stored, .refl _, nofun⟩
  | deleted outcome => exact ⟨stored, .refl _, nofun⟩

end Caller

/-- A store and its callers. -/
structure Workspace where
  store : Store := {}
  callers : List Caller

namespace Workspace

/-- An empty store and callers that wait for their first turn. -/
def start (jobs : List Job) : Workspace :=
  { callers := jobs.map .waiting }

/-- Let the caller with the given index take its next step; an index of no caller does nothing. -/
def turn (workspace : Workspace) (index : Nat) : Workspace :=
  match workspace.callers[index]? with
  | some caller =>
      let (next, store) := caller.turn workspace.store
      { store, callers := workspace.callers.set index next }
  | none => workspace

/-- The workspace after the turns of a schedule. -/
def after (workspace : Workspace) (schedule : List Nat) : Workspace :=
  schedule.foldl turn workspace

variable {workspace : Workspace} {index : Nat} {caller : Caller}

theorem turn_eq (taking : workspace.callers[index]? = some caller) :
    workspace.turn index =
      { store := (caller.turn workspace.store).2,
        callers := workspace.callers.set index (caller.turn workspace.store).1 } := by
  rw [turn, taking]

theorem callers_turn (taking : workspace.callers[index]? = some caller) :
    (workspace.turn index).callers[index]? = some (caller.turn workspace.store).1 := by
  rcases List.getElem?_eq_some_iff.mp taking with ⟨bound, _⟩
  rw [turn_eq taking]
  exact List.getElem?_set_self bound

theorem after_cons (workspace : Workspace) (index : Nat) (schedule : List Nat) :
    workspace.after (index :: schedule) = (workspace.turn index).after schedule :=
  rfl

/-- The store is sound, and so is what its callers remember of it. -/
structure Sound (workspace : Workspace) : Prop where
  store : workspace.store.Sound
  callers : ∀ caller ∈ workspace.callers, caller.Sound workspace.store

theorem sound_start (jobs : List Job) : (start jobs).Sound where
  store := Store.sound_empty
  callers caller member := by
    rcases List.mem_map.mp member with ⟨job, _, rfl⟩
    exact nofun

/-- One turn: the store evolves, and what the callers remember stays sound. -/
theorem Sound.turn (sound : workspace.Sound) (index : Nat) :
    (workspace.turn index).Sound ∧ workspace.store.Evolves (workspace.turn index).store := by
  rcases taking : workspace.callers[index]? with _ | caller
  · rw [Workspace.turn, taking]
    exact ⟨sound, .refl _⟩
  · have member := List.mem_of_getElem? taking
    rcases Caller.turn_sound (sound.callers caller member) sound.store with ⟨stored, evolves, next⟩
    rw [turn_eq taking]
    refine ⟨⟨stored, ?_⟩, evolves⟩
    intro other among
    rcases List.mem_or_eq_of_mem_set among with old | rfl
    · exact fun pending same => (sound.callers other old pending same).evolve evolves
    · exact next

/-- Any number of turns, in any order. -/
theorem Sound.after (sound : workspace.Sound) (schedule : List Nat) :
    (workspace.after schedule).Sound ∧
      workspace.store.Evolves (workspace.after schedule).store := by
  induction schedule generalizing workspace with
  | nil => exact ⟨sound, .refl _⟩
  | cons index rest ih =>
      rcases sound.turn index with ⟨next, evolves⟩
      rcases ih next with ⟨last, evolvesLater⟩
      exact ⟨last, evolves.trans evolvesLater⟩

end Workspace

end TypedRecords
