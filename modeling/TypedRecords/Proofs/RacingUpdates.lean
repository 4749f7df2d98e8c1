import TypedRecords.Proofs.Interleaving

/-!
# Racing updates

Two callers update one record. Each reads the record in one turn and in a later one writes back all
that it read, with the fields of its own patch set. Of the two writes the last one decides: of what
the first one wrote it keeps only what its caller had read by then.

So if the last caller reads after the first has written, every field has the value of the last patch
that gives it. If it reads before that, what only the first patch gives is lost, unless it is what
the record had anyway (`Workspace.Contest.last_wins_iff`).
-/

namespace TypedRecords

theorem Store.getById_of_update {store after : Store} {now : Moment} {className objectId : Json}
    {fields : List (String × Value)} {record : Record}
    (done : store.update now className objectId fields = .ok (record, after)) :
    after.getById className objectId = .ok (some record) ∧ record.fields = fields := by
  rcases update_eq_ok done with ⟨name, key, existing, schema, rfl, keyed, _, _, written, rfl⟩
  constructor
  · rw [getById, keyed]
    change Except.ok _ = _
    rw [record?_setRecord, if_pos ⟨rfl, rfl⟩]
  · rw [written]

namespace Caller

variable {store : Store} {now : Moment} {className objectId data : Json}

@[simp]
theorem turn_updated (outcome : Except Failure Record) :
    turn store (.updated outcome) = (.updated outcome, store) :=
  rfl

/-- An update that has its first turn leaves the store. -/
theorem store_turn_of_waiting :
    (turn store (.waiting (.update now className objectId data))).2 = store := by
  have kept := Records.keepsBackend_beginUpdate className objectId data (store.serving now)
  rw [turn]
  rcases began : (Records.beginUpdate className objectId data).run (store.serving now) with
    ⟨failure | ⟨patch, existing⟩, after⟩
  · rw [began] at kept
    exact congrArg Backend.store kept
  · rw [began] at kept
    exact congrArg Backend.store kept

/-- The first turn of an update reads the record, or ends the update. -/
theorem turn_waiting_cases {patch : List (String × Value)}
    (decoded : Records.decodeData "data" data = .ok patch) :
    (∃ failure, (turn store (.waiting (.update now className objectId data))).1 =
        .updated (.error failure)) ∨
      ∃ existing, store.getById className objectId = .ok (some existing) ∧
        (turn store (.waiting (.update now className objectId data))).1 =
          .updating { now, className, objectId, patch, existing } := by
  rw [turn]
  rcases began : (Records.beginUpdate className objectId data).run (store.serving now) with
    ⟨failure | ⟨read, existing⟩, after⟩
  · exact Or.inl ⟨failure, rfl⟩
  · rcases Records.beginUpdate_eq_ok began with ⟨same, found⟩
    rw [decoded] at same
    cases same
    exact Or.inr ⟨existing, found, rfl⟩

/-- The second turn of an update writes what was read with the patch set, or ends the update. -/
theorem turn_updating_cases (pending : PendingUpdate) :
    (∃ failure, (turn store (.updating pending)).1 = .updated (.error failure)) ∨
      ∃ record, (turn store (.updating pending)).1 = .updated (.ok record) ∧
        (turn store (.updating pending)).2.getById pending.className pending.objectId =
          .ok (some record) ∧
        record.fields = Entries.merge pending.existing.fields pending.patch := by
  rw [turn]
  rcases ran : pending.write.run (store.serving pending.now) with ⟨failure | record, after⟩
  · exact Or.inl ⟨failure, rfl⟩
  · have done := Backend.eq_ok_of_result (Backend.run_writing_eq_ok ran)
    exact Or.inr ⟨record, rfl, Store.getById_of_update done⟩

end Caller

namespace Workspace

variable {workspace : Workspace} {schedule : List Nat} {index caller : Nat}

/-- The workspace after the turns of a schedule before a position. -/
def upTo (workspace : Workspace) (schedule : List Nat) (position : Nat) : Workspace :=
  workspace.after (schedule.take position)

theorem upTo_zero : workspace.upTo schedule 0 = workspace :=
  rfl

theorem upTo_length : workspace.upTo schedule schedule.length = workspace.after schedule := by
  rw [upTo, List.take_length]

theorem upTo_succ {position : Nat} (taking : schedule[position]? = some index) :
    workspace.upTo schedule (position + 1) = (workspace.upTo schedule position).turn index := by
  simp [upTo, after, List.take_add_one, taking]

theorem upTo_succ_of_none {position : Nat} (past : schedule[position]? = none) :
    workspace.upTo schedule (position + 1) = workspace.upTo schedule position := by
  simp [upTo, List.take_add_one, past]

theorem callers_turn_of_ne (different : index ≠ caller) :
    (workspace.turn index).callers[caller]? = workspace.callers[caller]? := by
  rw [turn]
  split
  · exact List.getElem?_set_ne different
  · rfl

/-- A caller that has no turn stays as it is. -/
theorem callers_upTo_of_idle {start stop : Nat} (later : start ≤ stop)
    (idle : ∀ position, start ≤ position → position < stop → schedule[position]? ≠ some caller) :
    (workspace.upTo schedule stop).callers[caller]? =
      (workspace.upTo schedule start).callers[caller]? := by
  induction later with
  | refl => rfl
  | @step stop later ih =>
      rw [← ih fun position first before => idle position first (by omega)]
      rcases taking : schedule[stop]? with _ | index
      · rw [upTo_succ_of_none taking]
      · have different : index ≠ caller := by
          rintro rfl
          exact idle stop later (by omega) taking
        rw [upTo_succ taking, callers_turn_of_ne different]

/-- An update that has its outcome keeps it. -/
theorem callers_upTo_of_updated {start stop : Nat} {outcome : Except Failure Record}
    (later : start ≤ stop)
    (done : (workspace.upTo schedule start).callers[caller]? = some (.updated outcome)) :
    (workspace.upTo schedule stop).callers[caller]? = some (.updated outcome) := by
  induction later with
  | refl => exact done
  | @step stop _ ih =>
      rcases taking : schedule[stop]? with _ | index
      · rw [upTo_succ_of_none taking, ih]
      · rw [upTo_succ taking]
        by_cases same : index = caller
        · rw [same, callers_turn ih, Caller.turn_updated]
        · rw [callers_turn_of_ne same, ih]

/-- A caller that is to update a record: the fields that it is to set, and the positions of the two
turns that it takes. -/
structure Rival where
  caller : Nat
  now : Moment
  data : Json
  patch : List (String × Value)
  reads : Nat
  writes : Nat

/-- The caller waits for its first turn; the schedule gives it its first two turns at the two
positions; and the update succeeds. -/
structure Rival.Enters (rival : Rival) (workspace : Workspace) (schedule : List Nat)
    (className objectId : Json) : Prop where
  calling : workspace.callers[rival.caller]? =
    some (.waiting (.update rival.now className objectId rival.data))
  decoded : Records.decodeData "data" rival.data = .ok rival.patch
  order : rival.reads < rival.writes
  reading : schedule[rival.reads]? = some rival.caller
  writing : schedule[rival.writes]? = some rival.caller
  noOther : ∀ position < rival.writes, schedule[position]? = some rival.caller →
    position = rival.reads
  succeeds : ∃ record,
    (workspace.after schedule).callers[rival.caller]? = some (.updated (.ok record))

namespace Rival.Enters

variable {className objectId : Json} {rival : Rival} {position : Nat}

theorem writes_lt_length (enters : rival.Enters workspace schedule className objectId) :
    rival.writes < schedule.length :=
  (List.getElem?_eq_some_iff.mp enters.writing).1

/-- An update that succeeds in the end does not fail before. -/
theorem not_failed (enters : rival.Enters workspace schedule className objectId)
    {failure : Failure} (early : position ≤ schedule.length)
    (failed : (workspace.upTo schedule position).callers[rival.caller]? =
      some (.updated (.error failure))) : False := by
  rcases enters.succeeds with ⟨record, succeeded⟩
  have stays := callers_upTo_of_updated early failed
  rw [upTo_length, succeeded] at stays
  cases stays

theorem waits (enters : rival.Enters workspace schedule className objectId)
    (early : position ≤ rival.reads) :
    (workspace.upTo schedule position).callers[rival.caller]? =
      some (.waiting (.update rival.now className objectId rival.data)) := by
  rw [callers_upTo_of_idle (Nat.zero_le position), upTo_zero, enters.calling]
  intro turn _ before taking
  have order := enters.order
  have first := enters.noOther turn (by omega) taking
  omega

/-- Between its two turns the caller remembers the record that it found in the first. -/
theorem exists_read (enters : rival.Enters workspace schedule className objectId) :
    ∃ existing,
      (workspace.upTo schedule rival.reads).store.getById className objectId =
        .ok (some existing) ∧
      ∀ position, rival.reads < position → position ≤ rival.writes →
        (workspace.upTo schedule position).callers[rival.caller]? =
          some (.updating
            { now := rival.now, className, objectId, patch := rival.patch, existing }) := by
  have order := enters.order
  have bound := enters.writes_lt_length
  have read := callers_turn (enters.waits (Nat.le_refl _))
  rw [← upTo_succ enters.reading] at read
  rcases Caller.turn_waiting_cases enters.decoded with ⟨failure, failed⟩ | ⟨existing, found, began⟩
  · rw [failed] at read
    exact (enters.not_failed (by omega) read).elim
  · refine ⟨existing, found, ?_⟩
    intro position after before
    rw [callers_upTo_of_idle after, read, began]
    intro turn later between taking
    have first := enters.noOther turn (by omega) taking
    omega

/-- In its second turn the caller writes the record that it found, with its patch set. -/
theorem exists_written (enters : rival.Enters workspace schedule className objectId) :
    ∃ existing record,
      (workspace.upTo schedule rival.reads).store.getById className objectId =
        .ok (some existing) ∧
      (workspace.upTo schedule (rival.writes + 1)).store.getById className objectId =
        .ok (some record) ∧
      record.fields = Entries.merge existing.fields rival.patch ∧
      (workspace.upTo schedule (rival.writes + 1)).callers[rival.caller]? =
        some (.updated (.ok record)) := by
  rcases enters.exists_read with ⟨existing, found, remembers⟩
  have calling := remembers rival.writes enters.order (Nat.le_refl _)
  have wrote := callers_turn calling
  rw [← upTo_succ enters.writing] at wrote
  rcases Caller.turn_updating_cases _ with ⟨failure, failed⟩ | ⟨record, done, written, fields⟩
  · rw [failed] at wrote
    exact (enters.not_failed enters.writes_lt_length wrote).elim
  · rw [done] at wrote
    refine ⟨existing, record, found, ?_, fields, wrote⟩
    rw [upTo_succ enters.writing, turn_eq calling]
    exact written

/-- Only in its second turn the caller touches the store. -/
theorem store_upTo_succ (enters : rival.Enters workspace schedule className objectId)
    (taking : schedule[position]? = some rival.caller) (other : position ≠ rival.writes) :
    (workspace.upTo schedule (position + 1)).store =
      (workspace.upTo schedule position).store := by
  rw [upTo_succ taking]
  by_cases before : position < rival.writes
  · have calling := enters.waits (Nat.le_of_eq (enters.noOther position before taking))
    rw [turn_eq calling]
    exact Caller.store_turn_of_waiting
  · rcases enters.exists_written with ⟨_, record, _, _, _, done⟩
    have ended := callers_upTo_of_updated (by omega : rival.writes + 1 ≤ position) done
    rw [turn_eq ended, Caller.turn_updated]

end Rival.Enters

/-- Two callers update the record of a class under an id, which exists, and no turn of another
caller touches it. They are named by the order of their writes. -/
structure Contest (workspace : Workspace) (schedule : List Nat) (className objectId : Json)
    (first last : Rival) (original : Record) : Prop where
  distinct : first.caller ≠ last.caller
  firstEnters : first.Enters workspace schedule className objectId
  lastEnters : last.Enters workspace schedule className objectId
  order : first.writes < last.writes
  found : workspace.store.getById className objectId = .ok (some original)
  untouched : ∀ position caller, schedule[position]? = some caller → caller ≠ first.caller →
    caller ≠ last.caller →
    (workspace.upTo schedule (position + 1)).store.getById className objectId =
      (workspace.upTo schedule position).store.getById className objectId

/-- Every field has the value that the last of two callers gives it, or else the first, or else the
value that it had. -/
def LastWins (original final : Record) (first last : Rival) : Prop :=
  ∀ field, final.fields.lookup field =
    (Entries.given? last.patch field).or
      ((Entries.given? first.patch field).or (original.fields.lookup field))

namespace Contest

variable {className objectId : Json} {first last : Rival} {original : Record}

/-- The record changes only where one of the two callers writes. -/
theorem getById_upTo (contest : Contest workspace schedule className objectId first last original)
    {start stop : Nat} (later : start ≤ stop)
    (quiet : ∀ position, start ≤ position → position < stop →
      position ≠ first.writes ∧ position ≠ last.writes) :
    (workspace.upTo schedule stop).store.getById className objectId =
      (workspace.upTo schedule start).store.getById className objectId := by
  induction later with
  | refl => rfl
  | @step stop later ih =>
      rw [← ih fun position after before => quiet position after (by omega)]
      rcases quiet stop later (by omega) with ⟨notFirst, notLast⟩
      rcases taking : schedule[stop]? with _ | index
      · rw [upTo_succ_of_none taking]
      · by_cases isFirst : index = first.caller
        · rw [contest.firstEnters.store_upTo_succ (isFirst ▸ taking) notFirst]
        · by_cases isLast : index = last.caller
          · rw [contest.lastEnters.store_upTo_succ (isLast ▸ taking) notLast]
          · exact contest.untouched stop index taking isFirst isLast

theorem reads_ne_writes
    (contest : Contest workspace schedule className objectId first last original) :
    last.reads ≠ first.writes := by
  intro same
  have taking := contest.lastEnters.reading
  rw [same, contest.firstEnters.writing] at taking
  exact contest.distinct (Option.some.inj taking)

theorem exists_final (contest : Contest workspace schedule className objectId first last original)
    {existing : Record}
    (read : (workspace.upTo schedule last.reads).store.getById className objectId =
      .ok (some existing)) :
    ∃ final, (workspace.after schedule).store.getById className objectId = .ok (some final) ∧
      final.fields = Entries.merge existing.fields last.patch := by
  rcases contest.lastEnters.exists_written with ⟨found, final, foundThere, written, fields, _⟩
  rw [read] at foundThere
  cases foundThere
  refine ⟨final, ?_, fields⟩
  have order := contest.order
  rw [← upTo_length, contest.getById_upTo contest.lastEnters.writes_lt_length, written]
  intro position after before
  omega

/-- A caller that reads before the other one writes finds the original record. -/
theorem read_original
    (contest : Contest workspace schedule className objectId first last original)
    {reads : Nat} (early : reads ≤ first.writes) :
    (workspace.upTo schedule reads).store.getById className objectId = .ok (some original) := by
  have order := contest.order
  rw [contest.getById_upTo (Nat.zero_le reads), upTo_zero, contest.found]
  intro position after before
  omega

theorem exists_final_of_lt
    (contest : Contest workspace schedule className objectId first last original)
    (early : last.reads < first.writes) :
    ∃ final, (workspace.after schedule).store.getById className objectId = .ok (some final) ∧
      final.fields = Entries.merge original.fields last.patch :=
  contest.exists_final (contest.read_original (Nat.le_of_lt early))

theorem exists_final_of_gt
    (contest : Contest workspace schedule className objectId first last original)
    (late : first.writes < last.reads) :
    ∃ final, (workspace.after schedule).store.getById className objectId = .ok (some final) ∧
      final.fields =
        Entries.merge (Entries.merge original.fields first.patch) last.patch := by
  rcases contest.firstEnters.exists_written with ⟨existing, record, found, written, fields, _⟩
  rw [contest.read_original (Nat.le_of_lt contest.firstEnters.order)] at found
  cases found
  rw [← fields]
  apply contest.exists_final
  have order := contest.lastEnters.order
  rw [contest.getById_upTo late, written]
  intro position after before
  omega

/-- Two updates of one record, in whatever order their turns come: the record stays, and the last
write wins for every field if and only if the last caller reads after the first has written, or all
that only the first caller gives is what the record had before. If the last caller reads earlier,
the record has nothing of what the first caller gave. -/
theorem last_wins_iff
    (contest : Contest workspace schedule className objectId first last original) :
    ∃ final, (workspace.after schedule).store.getById className objectId = .ok (some final) ∧
      (LastWins original final first last ↔ first.writes < last.reads ∨
        ∀ field value, Entries.given? last.patch field = none →
          Entries.given? first.patch field = some value →
            original.fields.lookup field = some value) ∧
      (last.reads < first.writes → ∀ field, final.fields.lookup field =
        (Entries.given? last.patch field).or (original.fields.lookup field)) := by
  rcases Nat.lt_or_gt_of_ne contest.reads_ne_writes with early | late
  · rcases contest.exists_final_of_lt early with ⟨final, found, fields⟩
    have kept : ∀ field, final.fields.lookup field =
        (Entries.given? last.patch field).or (original.fields.lookup field) := by
      intro field
      rw [fields, Entries.lookup_merge]
    refine ⟨final, found, ?_, fun _ => kept⟩
    constructor
    · intro wins
      right
      intro field value untold told
      have here := wins field
      simpa [kept, untold, told] using here
    · rintro (impossible | same) field
      · omega
      · rw [kept]
        rcases untold : Entries.given? last.patch field with _ | value
        · rcases told : Entries.given? first.patch field with _ | value
          · simp
          · simp [same field value untold told]
        · simp
  · rcases contest.exists_final_of_gt late with ⟨final, found, fields⟩
    refine ⟨final, found, ?_, fun early => by omega⟩
    simp only [late, true_or, iff_true]
    intro field
    rw [fields, Entries.lookup_merge, Entries.lookup_merge]

end Contest

/-- A request that files a record with the fields `a` and `b`, and two updates that set one of the
two each. -/
def rivalJobs : List Job :=
  let now : Moment := { instant := 0, offset := 0 }
  [.request (.call "createRecord" [("className", .text "A"),
      ("data", .object [("a", .int 1), ("b", .int 1)])] ["x"]),
    .update now (.text "A") (.text "x") (.object [("a", .int 2)]),
    .update now (.text "A") (.text "x") (.object [("b", .int 2)])]

/-- The second of `rivalJobs`, with the positions of its turns. -/
def settingA (reads writes : Nat) : Rival :=
  { caller := 1, now := { instant := 0, offset := 0 }, data := .object [("a", .int 2)],
    patch := [("a", .int 2)], reads, writes }

/-- The third of `rivalJobs`, with the positions of its turns. -/
def settingB (reads writes : Nat) : Rival :=
  { caller := 2, now := { instant := 0, offset := 0 }, data := .object [("b", .int 2)],
    patch := [("b", .int 2)], reads, writes }

/-- The record that the first of `rivalJobs` files. -/
def disputed : Record :=
  { className := "A", objectId := "x", fields := [("a", .int 1), ("b", .int 1)],
    access := AccessPolicy.everyone, createdAt := { instant := 0, offset := 0 },
    updatedAt := { instant := 0, offset := 0 } }

/-- Both callers read before one of them writes. -/
theorem contest_interleaved :
    Contest ((start rivalJobs).after [0]) [1, 2, 1, 2] (.text "A") (.text "x") (settingA 0 2)
      (settingB 1 3) disputed where
  distinct := by decide
  firstEnters := ⟨rfl, rfl, by decide, rfl, rfl, by decide, ⟨_, rfl⟩⟩
  lastEnters := ⟨rfl, rfl, by decide, rfl, rfl, by decide, ⟨_, rfl⟩⟩
  order := by decide
  found := rfl
  untouched := by
    intro position caller taking notFirst notLast
    have member := List.mem_of_getElem? taking
    simp_all [settingA, settingB]

/-- Both callers have their outcome, but the field that only the first one set is as before. -/
theorem first_update_lost :
    Contest ((start rivalJobs).after [0]) [1, 2, 1, 2] (.text "A") (.text "x") (settingA 0 2)
        (settingB 1 3) disputed ∧
      ∃ final, (((start rivalJobs).after [0]).after [1, 2, 1, 2]).store.getById (.text "A")
          (.text "x") = .ok (some final) ∧
        ¬ LastWins disputed final (settingA 0 2) (settingB 1 3) ∧
        final.fields.lookup "a" = some (.int 1) := by
  refine ⟨contest_interleaved, ?_⟩
  rcases Contest.last_wins_iff contest_interleaved with ⟨final, found, wins, lost⟩
  refine ⟨final, found, ?_, lost (by decide) "a"⟩
  rw [wins]
  rintro (late | same)
  · exact absurd late (by decide)
  · have known := same "a" (.int 2) rfl rfl
    cases known

/-- It is not so that of two updates of one record the last write wins for every field. -/
theorem not_forall_last_wins :
    ¬ ∀ (jobs : List Job) (early schedule : List Nat) (className objectId : Json)
      (first last : Rival) (original final : Record),
      Contest ((start jobs).after early) schedule className objectId first last original →
        (((start jobs).after early).after schedule).store.getById className objectId =
            .ok (some final) →
          LastWins original final first last := by
  intro all
  have wins := all rivalJobs [0] [1, 2, 1, 2] (.text "A") (.text "x") (settingA 0 2) (settingB 1 3)
    disputed { disputed with fields := [("a", .int 1), ("b", .int 2)] } contest_interleaved rfl "a"
  cases wins

end Workspace

end TypedRecords
