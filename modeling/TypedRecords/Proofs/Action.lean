import TypedRecords.Store.Backend

/-!
# Laws of actions

An action is run on a backend and gives an outcome together with the backend that it leaves. The
laws below take the run of a composed action apart: into the failure of its first part, or the
result of the first part and the run of what follows. `Action.KeepsBackend` says that an action
leaves every backend as it found it, whether it fails or not; reading calls, checks and the
building of answers do.
-/

namespace Except

variable {Error OtherError Result Next : Type}

theorem bind_eq_ok_iff {first : Except Error Result} {next : Result → Except Error Next}
    {final : Next} :
    (first >>= next) = .ok final ↔ ∃ result, first = .ok result ∧ next result = .ok final := by
  cases first <;> simp [bind, Except.bind]

@[simp]
theorem mapError_ok (translate : Error → OtherError) (result : Result) :
    (ok result : Except Error Result).mapError translate = ok result :=
  rfl

@[simp]
theorem mapError_error (translate : Error → OtherError) (error : Error) :
    (Except.error error : Except Error Result).mapError translate = .error (translate error) :=
  rfl

theorem mapError_eq_ok_iff {checked : Except Error Result} {translate : Error → OtherError}
    {result : Result} : checked.mapError translate = .ok result ↔ checked = .ok result := by
  cases checked <;> simp

@[simp]
theorem pure_eq_ok_iff {result final : Result} :
    (pure result : Except Error Result) = .ok final ↔ result = final := by
  simp [pure, Except.pure]

/-- A computation whose last step succeeds does so when its first one does. -/
theorem exists_bind_pure_iff {first : Except Error Result} {change : Result → Next} :
    (∃ final, (first >>= fun result => pure (change result)) = .ok final) ↔
      ∃ result, first = .ok result := by
  simp only [bind_eq_ok_iff, pure_eq_ok_iff]
  constructor
  · rintro ⟨_, result, computed, _⟩
    exact ⟨result, computed⟩
  · rintro ⟨result, computed⟩
    exact ⟨_, result, computed, rfl⟩

theorem exists_bind_bind_pure_iff {Other : Type} {first : Except Error Result}
    {second : Except Error Other} {combine : Result → Other → Next} :
    (∃ final, (first >>= fun result => second >>= fun other => pure (combine result other)) =
      .ok final) ↔ (∃ result, first = .ok result) ∧ ∃ other, second = .ok other := by
  simp only [bind_eq_ok_iff, pure_eq_ok_iff]
  constructor
  · rintro ⟨_, result, computed, other, more, _⟩
    exact ⟨⟨result, computed⟩, other, more⟩
  · rintro ⟨⟨result, computed⟩, other, more⟩
    exact ⟨_, result, computed, other, more, rfl⟩

end Except

namespace TypedRecords

namespace Action

variable {Result Next : Type}

/-- The action leaves every backend as it found it. -/
def KeepsBackend (action : Action Result) : Prop :=
  ∀ backend, (action.run backend).2 = backend

@[simp]
theorem run_ofInput (checked : Except InvalidInput Result) (backend : Backend) :
    (ofInput checked).run backend = (checked.mapError Failure.invalid, backend) :=
  rfl

@[simp]
theorem run_ofHost (checked : Except HostError Result) (backend : Backend) :
    (ofHost checked).run backend = (checked.mapError Failure.host, backend) :=
  rfl

@[simp]
theorem run_underLabel (label : Option String) (action : Action Result) (backend : Backend) :
    (underLabel label action).run backend =
      ((action.run backend).1.mapError (Failure.underLabel label), (action.run backend).2) :=
  rfl

theorem of_run_ofInput {checked : Except InvalidInput Result} {result : Result}
    {backend after : Backend} (ran : (ofInput checked).run backend = (.ok result, after)) :
    checked = .ok result := by
  rw [run_ofInput] at ran
  cases checked with
  | ok checked => cases ran; rfl
  | error reason => cases ran

theorem run_bind (action : Action Result) (next : Result → Action Next) (backend : Backend) :
    (action >>= next).run backend =
      match action.run backend with
      | (.ok result, after) => (next result).run after
      | (.error failure, after) => (.error failure, after) := by
  change ExceptT.bindCont next (action.run backend).1 (action.run backend).2 = _
  rcases action.run backend with ⟨outcome, after⟩
  cases outcome with
  | ok result => rfl
  | error failure => rfl

theorem run_bind_of_ok {action : Action Result} {next : Result → Action Next}
    {backend middle : Backend} {result : Result}
    (ran : action.run backend = (.ok result, middle)) :
    (action >>= next).run backend = (next result).run middle := by
  rw [run_bind, ran]

namespace KeepsBackend

theorem pure (result : Result) : (pure result : Action Result).KeepsBackend :=
  fun _ => rfl

theorem throw (failure : Failure) : (throw failure : Action Result).KeepsBackend :=
  fun _ => rfl

theorem ofInput (checked : Except InvalidInput Result) : (ofInput checked).KeepsBackend :=
  fun _ => rfl

theorem ofHost (checked : Except HostError Result) : (ofHost checked).KeepsBackend :=
  fun _ => rfl

theorem bind {action : Action Result} {next : Result → Action Next}
    (first : action.KeepsBackend) (rest : ∀ result, (next result).KeepsBackend) :
    (action >>= next).KeepsBackend := by
  intro backend
  have kept := first backend
  rw [run_bind]
  rcases ran : action.run backend with ⟨failure | result, after⟩
  · simpa [ran] using kept
  · rw [ran] at kept
    subst kept
    exact rest result after

theorem underLabel {action : Action Result} (kept : action.KeepsBackend)
    (label : Option String) : (underLabel label action).KeepsBackend :=
  kept

theorem mapM {Item : Type} {action : Item → Action Result}
    (kept : ∀ item, (action item).KeepsBackend) (items : List Item) :
    (items.mapM action).KeepsBackend := by
  induction items with
  | nil => exact pure []
  | cons item rest ih =>
      rw [List.mapM_cons]
      exact (kept item).bind fun _ => ih.bind fun _ => pure _

/-- A composed action that succeeds, and whose first part keeps the backend, runs the rest of it on
the same backend. -/
theorem bind_eq_ok {action : Action Result} {next : Result → Action Next}
    {backend after : Backend} {final : Next} (first : action.KeepsBackend)
    (ran : (action >>= next).run backend = (.ok final, after)) :
    ∃ result, action.run backend = (.ok result, backend) ∧
      (next result).run backend = (.ok final, after) := by
  have kept := first backend
  rw [run_bind] at ran
  rcases started : action.run backend with ⟨failure | result, middle⟩
  · rw [started] at ran
    cases ran
  · rw [started] at ran kept
    subst kept
    exact ⟨result, rfl, ran⟩

end KeepsBackend

/-- A composed action that succeeds, and whose rest keeps every backend, leaves the backend that
its first part leaves. -/
theorem run_eq_ok_of_keepsBackend {action : Action Result} {next : Result → Action Next}
    {backend after : Backend} {final : Next} (rest : ∀ result, (next result).KeepsBackend)
    (ran : (action >>= next).run backend = (.ok final, after)) :
    ∃ result, action.run backend = (.ok result, after) := by
  rw [run_bind] at ran
  rcases started : action.run backend with ⟨failure | result, middle⟩
  · rw [started] at ran
    cases ran
  · have kept := rest result middle
    rw [started] at ran
    simp only [ran] at kept
    exact ⟨result, by rw [kept]⟩

end Action

end TypedRecords
