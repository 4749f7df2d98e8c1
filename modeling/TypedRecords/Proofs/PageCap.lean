import TypedRecords.Proofs.CreationOrder
import TypedRecords.Proofs.Readability

/-!
# How many records a page can have

A caller sets a limit, or the configuration does in its place, and the largest page size of the
configuration caps what was set. Where neither sets a limit there is nothing to cap: the page then
has all records after those that are skipped.
-/

namespace TypedRecords

namespace Operation

/-- A limit that is capped and accepted is none at all, or it is under the cap. A truth value is
capped as a number, but accepted only if the cap takes its place. -/
theorem size_of_capLimit {wanted limit : Json} {largest : Nat} {size : Option Nat}
    (capped : capLimit wanted (.int largest) = .ok limit)
    (accepted : Records.checkLimit limit = .ok size) :
    wanted = .null ∧ size = none ∨ ∃ number, size = some number ∧ number ≤ largest := by
  cases wanted with
  | null =>
      cases capped
      cases accepted
      exact Or.inl ⟨rfl, rfl⟩
  | int count =>
      right
      simp only [capLimit, Json.key, Quantity.lt_ofInt, decide_eq_true_eq] at capped
      cases capped
      split at accepted
      · cases accepted
        exact ⟨largest, rfl, Nat.le_refl largest⟩
      · cases count with
        | ofNat number =>
            cases accepted
            refine ⟨number, rfl, ?_⟩
            simp only [Int.ofNat_eq_natCast] at *
            omega
        | negSucc number => cases accepted
  | bool flag =>
      right
      simp only [capLimit, Json.key, Quantity.lt_ofInt, decide_eq_true_eq] at capped
      generalize (if flag = true then (1 : Int) else 0) = count at capped
      cases capped
      split at accepted
      · cases accepted
        exact ⟨largest, rfl, Nat.le_refl largest⟩
      · cases accepted
  | double => cases capped; cases accepted
  | text => cases capped; cases accepted
  | array => cases capped; cases accepted
  | object => cases capped; cases accepted
  | foreign => cases capped; cases accepted

end Operation

namespace Request

open TypedRecords.Action

variable {request : Request} {store : Store}

/-- A request for a page that succeeds has asked for one as it should. -/
theorem exists_asksPage_of_ok (named : request.name = .text "readTable") {answer : Json}
    (answered : request.outcome store = .ok answer) :
    ∃ className predicates size start, request.AsksPage className predicates size start := by
  have registered : Operation.readTable ∈ Operation.builtin := by simp [Operation.builtin]
  rcases exists_text_of_readTable named answered with ⟨className, inClass⟩
  rcases answer_run_of_ok registered named answered with ⟨after, ran, _⟩
  rcases KeepsBackend.bind_eq_ok (.ofHost _) ran with ⟨limit, capped, ran⟩
  rcases KeepsBackend.bind_eq_ok (Records.keepsBackend_read _ _ _ _ _) ran with ⟨_, read, _⟩
  rcases KeepsBackend.bind_eq_ok (.ofInput _) read with ⟨_, set, read⟩
  rcases KeepsBackend.bind_eq_ok (.ofInput _) read with ⟨size, limited, read⟩
  rcases KeepsBackend.bind_eq_ok (.ofInput _) read with ⟨start, skipped, read⟩
  rcases KeepsBackend.bind_eq_ok (.ofInput _) read with ⟨predicates, compiled, _⟩
  rw [run_ofHost, Prod.mk.injEq, Except.mapError_eq_ok_iff] at capped
  refine ⟨className, predicates, size, start, named, inClass, ?_, of_run_ofInput compiled,
    ⟨limit, capped.1, of_run_ofInput limited⟩, of_run_ofInput skipped⟩
  rintro rfl
  have truthy := Records.isTruthy_of_requireClass (of_run_ofInput set)
  rw [show Json.entry request.given "className" = .text "" from inClass] at truthy
  cases truthy

theorem AsksPage.page_of_ok {className : String} {predicates : List Predicate}
    {size : Option Nat} {start : Nat} (asks : request.AsksPage className predicates size start)
    {answer : Json} (answered : request.outcome store = .ok answer) :
    ∃ data, answer = Answer.page className data ∧
      (Store.page (store.matching (.text className) predicates) (size.map Int.ofNat) start).mapM
        Record.sent = .ok data := by
  rw [outcome, asks.run_eq, Except.mapError_eq_ok_iff] at answered
  rcases sent : List.mapM Record.sent _ with error | data
  · rw [sent] at answered
    cases answered
  · rw [sent] at answered
    cases answered
    exact ⟨data, rfl, rfl⟩

end Request

namespace Settings

/-- Neither the request nor the configuration sets a limit to the page. -/
def LeavesOpen (settings : Settings) (request : Request) : Prop :=
  request.parameter "limit" = .null ∧ settings.service.lookup "default_limit" = some .null

theorem limits_of_operationSettings {settings : Settings} {service : ServiceSettings}
    (configured : Service.operationSettings settings = .ok service) :
    service.defaultLimit = (settings.service.lookup "default_limit").getD Records.defaultLimit ∧
      service.maxLimit = Json.entry settings.service "max_limit" := by
  simp only [Service.operationSettings, Except.bind_eq_ok_iff, Except.pure_eq_ok_iff] at configured
  rcases configured with ⟨features, _, rfl⟩
  exact ⟨rfl, rfl⟩

theorem leavesOpen_iff {settings : Settings} {request : Request}
    (configured : Service.operationSettings settings = .ok request.settings) :
    settings.LeavesOpen request ↔
      (request.parameter "limit").orElse request.settings.defaultLimit = .null := by
  rw [LeavesOpen, (limits_of_operationSettings configured).1, Json.orElse_eq_null_iff]
  rcases settings.service.lookup "default_limit" with _ | value
  · simp [Records.defaultLimit]
  · simp

end Settings

namespace Store

/-- In a store that a run of requests leads to, a page of a service with a largest page size has at
most as many records, unless neither the request nor the configuration sets a limit; it then has all
records that pass the filter but those that are skipped. -/
theorem page_capped_unless_open (requests : List Request) {settings : Settings} {largest : Nat}
    (capped : settings.service.lookup "max_limit" = some (.int largest)) {request : Request}
    (configured : Service.operationSettings settings = .ok request.settings)
    (named : request.name = .text "readTable") {answer : Json}
    (answered : request.outcome (({} : Store).after requests) = .ok answer) :
    ∃ className data, answer = .object [("success", .bool true), ("className", .text className),
        ("count", .int data.length), ("data", .array data)] ∧
      (¬ settings.LeavesOpen request → data.length ≤ largest) ∧
      (settings.LeavesOpen request → ∃ predicates start records,
        request.AsksPage className predicates none start ∧
          (({} : Store).after requests).Selects (.text className) predicates records ∧
          (records.drop start).mapM Record.sent = .ok data) := by
  have wellFormed := WellFormed.empty.after requests
  have ordered := inOrder_after requests
  rcases Settings.limits_of_operationSettings configured with ⟨byDefault, most⟩
  rw [Json.entry, capped, Option.getD_some] at most
  rcases Request.exists_asksPage_of_ok named answered with
    ⟨className, predicates, size, start, asks⟩
  rcases asks.page_of_ok answered with ⟨data, rfl, sent⟩
  rw [page_eq] at sent
  rcases asks.limited with ⟨limit, decided, accepted⟩
  rw [most] at decided
  rw [Settings.leavesOpen_iff configured]
  refine ⟨className, data, rfl, ?_, ?_⟩
  · intro bounded
    rcases Operation.size_of_capLimit decided accepted with ⟨unset, _⟩ | ⟨number, rfl, within⟩
    · exact absurd unset bounded
    · rw [Except.length_of_mapM_eq_ok sent]
      exact Nat.le_trans (List.length_take_le _ _) within
  · intro unset
    rw [unset] at decided
    cases decided
    cases accepted
    exact ⟨predicates, start, _, asks, selects_matching wellFormed ordered _ _, sent⟩

/-- Two creations of a record, one after the other. -/
def twoFilings : List Request :=
  [filing [("n", .int 1)] "a", filing [("n", .int 2)] "b"]

/-- The default configuration with pages of at most one record. -/
def pagesOfOne (byDefault : Json) : Settings :=
  { Settings.default with
    service := Entries.merge Settings.default.service
      [("default_limit", byDefault), ("max_limit", .int 1)] }

/-- A request for the records of a class that leaves the size of the page to a service with the
configuration. -/
def openReading (byDefault : Json) : Request :=
  .asking
    { defaultLimit := byDefault
      maxLimit := .int 1
      version := "4.10.4"
      features := [(.text "liveQueries", .bool true), (.text "redisCache", .bool true),
        (.text "dashboard", .bool true), (.text "publicAccess", .bool true)] }
    { instant := 0, offset := 0 } {} "readTable" [("className", .text "A")]

theorem operationSettings_pagesOfOne (byDefault : Json) :
    Service.operationSettings (pagesOfOne byDefault) = .ok (openReading byDefault).settings :=
  rfl

theorem asksPage_openReading {byDefault limit : Json} {size : Option Nat}
    (capped : Operation.capLimit byDefault (.int 1) = .ok limit)
    (accepted : Records.checkLimit limit = .ok size) :
    (openReading byDefault).AsksPage "A" [] size 0 where
  named := rfl
  inClass := rfl
  set := by decide
  compiled := rfl
  limited := ⟨limit, capped, accepted⟩
  skipped := rfl

theorem length_recordsOf_twoFilings :
    ((({} : Store).after twoFilings).recordsOf (.text "A")).length = 2 := by
  decide +kernel

theorem encodable_twoFilings :
    ∀ record ∈ (({} : Store).after twoFilings).recordsOf (.text "A"),
      ∃ entries, record.encode = .ok entries := by
  have writable : ((({} : Store).after twoFilings).recordsOf (.text "A")).all
      Record.isWritable = true := by decide +kernel
  intro record member
  rw [exists_encode_iff_of_mem_recordsOf (WellFormed.empty.after _) member]
  exact List.all_eq_true.mp writable record member

theorem exists_answer_openReading {byDefault : Json} {size : Option Nat}
    (asks : (openReading byDefault).AsksPage "A" [] size 0) :
    ∃ answer, (openReading byDefault).outcome (({} : Store).after twoFilings) = .ok answer := by
  rcases asks.exists_page encodable_twoFilings with ⟨data, _, answered⟩
  exact ⟨_, answered⟩

/-- One of two records is on a page for which a hundred are wanted by default. -/
theorem one_of_two_on_page :
    (pagesOfOne (.int 100)).service.lookup "max_limit" = some (.int 1) ∧
      Service.operationSettings (pagesOfOne (.int 100)) =
        .ok (openReading (.int 100)).settings ∧
      (openReading (.int 100)).name = .text "readTable" ∧
      ¬ (pagesOfOne (.int 100)).LeavesOpen (openReading (.int 100)) ∧
      ∃ className data, (openReading (.int 100)).outcome (({} : Store).after twoFilings) =
        .ok (Answer.page className data) ∧ data.length ≤ 1 := by
  have largest : ({ maxLimit := .int 1 } : ServiceSettings).AllowsRecords :=
    Or.inr ⟨1, Nat.le_refl 1, rfl⟩
  have asks : (openReading (.int 100)).AsksPage "A" [] (some 1) 0 :=
    asksPage_openReading (Operation.capLimit_int largest 100) rfl
  have closed : ¬ (pagesOfOne (.int 100)).LeavesOpen (openReading (.int 100)) := by
    rintro ⟨_, unlimited⟩
    cases unlimited
  rcases exists_answer_openReading asks with ⟨answer, answered⟩
  rcases page_capped_unless_open twoFilings rfl (operationSettings_pagesOfOne (.int 100)) rfl
    answered with ⟨className, data, rfl, capped, _⟩
  exact ⟨rfl, operationSettings_pagesOfOne _, rfl, closed, className, data, answered, capped closed⟩

/-- A default that sets no limit slips past the largest page size. -/
theorem not_forall_page_capped :
    ¬ ∀ (requests : List Request) (settings : Settings) (largest : Nat) (request : Request)
      (className : String) (data : List Json),
      settings.service.lookup "max_limit" = some (.int largest) →
        (settings.service.lookup "default_limit" = some .null ∨
          ∃ limit : Nat, settings.service.lookup "default_limit" = some (.int limit)) →
        Service.operationSettings settings = .ok request.settings →
        request.name = .text "readTable" →
        request.outcome (({} : Store).after requests) = .ok (Answer.page className data) →
          data.length ≤ largest := by
  intro capped
  have asks : (openReading .null).AsksPage "A" [] none 0 := asksPage_openReading rfl rfl
  rcases exists_answer_openReading asks with ⟨answer, answered⟩
  rcases asks.page_of_ok answered with ⟨data, rfl, sent⟩
  have short := capped twoFilings (pagesOfOne .null) 1 (openReading .null) "A" data rfl
    (Or.inl rfl) (operationSettings_pagesOfOne .null) rfl answered
  rw [Except.length_of_mapM_eq_ok sent, page_eq, matching_nil, List.drop_zero,
    length_recordsOf_twoFilings] at short
  omega

end Store

end TypedRecords
