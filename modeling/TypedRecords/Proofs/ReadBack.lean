import TypedRecords.Proofs.ClassNames
import TypedRecords.Proofs.FailedRequests
import TypedRecords.Proofs.Persistence
import TypedRecords.Proofs.Reading

/-!
# Reading back what was written

A request that creates or updates a record answers with the record as it then stands in the store.
Since a record stays until a request names it, asking for it by its id later shows the same.
-/

namespace TypedRecords

namespace Request

open TypedRecords.Action

variable {request : Request} {store : Store} {className objectId : String} {data : Json}

/-- The record that a request writes is of the class that the request names. -/
theorem className_of_recordWrite (wellFormed : store.WellFormed) {write : Action Record}
    {record : Record} {after : Backend} (writes : request.recordWrite? = some write)
    (written : write.run (request.backend store) = (.ok record, after)) :
    request.parameter "className" = .text record.className := by
  rw [recordWrite?] at writes
  split at writes
  · cases writes
    rcases Records.create_eq_ok written with ⟨_, _, fields, _, done⟩
    exact Store.className_of_insert done
  · cases writes
    rcases Records.update_eq_ok written with ⟨_, _, _, _, _, _, done⟩
    exact (Store.names_of_update wellFormed done).1
  · cases writes

theorem objectId_of_update (wellFormed : store.WellFormed) {write : Action Record}
    {record : Record} {after : Backend} (named : request.name = .text "updateRecord")
    (writes : request.recordWrite? = some write)
    (written : write.run (request.backend store) = (.ok record, after)) :
    request.parameter "objectId" = .text record.objectId := by
  rw [recordWrite?, named] at writes
  cases writes
  rcases Records.update_eq_ok written with ⟨_, _, _, _, _, _, done⟩
  exact (Store.names_of_update wellFormed done).2

/-- An operation that writes a record and succeeds has shown the record. -/
theorem exists_recordShown_of_ok {operation : Operation}
    (registered : operation ∈ Operation.builtin) (named : request.name = .text operation.name)
    {write : Action Record} {message : String}
    (writes : operation.answer request.settings request.given =
      write >>= Operation.recordAnswer message) {answer : Json}
    (answered : request.outcome store = .ok answer) :
    ∃ record after entries, write.run (request.backend store) = (.ok record, after) ∧
      record.encode = .ok entries ∧ answer = Operation.recordShown message record entries := by
  rcases answer_run_of_ok registered named answered with ⟨after, ran, _⟩
  rw [writes] at ran
  rcases run_eq_ok_of_keepsBackend (Operation.keepsBackend_recordAnswer message) ran with
    ⟨record, written⟩
  rw [run_bind_of_ok written, Operation.run_recordAnswer] at ran
  rcases encoded : record.encode with error | entries
  · rw [encoded] at ran
    cases ran
  · rw [encoded] at ran
    cases ran
    exact ⟨record, after, entries, written, encoded, rfl⟩

theorem exists_recordWrite_of_ok {answer : Json}
    (named : request.name = .text "createRecord" ∨ request.name = .text "updateRecord")
    (answered : request.outcome store = .ok answer) :
    ∃ write message record after entries, request.recordWrite? = some write ∧
      write.run (request.backend store) = (.ok record, after) ∧
      record.encode = .ok entries ∧ answer = Operation.recordShown message record entries := by
  rcases named with named | named
  · have registered : Operation.createRecord ∈ Operation.builtin := by simp [Operation.builtin]
    have writes : request.recordWrite? = some (Records.create (request.parameter "className")
        (request.parameter "data")) := by rw [recordWrite?, named]; rfl
    rcases exists_recordShown_of_ok registered named rfl answered with
      ⟨record, after, entries, shown⟩
    exact ⟨_, _, record, after, entries, writes, shown⟩
  · have registered : Operation.updateRecord ∈ Operation.builtin := by simp [Operation.builtin]
    have writes : request.recordWrite? = some (Records.update (request.parameter "className")
        (request.parameter "objectId") (request.parameter "data")) := by
      rw [recordWrite?, named]; rfl
    rcases exists_recordShown_of_ok registered named rfl answered with
      ⟨record, after, entries, shown⟩
    exact ⟨_, _, record, after, entries, writes, shown⟩

/-- The request succeeds in creating or updating the record of a class under an id, and answers
with the data of the record. -/
def Writes (request : Request) (store : Store) (className objectId : String) (data : Json) : Prop :=
  request.parameter "className" = .text className ∧
    ∃ entries, request.outcome store = .ok (.object entries) ∧ Json.entry entries "data" = data ∧
      (request.name = .text "createRecord" ∧ Json.entry entries "objectId" = .text objectId ∨
        request.name = .text "updateRecord" ∧ request.parameter "objectId" = .text objectId)

/-- What the answer shows stands in the store. -/
theorem Writes.exists_record (writes : request.Writes store className objectId data)
    (wellFormed : store.WellFormed) :
    ∃ record, (request.next store).record? (.text className) (.text objectId) = some record ∧
      record.sent = .ok data := by
  rcases writes with ⟨inClass, entries, answered, rfl, known⟩
  have named : request.name = .text "createRecord" ∨ request.name = .text "updateRecord" :=
    known.imp And.left And.left
  rcases exists_recordWrite_of_ok named answered with
    ⟨write, message, record, after, wires, writes, written, encoded, shown⟩
  cases shown
  have stands := (run_of_recordWrite wellFormed writes written).2.1
  rw [change_of_recordWrite wellFormed writes written] at stands
  have sameClass := className_of_recordWrite wellFormed writes written
  rw [inClass] at sameClass
  have sameId : record.objectId = objectId := by
    rcases known with ⟨_, told⟩ | ⟨updates, told⟩
    · exact Json.text.inj told
    · rw [objectId_of_update wellFormed updates writes written] at told
      exact Json.text.inj told
  refine ⟨record, ?_, ?_⟩
  · rwa [Json.text.inj sameClass, ← sameId]
  · rw [Record.sent, encoded]
    rfl

end Request

namespace Store

/-- What a request answers about the record that it creates or updates is what a request for the
record by its id answers later, however many requests lie between, as long as none of them names the
record and the class is not removed. The filter selects the record alone, and a page of one record
holds it. -/
theorem read_back (earlier later : List Request) (request : Request) {className objectId : String}
    {data : Json} (writes : request.Writes (({} : Store).after earlier) className objectId data)
    (undisturbed : (({} : Store).after (earlier ++ [request])).Undisturbed className objectId later)
    {settings : ServiceSettings} (allowed : settings.AllowsRecords) (now : Moment)
    (ids : IdSource) :
    (Request.asking settings now ids "readTable" [("className", .text className),
        ("filters", .object [("objectId", .text objectId)]), ("limit", .int 1)]).outcome
      (({} : Store).after (earlier ++ request :: later)) =
        .ok (.object [("success", .bool true), ("className", .text className), ("count", .int 1),
          ("data", .array [data])]) := by
  have before := WellFormed.empty.after earlier
  rcases writes.exists_record before with ⟨record, found, sent⟩
  have next := request.wellFormed_next before
  rw [after_append] at undisturbed
  have stays := record?_after next found undisturbed
  have reached := next.after later
  have same : (request.next (({} : Store).after earlier)).after later =
      ({} : Store).after (earlier ++ request :: later) := by rw [after_append]; rfl
  rw [same] at stays reached
  have set := ne_empty_of_mem_schemas (reached.mem_schemas_of_record? stays)
  have size : settings.pageSize 1 = 1 :=
    Nat.le_antisymm (settings.pageSize_le 1) (ServiceSettings.one_le_pageSize allowed (by decide))
  have asks : (Request.asking settings now ids "readTable" [("className", .text className),
      ("filters", .object [("objectId", .text objectId)]), ("limit", .int 1)]).AsksPage className
        [Predicate.hasId objectId] (some (settings.pageSize 1)) 0 :=
    Request.asksPage_asking allowed rfl set rfl rfl rfl
  rw [Request.outcome, asks.run_eq, page_eq, matching_hasId reached, stays, size]
  change Except.mapError _ (Except.map (Answer.page className) ([record].mapM Record.sent)) = _
  rw [List.mapM_cons, sent]
  rfl

/-- A request for a new record of the class `A`. -/
def filing (data : List (String × Json)) (objectId : String) : Request :=
  .call "createRecord" [("className", .text "A"), ("data", .object data)] [objectId]

/-- A request to set a field of the record under the id `x`. -/
def setting : Request :=
  .call "updateRecord" [("className", .text "A"), ("objectId", .text "x"),
    ("data", .object [("n", .int 2)])] []

/-- The data of the record under the id `x` once its field is set. -/
def settingData : Json :=
  .object [("n", .int 2), ("objectId", .text "x"), ("createdAt", .text "0001-01-01T00:00:00.000Z"),
    ("updatedAt", .text "0001-01-01T00:00:00.000Z"), ("ACL", AccessPolicy.everyone)]

/-- Requests that file a record with a new field, fail on the type of a field, and remove the new
record again. -/
def meanwhile : List Request :=
  [filing [("m", .text "new")] "y", filing [("n", .text "no number")] "z",
    .call "deleteRecord" [("className", .text "A"), ("objectId", .text "y")] []]

/-- The answer to the update of a field is read back, after requests for other records. -/
theorem setting_read_back :
    setting.Writes (({} : Store).after [filing [("n", .int 1)] "x"]) "A" "x" settingData ∧
      (({} : Store).after [filing [("n", .int 1)] "x", setting]).Undisturbed "A" "x" meanwhile ∧
      ({ maxLimit := .int 1 } : ServiceSettings).AllowsRecords ∧
      (Request.asking { maxLimit := .int 1 } { instant := 0, offset := 0 } {} "readTable"
          [("className", .text "A"), ("filters", .object [("objectId", .text "x")]),
            ("limit", .int 1)]).outcome
        (({} : Store).after (filing [("n", .int 1)] "x" :: setting :: meanwhile)) =
          .ok (.object [("success", .bool true), ("className", .text "A"), ("count", .int 1),
            ("data", .array [settingData])]) := by
  have answered : setting.outcome (({} : Store).after [filing [("n", .int 1)] "x"]) =
      .ok (.object [("success", .bool true), ("message", .text "Record updated successfully"),
        ("objectId", .text "x"), ("data", settingData)]) := by
    have beginning : Moment.timestampOf 0 = "0001-01-01T00:00:00.000Z" := by decide +kernel
    rw [settingData, ← beginning]
    rfl
  have writes :
      setting.Writes (({} : Store).after [filing [("n", .int 1)] "x"]) "A" "x" settingData :=
    ⟨rfl, _, answered, rfl, Or.inr ⟨rfl, rfl⟩⟩
  have undisturbed : (({} : Store).after [filing [("n", .int 1)] "x", setting]).Undisturbed
      "A" "x" meanwhile := by
    simp only [meanwhile, Undisturbed, Request.Names, Request.RemovesClass, filing, Request.call,
      Json.text.injEq, String.reduceEq, false_or, or_true, true_and, false_and, and_true,
      not_false_eq_true]
    rintro ⟨_, target⟩
    exact absurd (Json.text.inj (target : Json.text "y" = .text "x")) (by decide)
  have allowed : ({ maxLimit := .int 1 } : ServiceSettings).AllowsRecords :=
    Or.inr ⟨1, by decide, rfl⟩
  exact ⟨writes, undisturbed, allowed,
    read_back [filing [("n", .int 1)] "x"] meanwhile setting writes undisturbed allowed _ _⟩

end Store

end TypedRecords
