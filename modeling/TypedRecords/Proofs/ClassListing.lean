import TypedRecords.Proofs.Readability

/-!
# Listing the classes

The classes of a store are listed exactly if each of them is named by a text. Every class has an
accepted name, a proper one or a proper one with a line feed at its end, unless a batch without
records brought it into existence: that does so for whatever name it gives.
-/

namespace TypedRecords

namespace Answer

/-- What the answer that lists the classes tells of one of them. -/
def tableShown (name : String) (fields : List String) : Json :=
  .object [("className", .text name), ("fields", .array (fields.map .text))]

theorem listOf_text (texts : List String) :
    Shape.listOf .text (.array (texts.map .text)) = .ok (.array (texts.map .text)) := by
  apply listOf_eq_self
  intro item member
  rcases List.mem_map.mp member with ⟨text, _, rfl⟩
  rfl

theorem build_tableSummary (name : String) (fields : List String) :
    tableSummary.build [("class_name", .text name), ("fields", .array (fields.map .text))] =
      .ok (tableShown name fields) := by
  simp [Model.build, Model.check, tableSummary, classNameField, listField, ModelField.check,
    ModelField.given?, Checked.all, Checked.both, Checked.under, listOf_text, Shape.text,
    Model.checkSurplus, Model.surplus, Entries.keys, Except.map, Except.mapError_ok,
    List.lookup_cons, Json.isNull, tableShown]

theorem item_tableShown (name : String) (fields : List String) :
    tableSummary.item (tableShown name fields) = .ok (tableShown name fields) := by
  simp [Model.item, Model.check, tableSummary, classNameField, listField, ModelField.check,
    ModelField.given?, Checked.all, Checked.both, Checked.under, listOf_text, Shape.text,
    Model.checkSurplus, Model.surplus, Entries.keys, Except.map, Except.mapError_ok,
    List.lookup_cons, Json.isNull, tableShown]

theorem exists_build_tableList {summaries : List Json}
    (shown : ∀ summary ∈ summaries, ∃ name fields, summary = tableShown name fields) :
    ∃ answer, tableList.build [("tables", .array summaries), ("count", .int summaries.length)] =
      .ok answer := by
  have listed : Shape.listOf tableSummary.item (.array summaries) = .ok (.array summaries) := by
    apply listOf_eq_self
    intro summary member
    rcases shown summary member with ⟨name, fields, rfl⟩
    exact item_tableShown name fields
  simp [Model.build, Model.check, tableList, commonFields, countField, listField,
    ModelField.check, ModelField.given?, Checked.all, Checked.both, Checked.under, listed,
    Shape.count, checkCount, Model.checkSurplus, Model.surplus, Entries.keys, Except.map,
    Except.mapError_ok, List.lookup_cons, Json.isNull]

end Answer

namespace Operation

open TypedRecords.Action TypedRecords.Answer

theorem summarize_text (name : String) (schema : Schema) :
    summarize (.text name, schema) = .ok (tableShown name (Entries.keys schema)) :=
  build_tableSummary name _

theorem summarize_eq_ok {table : Json × Schema} {summary : Json}
    (built : summarize table = .ok summary) :
    ∃ name, table.1 = .text name ∧ summary = tableShown name (Entries.keys table.2) := by
  rcases table with ⟨className, schema⟩
  have member : classNameField ∈ tableSummary.fields := by simp [tableSummary]
  rcases Model.exists_text_of_build member rfl built with ⟨name, rfl⟩
  rw [summarize_text] at built
  cases built
  exact ⟨name, rfl, rfl⟩

theorem exists_run_listTables_iff {settings : ServiceSettings} {parameters : List (String × Json)}
    {backend : Backend} (served : backend.outages = []) :
    (∃ answer, ((listTables.answer settings parameters).run backend).1 = .ok answer) ↔
      ∀ table ∈ backend.store.listClasses, ∃ name, table.1 = .text name := by
  have unbroken := Backend.outage?_eq_none served .listClasses
  simp only [listTables, declare, Tables.list, Backend.listClasses, run_bind,
    Backend.run_reading, unbroken, run_ofHost]
  constructor
  · rintro ⟨answer, answered⟩
    rcases summarized : backend.store.listClasses.mapM summarize with error | summaries
    · rw [summarized] at answered
      cases answered
    · intro table member
      rcases Except.exists_mapM_iff.mp ⟨summaries, summarized⟩ table member with ⟨summary, built⟩
      rcases summarize_eq_ok built with ⟨name, named, _⟩
      exact ⟨name, named⟩
  · intro named
    have summarizable : ∃ summaries, backend.store.listClasses.mapM summarize = .ok summaries := by
      rw [Except.exists_mapM_iff]
      rintro ⟨className, schema⟩ member
      rcases named _ member with ⟨name, rfl⟩
      exact ⟨_, summarize_text name schema⟩
    rcases summarizable with ⟨summaries, summarized⟩
    have shown : ∀ summary ∈ summaries, ∃ name fields, summary = tableShown name fields := by
      intro summary member
      rcases Except.exists_of_mem_mapM summarized summary member with ⟨table, _, built⟩
      rcases summarize_eq_ok built with ⟨name, _, rfl⟩
      exact ⟨name, _, rfl⟩
    rcases exists_build_tableList shown with ⟨answer, built⟩
    refine ⟨answer, ?_⟩
    simp only [summarized, Except.mapError_ok, built]

end Operation

open TypedRecords.Action

theorem Json.isBlank_of_isTruthy {value : Json} (set : value.isTruthy = true) :
    value.isBlank = false := by
  cases value <;> simp_all [isTruthy, isBlank]

theorem Store.bulkInsert_nil {store : Store} {className : Json} {key : Key} (source : IdSource)
    (now : Moment) (keyed : className.key = .ok key) :
    store.bulkInsert source now className [] =
      .ok ([], store.commitSchema key className (store.schemaOf key), source) := by
  rw [bulkInsert, keyed]
  rfl

namespace Request

variable {request : Request} {store : Store} {key : Key}

/-- The request asks for the classes of the store. -/
structure ListsClasses (request : Request) : Prop where
  named : request.name = .text "listTables"
  mapped : ∃ mapping, Mapping.ofJson request.parameters = .ok mapping

/-- The classes are listed exactly if each of them is named by a text. -/
theorem ListsClasses.exists_answer_iff (lists : request.ListsClasses) (store : Store) :
    (∃ answer, request.outcome store = .ok answer) ↔
      ∀ table ∈ store.listClasses, ∃ name, table.1 = .text name := by
  have registered : Operation.listTables ∈ Operation.builtin := by simp [Operation.builtin]
  rcases lists.mapped with ⟨mapping, mapped⟩
  have ran := run_of_registered store registered lists.named
  have complete : Operation.listTables.complaint? mapping.textEntries = .ok none :=
    Operation.complaint?_eq_none (List.forall_mem_nil _) (List.forall_mem_nil _)
  simp only [mapped, Operation.run_eq, complete, run_underLabel] at ran
  simp only [outcome, ran, Except.mapError_eq_ok_iff]
  exact Operation.exists_run_listTables_iff rfl

/-- A batch without records brings the class into existence that it names. -/
theorem BatchesNothing.mem_schemas (nothing : request.BatchesNothing key) (store : Store) :
    key ∈ Entries.keys (request.next store).schemas := by
  have registered : Operation.batchCreateRecords ∈ Operation.builtin := by simp [Operation.builtin]
  have named : request.name = .text Operation.batchCreateRecords.name := nothing.named
  have given := Json.isBlank_of_isTruthy nothing.set
  have listed : (request.parameter "records").isBlank = false := by rw [nothing.empty]; rfl
  have array : (request.parameter "records").isArray = true := by rw [nothing.empty]; rfl
  have created : (Records.createBatch (request.parameter "className") (.array [])).run
      (request.backend store) = (.ok [], { request.backend store with
        store :=
          store.commitSchema key (request.parameter "className") (store.schemaOf key) }) := by
    have unbroken : (request.backend store).outage? .bulkInsert = none := rfl
    have decoded : Records.decodeBatch 0 [] = .ok [] := rfl
    simp only [Records.createBatch, run_bind, run_ofInput, Records.requireClass, nothing.set,
      ↓reduceIte, Except.mapError_ok, decoded, Backend.bulkInsert, Backend.run_writing, unbroken,
      Store.bulkInsert_nil _ _ nothing.keyed]
    rfl
  have answered : (Operation.batchCreateRecords.answer request.settings request.given).LeavesStore
      (fun after => key ∈ Entries.keys after.schemas) (request.backend store) := by
    refine LeavesStore.before ?_ fun _ => .ofHost _
    change (Records.createBatch (request.parameter "className")
      (request.parameter "records")).LeavesStore _ _
    rw [LeavesStore, nothing.empty, created]
    exact Store.mem_schemas_commitSchema _ _
  rw [next, run_of_present registered named
    (by simp [Operation.batchCreateRecords, Operation.declare, given, listed]) (by decide)
    (by simp [Operation.batchCreateRecords, Operation.declare, array])]
  exact answered

end Request

namespace Store

variable {store : Store} {key : Key}

/-- A class of a store that a run of requests leads to has an accepted name, or a batch without
records brought it into existence. -/
theorem isName_or_batchesNothing (requests : List Request)
    (present : key ∈ Entries.keys (({} : Store).after requests).schemas) :
    (∃ name, key = .text name ∧ isName name = true) ∨
      ∃ request ∈ requests, request.BatchesNothing key := by
  have absent : key ∉ Entries.keys ({} : Store).schemas := List.not_mem_nil
  rcases exists_request_of_after (fun store => key ∈ Entries.keys store.schemas) absent present with
    ⟨earlier, request, later, rfl, new, filed⟩
  rcases (request.effect _).mem_schemas filed with old | named | nothing
  · exact absurd old new
  · exact Or.inl named
  · refine Or.inr ⟨request, ?_, nothing⟩
    simp

/-- The classes of a well-formed store are named by texts if their keys are texts. -/
theorem WellFormed.forall_listClasses_iff (wellFormed : store.WellFormed) :
    (∀ table ∈ store.listClasses, ∃ name, table.1 = .text name) ↔
      ∀ key ∈ Entries.keys store.schemas, ∃ name, key = .text name := by
  have keyed : ∀ entry ∈ store.schemas, entry.2.name.key = .ok entry.1 := by
    rintro ⟨key, schema⟩ member
    exact wellFormed.named key schema (Entries.lookup_of_mem wellFormed.distinct member)
  simp only [listClasses, Entries.keys, List.forall_mem_map]
  apply forall₂_congr
  intro entry member
  have same := keyed entry member
  constructor
  · rintro ⟨name, text⟩
    rw [text] at same
    exact ⟨name, (Except.ok.inj same).symm⟩
  · rintro ⟨name, text⟩
    rw [text] at same
    exact ⟨name, Json.eq_text_of_key same⟩

/-- In a store that a run of requests leads to, every class is named by a proper name, or by one
with a line feed at its end, or was brought into existence by a batch without records; such a batch
does that for every class it names. The classes are listed exactly if all their keys are texts. -/
theorem classes_named_unless_batched (requests : List Request) :
    (∀ key ∈ Entries.keys (({} : Store).after requests).schemas,
      (∃ name, key = .text name ∧
        (IsProperName name ∨ ∃ stem, IsProperName stem ∧ name = stem ++ "\n")) ∨
          ∃ request ∈ requests, request.BatchesNothing key) ∧
      (∀ (request : Request) (key : Key), request.BatchesNothing key →
        key ∈ Entries.keys (({} : Store).after (requests ++ [request])).schemas) ∧
      ∀ request : Request, request.ListsClasses →
        ((∃ answer, request.outcome (({} : Store).after requests) = .ok answer) ↔
          ∀ key ∈ Entries.keys (({} : Store).after requests).schemas,
            ∃ name, key = .text name) := by
  refine ⟨?_, ?_, ?_⟩
  · intro key present
    refine (isName_or_batchesNothing requests present).imp_left ?_
    rintro ⟨name, same, named⟩
    exact ⟨name, same, isName_iff.mp named⟩
  · intro request key nothing
    rw [after_append]
    exact nothing.mem_schemas _
  · intro request lists
    rw [lists.exists_answer_iff]
    exact (WellFormed.empty.after requests).forall_listClasses_iff

/-- The request that creates the table of a class, without fields. -/
def naming (className : Json) : Request :=
  .call "createTable" [("className", className)] []

/-- A request for a batch without records. -/
def batchingNothing (className : Json) : Request :=
  .call "batchCreateRecords" [("className", className), ("records", .array [])] []

/-- The request for the list of tables. -/
def listing : Request :=
  .call "listTables" [] []

theorem batchesNothing_five :
    (batchingNothing (.int 5)).BatchesNothing (.number (Quantity.ofInt 5)) :=
  ⟨rfl, rfl, rfl, rfl⟩

theorem listsClasses_listing : listing.ListsClasses :=
  ⟨rfl, _, rfl⟩

/-- A class whose name ends with a line feed is listed; with a class that has a number for its name
beside it, nothing is. -/
theorem five_hides_classes :
    (batchingNothing (.int 5)).BatchesNothing (.number (Quantity.ofInt 5)) ∧
      listing.ListsClasses ∧
      (∃ answer, listing.outcome (({} : Store).after [naming (.text "A\n")]) = .ok answer) ∧
      ¬ ∃ answer, listing.outcome
        (({} : Store).after [naming (.text "A\n"), batchingNothing (.int 5)]) = .ok answer := by
  have alone := classes_named_unless_batched [naming (.text "A\n")]
  have both := classes_named_unless_batched [naming (.text "A\n"), batchingNothing (.int 5)]
  refine ⟨batchesNothing_five, listsClasses_listing, ?_, ?_⟩
  · apply (alone.2.2 listing listsClasses_listing).mpr
    have named : Entries.keys (({} : Store).after [naming (.text "A\n")]).schemas =
        [.text "A\n"] := by decide +kernel
    simp [named]
  · intro listed
    have five := alone.2.1 _ _ batchesNothing_five
    rcases (both.2.2 listing listsClasses_listing).mp listed _ five with ⟨name, impossible⟩
    cases impossible

/-- A batch without records makes a class of a number, and then the classes cannot be listed. -/
theorem not_forall_classes_proper :
    (¬ ∀ (requests : List Request) (key : Key),
      key ∈ Entries.keys (({} : Store).after requests).schemas →
        ∃ name, key = .text name ∧ IsProperName name) ∧
      ¬ ∀ requests : List Request,
        ∃ answer, listing.outcome (({} : Store).after requests) = .ok answer := by
  have five := batchesNothing_five.mem_schemas ({} : Store)
  constructor
  · intro proper
    rcases proper [batchingNothing (.int 5)] _ five with ⟨name, impossible, _⟩
    cases impossible
  · intro listed
    have wellFormed := WellFormed.empty.after [batchingNothing (.int 5)]
    have texts := (listsClasses_listing.exists_answer_iff _).mp (listed [batchingNothing (.int 5)])
    rcases wellFormed.forall_listClasses_iff.mp texts _ five with ⟨name, impossible⟩
    cases impossible

end Store

end TypedRecords
