import TypedRecords.Proofs.Referrers

/-!
# Removing a class

A class that no field of another class points to can be removed with all its records, and nothing
else is removed with it. After that no caller sees anything of the class, whatever else is asked of
the service, until a request creates it anew. It then begins with nothing of what it was: only the
ids that were issued for it are not issued again.
-/

namespace TypedRecords

open TypedRecords.Action

/-- Nothing of the class is seen: it is not listed, has no schema, and no filter finds a record. -/
structure Backend.HidesClass (backend : Backend) (name : String) : Prop where
  listed : ∃ tables, Tables.list.run backend = (.ok tables, backend) ∧
    ∀ table ∈ tables, table.1 ≠ .text name
  schema : (Tables.schema (.text name)).run backend =
    (.error (.notFound (.text name) .null), backend)
  read : ∀ strict filters predicates, Filter.compile strict filters = .ok predicates →
    ∀ limit size skip start, Records.checkLimit limit = .ok size →
      Records.checkSkip skip = .ok start →
        (Records.read strict (.text name) filters limit skip).run backend = (.ok [], backend)
  counted : ∀ strict filters predicates, Filter.compile strict filters = .ok predicates →
    (Records.count strict (.text name) filters).run backend = (.ok 0, backend)

namespace Store

variable {store purged : Store} {name : String}

theorem matching_of_not_mem {key : Key} (wellFormed : store.WellFormed)
    (absent : key ∉ Entries.keys store.schemas) (predicates : List Predicate) :
    store.matching key predicates = [] := by
  rw [matching, recordsOf, tableOf_of_not_mem (wellFormed.aligned ▸ absent)]
  rfl

/-- A class that is not there is hidden. -/
theorem WellFormed.hidesClass {backend : Backend} (wellFormed : backend.store.WellFormed)
    (served : backend.outages = []) (set : name ≠ "")
    (absent : .text name ∉ Entries.keys backend.store.schemas) : backend.HidesClass name where
  listed := by
    have unbroken := Backend.outage?_eq_none served .listClasses
    refine ⟨backend.store.listClasses, ?_, ?_⟩
    · simp only [Tables.list, Backend.listClasses, Backend.run_reading, unbroken]
    · intro table member named
      rcases List.mem_map.mp member with ⟨⟨key, schema⟩, present, rfl⟩
      have keyed := wellFormed.named _ _ (Entries.lookup_of_mem wellFormed.distinct present)
      have text : schema.name = .text name := named
      rw [text] at keyed
      cases keyed
      exact absent (List.mem_map.mpr ⟨_, present, rfl⟩)
  schema := by
    have unbroken := Backend.outage?_eq_none served .classFields
    have unknown : backend.store.classFields (.text name) = .ok none := by
      rw [← Entries.lookup_isSome_iff, Option.not_isSome_iff_eq_none] at absent
      simp only [classFields, Json.key, Except.mapError_ok, bind, Except.bind, absent]
      rfl
    simp only [Tables.schema, Backend.classFields, run_bind, Backend.run_reading, unbroken, unknown]
    rfl
  read strict filters predicates compiled limit size skip start limited skipped := by
    rw [Records.run_read (Records.requireClass_text set) rfl limited skipped compiled served,
      matching_of_not_mem wellFormed absent, page_eq]
    cases size with
    | none => simp
    | some size => simp
  counted strict filters predicates compiled := by
    rw [Records.run_count set compiled served, matching_of_not_mem wellFormed absent]
    rfl

theorem not_mem_of_purgeClass (done : store.purgeClass (.text name) = .ok purged) :
    .text name ∉ Entries.keys purged.schemas := by
  rcases purgeClass_eq_ok done with ⟨key, _, keyed, _, _, rfl⟩
  cases keyed
  simp [dropClass, Entries.keys_erase]

/-- A store that a run of requests leads to refuses to remove a class that it does not have, and one
that fields of other classes point to; it then names exactly those fields, in order. Otherwise it
drops the schema and the records of the class and nothing else. From then on the class is hidden,
whatever is asked of the service, until a request creates it anew; the ids issued for it before stay
issued, and the class begins as any new class does. -/
theorem purged_exactly_and_for_good (requests : List Request)
    (reached : store = ({} : Store).after requests) (name : String) :
    (.text name ∉ Entries.keys store.schemas →
        store.purgeClass (.text name) = .error (.notFound (.text name) .null)) ∧
      (.text name ∈ Entries.keys store.schemas →
        ((∃ owner field, store.Refers owner field name) →
          ∃ found : List String, store.purgeClass (.text name) =
              .error (.rejected (.referenced (.text name) found)) ∧
            (Failure.rejected (.referenced (.text name) found)).context =
              .object [("referrers", .array (found.map .text))] ∧
            found.Pairwise (· < ·) ∧
            ∀ text, text ∈ found ↔
              ∃ owner field, store.Refers owner field name ∧ text = owner ++ "." ++ field) ∧
        ((¬ ∃ owner field, store.Refers owner field name) →
          store.purgeClass (.text name) = .ok
            { store with
              schemas := store.schemas.filter fun entry => entry.1 != .text name
              tables := store.tables.filter fun entry => entry.1 != .text name })) ∧
      ∀ purged later, store.purgeClass (.text name) = .ok purged →
        (∀ request ∈ later, ¬ request.Founds name) →
          (∀ backend : Backend, backend.store = purged.after later → backend.outages = [] →
            backend.HidesClass name) ∧
          store.issuedFor (.text name) <+: (purged.after later).issuedFor (.text name) ∧
          ∀ request : Request,
            .text name ∈ Entries.keys (request.next (purged.after later)).schemas →
            request.Restarts (purged.after later) name := by
  have wellFormed : store.WellFormed := reached ▸ WellFormed.empty.after requests
  have owners : store.OwnersNamed := reached ▸ ownersNamed_after requests
  refine ⟨?_, ?_, ?_⟩
  · intro unknown
    rw [purgeClass_text, if_neg unknown]
  · intro known
    refine ⟨?_, ?_⟩
    · rintro ⟨owner, field, refers⟩
      have listed := (mem_referrers_iff wellFormed owners).mpr ⟨owner, field, refers, rfl⟩
      refine ⟨_, ?_, rfl, pairwise_referrers wellFormed owners,
        fun text => mem_referrers_iff wellFormed owners⟩
      rw [purgeClass_text, if_pos known, if_neg (List.ne_nil_of_mem listed)]
    · intro free
      have none : store.referrers (.text name) (.text name) = [] := by
        rw [List.eq_nil_iff_forall_not_mem]
        intro text listed
        rcases (mem_referrers_iff wellFormed owners).mp listed with ⟨owner, field, refers, _⟩
        exact free ⟨owner, field, refers⟩
      rw [purgeClass_text, if_pos known, if_pos none]
      rfl
  · intro purged later done others
    have change := change_of_purgeClass done
    have left := change.wellFormed wellFormed
    have absent := absent_after left (not_mem_of_purgeClass done) others
    refine ⟨?_, ?_, ?_⟩
    · intro backend stored served
      have set : name ≠ "" := by
        rcases purgeClass_eq_ok done with ⟨key, schema, keyed, known, _, _⟩
        cases keyed
        exact ne_empty_of_mem_schemas
          (reached ▸ Entries.lookup_isSome_iff.mp (Option.isSome_of_eq_some known))
      rw [← stored] at absent
      exact WellFormed.hidesClass (stored ▸ left.after later) served set absent
    · rcases change_after left later with ⟨records, changeAfter, _⟩
      rw [changeAfter.issuedFor_eq, change.issuedFor_eq]
      simp
    · intro request present
      exact request.restarts (left.after later) absent present

/-- Requests for a record of a class, and for one of another class that points to it. -/
def pointed : List Request :=
  [.call "createRecord" [("className", .text "A"), ("data", .object [("n", .int 1)])] ["x"],
    .call "createRecord" [("className", .text "B"), ("data", .object [("to", .object
      [("__type", .text "Pointer"), ("className", .text "A"), ("objectId", .text "x")])])] ["y"]]

/-- A request for the record of the second class. -/
def updatingLater : Request :=
  .call "updateRecord" [("className", .text "B"), ("objectId", .text "y"),
    ("data", .object [("m", .int 1)])] []

/-- A request for another record of it, for which the id of the first one is drawn again. -/
def founding : Request :=
  .call "createRecord" [("className", .text "B"), ("data", .object [("to", .text "A")])] ["y", "z"]

/-- The class that is pointed to cannot be removed. The other one can be; it stays hidden while a
record of it is asked for, and begins anew with a field of another type. -/
theorem pointed_purged :
    (∃ found, (({} : Store).after pointed).purgeClass (.text "A") =
        .error (.rejected (.referenced (.text "A") found)) ∧ "B.to" ∈ found) ∧
      ∃ purged, (({} : Store).after pointed).purgeClass (.text "B") = .ok purged ∧
        (∀ request ∈ [updatingLater], ¬ request.Founds "B") ∧
        ({ name := .text "memory", now := { instant := 0, offset := 0 },
           store := purged.after [updatingLater] } : Backend).HidesClass "B" ∧
        founding.Restarts (purged.after [updatingLater]) "B" := by
  rcases purged_exactly_and_for_good pointed rfl "A" with ⟨_, blocked, _⟩
  rcases purged_exactly_and_for_good pointed rfl "B" with ⟨_, _, removed⟩
  have known : .text "A" ∈ Entries.keys (({} : Store).after pointed).schemas := by decide +kernel
  have refers : (({} : Store).after pointed).Refers "B" "to" "A" :=
    ⟨by decide, by decide +kernel⟩
  have others : ∀ request ∈ [updatingLater], ¬ request.Founds "B" := by
    intro request member founds
    rw [List.mem_singleton.mp member] at founds
    have creates := founds.creates
    simp [updatingLater, Request.call] at creates
  refine ⟨?_, ?_⟩
  · rcases (blocked known).1 ⟨"B", "to", refers⟩ with ⟨found, refused, _, _, exact⟩
    exact ⟨found, refused, (exact _).mpr ⟨"B", "to", refers, rfl⟩⟩
  · rcases done : (({} : Store).after pointed).purgeClass (.text "B") with failure | purged
    · have succeeds : ((({} : Store).after pointed).purgeClass (.text "B")).isOk = true := by
        decide +kernel
      rw [done] at succeeds
      cases succeeds
    · rcases removed purged [updatingLater] done others with ⟨hidden, _, restarts⟩
      refine ⟨purged, rfl, others, hidden _ rfl rfl, restarts founding ?_⟩
      rcases purgeClass_eq_ok done with ⟨key, _, keyed, _, _, rfl⟩
      cases keyed
      decide +kernel

end Store

end TypedRecords
