import Mathlib.Data.Nat.Find
import Mathlib.Data.PFun
import Mathlib.Data.Stream.Init
import TypedRecords.Proofs.StoreWrites

/-!
# Searching for an id

An id is the beginning of a drawn text. Texts are drawn until one begins with an id that was not
issued for the class; that may go on for ever, and `IdSource.search` is not defined then. It is
defined exactly if there is such a text, and takes no text behind the first of them.

The texts of a source are those of a list and then one for each serial number. As long as serial
numbers have no more digits than an id, the search finds what `IdSource.fresh` finds, and the
numbers stay small: the sum of the numbers drawn and of the issued ids that are still ahead of them
grows only by the ids that are issued. So a batch of any length is filed, as `Store.bulkInsert`
files it.
-/

namespace TypedRecords

/-! ## The search -/

namespace IdSource

/-- The id that a text begins with. -/
def idOf (text : String) : String :=
  String.ofList (text.toList.take idLength)

/-- Draw one text: it gives its id, or the texts to come if that was issued. -/
def drawOnce (issued : List String) (texts : Stream' String) :
    (String × Stream' String) ⊕ Stream' String :=
  if idOf texts.head ∈ issued then .inr texts.tail else .inl (idOf texts.head, texts.tail)

/-- Draw texts until one begins with an id that is not issued: that id, and the texts to come. -/
def search (issued : List String) : Stream' String →. String × Stream' String :=
  PFun.fix fun texts => Part.some (drawOnce issued texts)

/-- The text at a position is the first one that begins with an id that is not issued. -/
structure FirstFresh (issued : List String) (texts : Stream' String) (position : Nat) : Prop where
  fresh : idOf (texts.get position) ∉ issued
  taken : ∀ earlier < position, idOf (texts.get earlier) ∈ issued

variable {issued : List String} {texts : Stream' String} {position : Nat}

theorem exists_firstFresh (fresh : ∃ position, idOf (texts.get position) ∉ issued) :
    ∃ first, FirstFresh issued texts first :=
  ⟨Nat.find fresh, Nat.find_spec fresh, fun _ before => not_not.mp (Nat.find_min fresh before)⟩

theorem FirstFresh.unique {other : Nat} (first : FirstFresh issued texts position)
    (same : FirstFresh issued texts other) : position = other := by
  rcases Nat.lt_trichotomy position other with before | equal | behind
  · exact absurd (same.taken position before) first.fresh
  · exact equal
  · exact absurd (first.taken other behind) same.fresh

theorem FirstFresh.head_mem (first : FirstFresh issued texts (position + 1)) :
    idOf texts.head ∈ issued :=
  first.taken 0 (Nat.succ_pos position)

theorem FirstFresh.tail (first : FirstFresh issued texts (position + 1)) :
    FirstFresh issued texts.tail position :=
  ⟨first.fresh, fun earlier before => first.taken (earlier + 1) (Nat.succ_lt_succ before)⟩

theorem search_of_mem (taken : idOf texts.head ∈ issued) :
    search issued texts = search issued texts.tail :=
  PFun.fix_fwd_eq (Part.mem_some_iff.mpr (if_pos taken).symm)

theorem search_of_not_mem (free : idOf texts.head ∉ issued) :
    search issued texts = Part.some (idOf texts.head, texts.tail) :=
  Part.eq_some_iff.mpr (PFun.fix_stop (Part.mem_some_iff.mpr (if_neg free).symm))

theorem FirstFresh.search_eq (first : FirstFresh issued texts position) :
    search issued texts = Part.some (idOf (texts.get position), texts.drop (position + 1)) := by
  induction position generalizing texts with
  | zero => exact search_of_not_mem first.fresh
  | succ position ih => exact (search_of_mem first.head_mem).trans (ih first.tail)

/-- A search that ends has met a fresh id. The induction is on its rounds, which are finitely
many. -/
theorem exists_fresh_of_mem_search {result : String × Stream' String}
    (found : result ∈ search issued texts) : ∃ position, idOf (texts.get position) ∉ issued := by
  refine PFun.fixInduction found fun texts _ ih => ?_
  by_cases taken : idOf texts.head ∈ issued
  · rcases ih texts.tail (Part.mem_some_iff.mpr (if_pos taken).symm) with ⟨position, fresh⟩
    exact ⟨position + 1, fresh⟩
  · exact ⟨0, taken⟩

/-- The search comes to an end exactly if some text begins with an id that is not issued. -/
theorem search_dom_iff :
    (search issued texts).Dom ↔ ∃ position, idOf (texts.get position) ∉ issued := by
  constructor
  · intro ends
    exact exists_fresh_of_mem_search (Part.get_mem ends)
  · intro fresh
    rcases exists_firstFresh fresh with ⟨first, found⟩
    rw [found.search_eq]
    trivial

/-! ## The texts of a source -/

/-- The text that is drawn for a serial number. -/
def serialText (number : Nat) : String :=
  serialId number ++ String.ofList (List.replicate 22 'f')

/-- The texts of a list, and then those for the numbers behind the given one. -/
def supply (listed : List String) (serials : Nat) : Stream' String :=
  listed ++ₛ fun later => serialText (serials + 1 + later)

/-- The source draws what these texts begin with, as long as its serial numbers are short. -/
def Feeds (texts : Stream' String) (source : IdSource) : Prop :=
  ∃ listed, source.listed = listed.map idOf ∧ texts = supply listed source.serials

variable {source : IdSource}

theorem feeds_ofTexts (listed : List String) : Feeds (supply listed 0) (ofTexts listed) :=
  ⟨listed, rfl, rfl⟩

theorem length_hexDigits_le (width : Nat) {number : Nat} (small : number < Nat.pow 16 (width + 1)) :
    (hexDigits number).length ≤ width + 1 := by
  induction width generalizing number with
  | zero =>
      rw [hexDigits, if_pos small]
      exact Nat.le_refl 1
  | succ width ih =>
      rw [hexDigits]
      split
      · exact Nat.le_add_left 1 _
      · have quotient : number / 16 < Nat.pow 16 (width + 1) := Nat.div_lt_of_lt_mul (by
          rw [Nat.mul_comm]
          exact small)
        rw [List.length_append]
        exact Nat.succ_le_succ (ih quotient)

theorem idOf_serialText {number : Nat} (small : number < Nat.pow 16 idLength) :
    idOf (serialText number) = serialId number := by
  have digits : (serialId number).toList.length = idLength := by
    have fits := length_hexDigits_le 9 small
    rw [serialId, String.toList_ofList, paddedHex, List.length_append, List.length_replicate]
    exact Nat.sub_add_cancel fits
  rw [idOf, serialText, String.toList_append, ← digits, List.take_left, String.ofList_toList]

theorem Feeds.tail (feeds : Feeds texts source) : Feeds texts.tail source.draw.2 := by
  rcases source with ⟨_, serials⟩
  rcases feeds with ⟨listed, rfl, rfl⟩
  cases listed with
  | nil =>
      refine ⟨[], rfl, funext fun later => ?_⟩
      change serialText (serials + 1 + (later + 1)) = serialText (serials + 1 + 1 + later)
      congr 1
      omega
  | cons text rest => exact ⟨rest, rfl, rfl⟩

theorem Feeds.idOf_head (feeds : Feeds texts source)
    (small : source.draw.2.serials < Nat.pow 16 idLength) : idOf texts.head = source.draw.1 := by
  rcases source with ⟨_, serials⟩
  rcases feeds with ⟨listed, rfl, rfl⟩
  cases listed with
  | nil => exact idOf_serialText small
  | cons text rest => rfl

/-! ## The numbers that are drawn -/

/-- The number of issued ids that serial draws behind the given number can still meet. -/
def ahead (issued : List String) (serials : Nat) : Nat :=
  issued.countP fun objectId => decide (serials < hexNumber objectId.toList)

/-- The number that serial draws reach at most, as long as each of them is an issued id. -/
def reach (issued : List String) (source : IdSource) : Nat :=
  source.serials + ahead issued source.serials

theorem hexNumber_serialId (number : Nat) : hexNumber (serialId number).toList = number := by
  rw [serialId, String.toList_ofList, hexNumber_paddedHex]

theorem ahead_succ_le (issued : List String) (serials : Nat) :
    ahead issued (serials + 1) ≤ ahead issued serials := by
  apply List.countP_mono_left
  intro objectId _ behind
  simp only [decide_eq_true_eq] at behind ⊢
  omega

theorem ahead_append (issued more : List String) (serials : Nat) :
    ahead (issued ++ more) serials = ahead issued serials + ahead more serials :=
  List.countP_append

/-- To pass an issued id leaves fewer of them ahead. -/
theorem ahead_succ_lt {serials : Nat} (taken : serialId (serials + 1) ∈ issued) :
    ahead issued (serials + 1) < ahead issued serials := by
  rcases List.append_of_mem taken with ⟨before, behind, rfl⟩
  have passedBefore := ahead_succ_le before serials
  have passedBehind := ahead_succ_le behind serials
  simp only [ahead, List.countP_append, List.countP_cons, hexNumber_serialId, decide_eq_true_eq,
    Nat.lt_irrefl, Nat.lt_add_one, ↓reduceIte] at passedBefore passedBehind ⊢
  omega

theorem reach_draw_of_mem (taken : source.draw.1 ∈ issued) :
    reach issued source.draw.2 ≤ reach issued source := by
  rcases source with ⟨_ | ⟨next, rest⟩, serials⟩
  · have fewer : ahead issued (serials + 1) < ahead issued serials := ahead_succ_lt taken
    change serials + 1 + ahead issued (serials + 1) ≤ serials + ahead issued serials
    omega
  · exact Nat.le_refl _

theorem reach_draw (issued : List String) (source : IdSource) :
    reach (issued ++ [source.draw.1]) source.draw.2 ≤ reach issued source + 1 := by
  rcases source with ⟨_ | ⟨next, rest⟩, serials⟩
  · have fewer := ahead_succ_le issued serials
    have passed : ahead [serialId (serials + 1)] (serials + 1) = 0 := by
      simp [ahead, hexNumber_serialId]
    change serials + 1 + ahead (issued ++ [serialId (serials + 1)]) (serials + 1) ≤
      serials + ahead issued serials + 1
    rw [ahead_append, passed]
    omega
  · have one : ahead [next] serials ≤ 1 := List.countP_le_length
    change serials + ahead (issued ++ [next]) serials ≤ serials + ahead issued serials + 1
    rw [ahead_append]
    omega

theorem reach_drawUnissued (issued : List String) (retries : Nat) (source : IdSource) :
    reach (issued ++ [(drawUnissued issued retries source).1])
        (drawUnissued issued retries source).2 ≤ reach issued source + 1 := by
  induction retries generalizing source with
  | zero => exact reach_draw issued source
  | succ retries ih =>
      rw [drawUnissued_succ]
      by_cases taken : source.draw.1 ∈ issued
      · rw [if_pos taken]
        have passed := reach_draw_of_mem taken
        exact Nat.le_trans (ih source.draw.2) (Nat.succ_le_succ passed)
      · rw [if_neg taken]
        exact reach_draw issued source

theorem reach_fresh (issued : List String) (source : IdSource) :
    reach (issued ++ [(source.fresh issued).1]) (source.fresh issued).2 ≤
      reach issued source + 1 :=
  reach_drawUnissued issued _ source

theorem serials_le_draw (source : IdSource) : source.serials ≤ source.draw.2.serials := by
  rcases source with ⟨_ | ⟨next, rest⟩, serials⟩
  · exact Nat.le_succ serials
  · exact Nat.le_refl serials

theorem serials_le_drawUnissued (issued : List String) (retries : Nat) (source : IdSource) :
    source.serials ≤ (drawUnissued issued retries source).2.serials := by
  induction retries generalizing source with
  | zero => exact serials_le_draw source
  | succ retries ih =>
      rw [drawUnissued_succ]
      split
      · exact Nat.le_trans (serials_le_draw source) (ih source.draw.2)
      · exact serials_le_draw source

theorem serials_le_fresh (issued : List String) (source : IdSource) :
    source.serials ≤ (source.fresh issued).2.serials :=
  serials_le_drawUnissued issued _ source

/-! ## The search finds what is drawn -/

/-- Of listed texts those up to the first fresh one are drawn, and no more. -/
theorem FirstFresh.drawUnissued_eq (first : FirstFresh issued texts position)
    (behind : List String) (serials : Nat) {retries : Nat} (enough : position ≤ retries) :
    drawUnissued issued retries
        { listed := (texts.take (position + 1)).map idOf ++ behind, serials } =
      (idOf (texts.get position), { listed := behind, serials }) := by
  induction position generalizing texts retries with
  | zero =>
      have free : idOf texts.head ∉ issued := first.fresh
      cases retries with
      | zero => rfl
      | succ retries => exact (drawUnissued_succ ..).trans (if_neg free)
  | succ position ih =>
      rcases retries with _ | retries
      · omega
      have passed := ih first.tail (Nat.le_of_succ_le_succ enough)
      exact (drawUnissued_succ ..).trans ((if_pos first.head_mem).trans passed)

theorem FirstFresh.fresh_eq (first : FirstFresh issued texts position) (behind : List String)
    (serials : Nat) :
    IdSource.fresh { listed := (texts.take (position + 1)).map idOf ++ behind, serials } issued =
      (idOf (texts.get position), { listed := behind, serials }) := by
  apply first.drawUnissued_eq
  rw [List.length_append, List.length_map, Stream'.length_take]
  omega

/-- The search on texts that feed a source ends as the draws of the source do. Serial numbers only
grow, so those on the way are as short as the last one. -/
theorem search_eq_drawUnissued (feeds : Feeds texts source) {retries : Nat}
    (unissued : (drawUnissued issued retries source).1 ∉ issued)
    (small : (drawUnissued issued retries source).2.serials < Nat.pow 16 idLength) :
    ∃ later, Feeds later (drawUnissued issued retries source).2 ∧
      search issued texts = Part.some ((drawUnissued issued retries source).1, later) := by
  induction retries generalizing texts source with
  | zero =>
      have head : idOf texts.head = (drawUnissued issued 0 source).1 := feeds.idOf_head small
      rw [← head] at unissued ⊢
      exact ⟨texts.tail, feeds.tail, search_of_not_mem unissued⟩
  | succ retries ih =>
      rw [drawUnissued_succ] at unissued small ⊢
      by_cases taken : source.draw.1 ∈ issued
      · rw [if_pos taken] at unissued small ⊢
        have head := feeds.idOf_head (Nat.lt_of_le_of_lt (serials_le_drawUnissued ..) small)
        rcases ih feeds.tail unissued small with ⟨later, feedsLater, found⟩
        rw [← head] at taken
        exact ⟨later, feedsLater, (search_of_mem taken).trans found⟩
      · rw [if_neg taken] at small ⊢
        have head := feeds.idOf_head small
        rw [← head] at taken ⊢
        exact ⟨texts.tail, feeds.tail, search_of_not_mem taken⟩

theorem search_eq_fresh (feeds : Feeds texts source)
    (small : (source.fresh issued).2.serials < Nat.pow 16 idLength) :
    ∃ later, Feeds later (source.fresh issued).2 ∧
      search issued texts = Part.some ((source.fresh issued).1, later) :=
  search_eq_drawUnissued feeds (source.fresh_not_mem issued) small

end IdSource

/-! ## Filing with the search -/

namespace Store

open IdSource

/-- Search for an id that was not issued for a class, and issue it. -/
def newId (store : Store) (key : Key) (texts : Stream' String) :
    Part (String × Store × Stream' String) := do
  let (objectId, later) ← search (store.issuedFor key) texts
  return (objectId, store.noteIssued key objectId, later)

/-- `Store.file`, with the search. -/
def fileFrom (store : Store) (texts : Stream' String) (now : Moment) (key : Key)
    (className : String) (fields : List (String × Value)) (access : AccessPolicy) :
    Part (Record × Store × Stream' String) := do
  let (objectId, store, texts) ← store.newId key texts
  let record : Record :=
    { className, objectId, fields, access, createdAt := now, updatedAt := now }
  return (record, store.setRecord key (.text objectId) record, texts)

/-- `Store.fileAll`, with the search. -/
def fileAllFrom (store : Store) (texts : Stream' String) (now : Moment) (key : Key)
    (className : String) :
    List (List (String × Value) × AccessPolicy) →
      Part (List Record × Store × Stream' String)
  | [] => Part.some ([], store, texts)
  | (fields, access) :: rest => do
      let (record, store, texts) ← store.fileFrom texts now key className fields access
      let (records, store, texts) ← fileAllFrom store texts now key className rest
      return (record :: records, store, texts)

/-- The key of a class and its schema once a batch is written to it. -/
def validate (store : Store) (className : Json)
    (items : List (List (String × Value) × AccessPolicy)) : Except Failure (Key × Schema) := do
  let key ← className.key.mapError Failure.host
  let schema ← (prepareAll className 0 (store.schemaOf key) items).mapError Failure.rejected
  return (key, schema)

/-- `Store.bulkInsert`, with the search. -/
def bulkInsertFrom (store : Store) (texts : Stream' String) (now : Moment) (className : Json)
    (items : List (List (String × Value) × AccessPolicy)) :
    Part (Except Failure (List Record × Store × Stream' String)) :=
  match store.validate className items with
  | .error reason => Part.some (.error reason)
  | .ok (key, schema) =>
      let committed := store.commitSchema key className schema
      (committed.fileAllFrom texts now key className.display items).map .ok

variable {store after : Store} {key : Key} {source drained : IdSource} {texts : Stream' String}
  {now : Moment} {className : String} {fields : List (String × Value)} {access : AccessPolicy}
  {items : List (List (String × Value) × AccessPolicy)} {record : Record} {records : List Record}

theorem newId_of_search {objectId : String} {later : Stream' String}
    (found : search (store.issuedFor key) texts = Part.some (objectId, later)) :
    store.newId key texts = Part.some (objectId, store.noteIssued key objectId, later) := by
  rw [newId, found]
  exact Part.bind_some _ _

theorem file_eq_fresh
    (filed : store.file source now key className fields access = (record, after, drained)) :
    source.fresh (store.issuedFor key) = (record.objectId, drained) ∧
      after.issuedFor key = store.issuedFor key ++ [record.objectId] := by
  rw [file, Prod.mk.injEq, Prod.mk.injEq] at filed
  rcases filed with ⟨rfl, rfl, rfl⟩
  rw [issuedFor_setRecord, issuedFor_noteIssued, if_pos rfl]
  exact ⟨rfl, rfl⟩

theorem serials_le_file
    (filed : store.file source now key className fields access = (record, after, drained)) :
    source.serials ≤ drained.serials := by
  have drawn := serials_le_fresh (store.issuedFor key) source
  rwa [(file_eq_fresh filed).1] at drawn

theorem reach_file
    (filed : store.file source now key className fields access = (record, after, drained)) :
    reach (after.issuedFor key) drained ≤ reach (store.issuedFor key) source + 1 := by
  have drawn := reach_fresh (store.issuedFor key) source
  rcases file_eq_fresh filed with ⟨fresh, issued⟩
  rwa [fresh, ← issued] at drawn

theorem serials_le_fileAll
    (filed : store.fileAll source now key className items = (records, after, drained)) :
    source.serials ≤ drained.serials := by
  induction items generalizing store source records with
  | nil =>
      cases filed
      exact Nat.le_refl _
  | cons item others ih =>
      rcases fileAll_cons_eq filed with ⟨record, middle, left, later, first, more, rfl⟩
      exact Nat.le_trans (serials_le_file first) (ih more)

/-- The serial draws of a batch reach no further than one behind another for each record. -/
theorem reach_fileAll
    (filed : store.fileAll source now key className items = (records, after, drained)) :
    reach (after.issuedFor key) drained ≤
      reach (store.issuedFor key) source + items.length := by
  induction items generalizing store source records with
  | nil =>
      cases filed
      exact Nat.le_refl _
  | cons item others ih =>
      rcases fileAll_cons_eq filed with ⟨record, middle, left, later, first, more, rfl⟩
      have one := reach_file first
      have rest := ih more
      rw [List.length_cons]
      omega

theorem fileFrom_eq_file (feeds : Feeds texts source)
    (filed : store.file source now key className fields access = (record, after, drained))
    (small : drained.serials < Nat.pow 16 idLength) :
    ∃ later, Feeds later drained ∧
      store.fileFrom texts now key className fields access = Part.some (record, after, later) := by
  rw [file, Prod.mk.injEq, Prod.mk.injEq] at filed
  rcases filed with ⟨rfl, rfl, rfl⟩
  rcases search_eq_fresh feeds small with ⟨later, feedsLater, found⟩
  refine ⟨later, feedsLater, ?_⟩
  rw [fileFrom, newId_of_search found]
  exact Part.bind_some _ _

theorem fileAllFrom_eq_fileAll (feeds : Feeds texts source)
    (filed : store.fileAll source now key className items = (records, after, drained))
    (small : drained.serials < Nat.pow 16 idLength) :
    ∃ later, Feeds later drained ∧
      store.fileAllFrom texts now key className items = Part.some (records, after, later) := by
  induction items generalizing store source texts records with
  | nil =>
      cases filed
      exact ⟨texts, feeds, rfl⟩
  | cons item others ih =>
      rcases fileAll_cons_eq filed with ⟨record, middle, left, later, first, more, rfl⟩
      have smallFirst := Nat.lt_of_le_of_lt (serials_le_fileAll more) small
      rcases fileFrom_eq_file feeds first smallFirst with ⟨between, feedsBetween, searched⟩
      rcases ih feedsBetween more with ⟨behind, feedsBehind, searchedLater⟩
      exact ⟨behind, feedsBehind, by rw [fileAllFrom, searched]; simp [searchedLater]⟩

theorem bulkInsert_eq (store : Store) (source : IdSource) (now : Moment) (className : Json)
    (items : List (List (String × Value) × AccessPolicy)) :
    store.bulkInsert source now className items =
      match store.validate className items with
      | .error reason => .error reason
      | .ok (key, schema) =>
          .ok <| (store.commitSchema key className schema).fileAll source now key className.display
            items := by
  rw [bulkInsert, validate]
  rcases className.key.mapError Failure.host with _ | key
  · rfl
  · dsimp only [bind, Except.bind]
    rcases (prepareAll className 0 (store.schemaOf key) items).mapError Failure.rejected with _ | _
    · rfl
    · rfl

theorem bulkInsertFrom_of_error {className : Json} {reason : Failure}
    (failed : store.bulkInsert source now className items = .error reason) :
    store.bulkInsertFrom texts now className items = Part.some (.error reason) := by
  rw [bulkInsert_eq] at failed
  rw [bulkInsertFrom]
  rcases valid : store.validate className items with earlier | ⟨key, schema⟩
  · rw [valid] at failed
    cases failed
    rfl
  · rw [valid] at failed
    cases failed

theorem bulkInsertFrom_of_ok (feeds : Feeds texts source) {className : Json}
    (done : store.bulkInsert source now className items = .ok (records, after, drained))
    (small : drained.serials < Nat.pow 16 idLength) :
    ∃ later, Feeds later drained ∧
      store.bulkInsertFrom texts now className items = Part.some (.ok (records, after, later)) := by
  rw [bulkInsert_eq] at done
  rw [bulkInsertFrom]
  rcases valid : store.validate className items with reason | ⟨key, schema⟩
  · rw [valid] at done
    cases done
  · rw [valid] at done
    rcases fileAllFrom_eq_fileAll feeds (Except.ok.inj done) small with ⟨later, feedsLater, found⟩
    exact ⟨later, feedsLater, (congrArg (Part.map Except.ok) found).trans (Part.map_some _ _)⟩

theorem serials_le_of_bulkInsert {className : Json}
    (done : store.bulkInsert source now className items = .ok (records, after, drained))
    (keyed : className.key = .ok key) :
    drained.serials ≤ reach (store.issuedFor key) source + items.length := by
  rcases bulkInsert_eq_ok done with ⟨written, schema, keyedAgain, _, _, _, filed⟩
  cases keyed.symm.trans keyedAgain
  have reached := reach_fileAll filed
  rw [issuedFor_commitSchema] at reached
  exact Nat.le_trans (Nat.le_add_right _ _) reached

/-- Of texts with a fresh one among them those up to the first are taken, and no more; its id is
issued for the class, and for no other. A source draws a fresh text as long as its serial numbers
are no longer than an id, and then a batch of any length is filed as `Store.bulkInsert` files it.
Each record, and each issued id that lies ahead, adds no more than one to these numbers. -/
theorem first_fresh_id_issued (store : Store) :
    (∀ (key : Key) (texts : Stream' String),
      (∃ position, idOf (texts.get position) ∉ store.issuedFor key) →
        ∃ first after, FirstFresh (store.issuedFor key) texts first ∧
          store.newId key texts =
            Part.some (idOf (texts.get first), after, texts.drop (first + 1)) ∧
          (∀ other, after.issuedFor other =
            if other = key then store.issuedFor key ++ [idOf (texts.get first)]
            else store.issuedFor other) ∧
          after.schemas = store.schemas ∧ after.tables = store.tables ∧
          ∀ behind serials,
            fresh { listed := (texts.take (first + 1)).map idOf ++ behind, serials }
                (store.issuedFor key) =
              (idOf (texts.get first), { listed := behind, serials })) ∧
    ∀ (texts : Stream' String) (source : IdSource), Feeds texts source →
      (∀ key,
        (source.fresh (store.issuedFor key)).2.serials ≤ reach (store.issuedFor key) source + 1 ∧
        ((source.fresh (store.issuedFor key)).2.serials < Nat.pow 16 idLength →
          ∃ position, idOf (texts.get position) ∉ store.issuedFor key)) ∧
      ∀ now className items,
        match store.bulkInsert source now className items with
        | .error reason =>
            store.bulkInsertFrom texts now className items = Part.some (.error reason)
        | .ok (records, after, drained) =>
            (∀ key, className.key = .ok key →
              drained.serials ≤ reach (store.issuedFor key) source + items.length) ∧
            (drained.serials < Nat.pow 16 idLength →
              ∃ later, Feeds later drained ∧
                store.bulkInsertFrom texts now className items =
                  Part.some (.ok (records, after, later))) := by
  refine ⟨fun key texts free => ?_, fun texts source feeds => ⟨fun key => ⟨?_, fun small => ?_⟩,
    fun now className items => ?_⟩⟩
  · rcases exists_firstFresh free with ⟨first, found⟩
    refine ⟨first, _, found, newId_of_search found.search_eq, fun other => ?_, rfl, rfl,
      found.fresh_eq⟩
    exact issuedFor_noteIssued _
  · exact Nat.le_trans (Nat.le_add_right _ _) (reach_fresh (store.issuedFor key) source)
  · rcases search_eq_fresh feeds small with ⟨later, _, found⟩
    have ends : (search (store.issuedFor key) texts).Dom := by
      rw [found]
      trivial
    exact search_dom_iff.mp ends
  · rcases done : store.bulkInsert source now className items with
      reason | ⟨records, after, drained⟩
    · exact bulkInsertFrom_of_error done
    · exact ⟨fun key keyed => serials_le_of_bulkInsert done keyed,
        fun small => bulkInsertFrom_of_ok feeds done small⟩

/-- Two draws that begin with an issued id are passed over, and a batch of two records is filed. -/
theorem issued_draws_passed_over :
    ∃ store : Store, store.issuedFor (.text "A") = ["aaaaaaaaaa"] ∧
      (∃ after,
        store.newId (.text "A") (supply ["aaaaaaaaaab", "aaaaaaaaaac", "bbbbbbbbbbb"] 0) =
          Part.some ("bbbbbbbbbb", after, supply [] 0)) ∧
      ∃ records after later,
        store.bulkInsertFrom (supply ["aaaaaaaaaab", "aaaaaaaaaac", "bbbbbbbbbbb"] 0)
            { instant := 0, offset := 0 } (.text "A") [([], .everyone), ([], .everyone)] =
          Part.some (.ok (records, after, later)) := by
  refine ⟨{ issued := [(.text "A", ["aaaaaaaaaa"])] }, rfl, ?_, ?_⟩
  · have third : FirstFresh ["aaaaaaaaaa"]
        (supply ["aaaaaaaaaab", "aaaaaaaaaac", "bbbbbbbbbbb"] 0) 2 := ⟨by decide, by decide⟩
    rcases (first_fresh_id_issued { issued := [(.text "A", ["aaaaaaaaaa"])] }).1 (.text "A")
        (supply ["aaaaaaaaaab", "aaaaaaaaaac", "bbbbbbbbbbb"] 0) ⟨2, third.fresh⟩ with
      ⟨first, after, found, searched, _⟩
    cases third.unique found
    exact ⟨after, searched⟩
  · have filed := ((first_fresh_id_issued { issued := [(.text "A", ["aaaaaaaaaa"])] }).2 _ _
      (feeds_ofTexts ["aaaaaaaaaab", "aaaaaaaaaac", "bbbbbbbbbbb"])).2
        { instant := 0, offset := 0 } (.text "A") [([], .everyone), ([], .everyone)]
    rcases done : bulkInsert { issued := [(.text "A", ["aaaaaaaaaa"])] }
        (ofTexts ["aaaaaaaaaab", "aaaaaaaaaac", "bbbbbbbbbbb"]) { instant := 0, offset := 0 }
        (.text "A") [([], .everyone), ([], .everyone)] with _ | ⟨records, after, drained⟩
    · cases done
    · rw [done] at filed
      have few : drained.serials < Nat.pow 16 idLength :=
        Nat.lt_of_le_of_lt (filed.1 (.text "A") rfl) (by decide)
      rcases filed.2 few with ⟨later, _, searched⟩
      exact ⟨records, after, later, searched⟩

end Store

end TypedRecords
