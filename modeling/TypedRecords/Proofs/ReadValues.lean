import TypedRecords.Json.Reader
import TypedRecords.Proofs.MergedEntries
import TypedRecords.Proofs.ShownValues

/-!
# Values that are read

What is read from a JSON text can be written as a JSON text: no host value is in it, and no object
has a key twice, even if the text names the key twice. The scanner keeps this of the values in its
tokens, and the reader of its open frames and of the value that it has completed.
-/

namespace TypedRecords.Json

/-- What every step keeps, for the items that it may take, holds after all steps. -/
theorem foldlM_induction {State Item : Type} {step : State → Item → Option State}
    {invariant : State → Prop} {items : List Item} {state after : State}
    (kept : ∀ state next, ∀ item ∈ items, invariant state → step state item = some next →
      invariant next)
    (before : invariant state) (ran : items.foldlM step state = some after) : invariant after := by
  induction items generalizing state with
  | nil =>
      cases ran
      exact before
  | cons item rest ih =>
      rw [List.foldlM_cons] at ran
      rcases Option.bind_eq_some_iff.mp ran with ⟨next, stepped, ran⟩
      apply ih ?_ (kept _ _ item List.mem_cons_self before stepped) ran
      intro state next item later
      exact kept state next item (List.mem_cons_of_mem _ later)

namespace Token

variable {token : Token} {word : List Char} {value : Json} {negative : Bool}

/-- The value in the token, if there is one, is well-formed. -/
def IsProper : Token → Prop
  | .atom value => value.isWellFormed = true
  | _ => True

theorem isWellFormed_of_doubleValue? {whole fraction : List Char} {exponent : Int}
    (found : doubleValue? negative whole fraction exponent = some value) :
    value.isWellFormed = true := by
  rcases Option.bind_eq_some_iff.mp found with ⟨digits, _, ⟨⟩⟩
  rfl

theorem isWellFormed_of_exponent {whole fraction exponent : List Char} {mark : Char}
    (found : (if isExponentMark mark = true then
      exponentValue? exponent >>= doubleValue? negative whole fraction else none) = some value) :
    value.isWellFormed = true := by
  split at found
  · rcases Option.bind_eq_some_iff.mp found with ⟨exponent, _, found⟩
    exact isWellFormed_of_doubleValue? found
  · cases found

theorem isWellFormed_of_unsignedNumber? (found : unsignedNumber? negative word = some value) :
    value.isWellFormed = true := by
  rcases Option.bind_eq_some_iff.mp found with ⟨whole, _, found⟩
  dsimp only at found
  split at found
  · cases found
  · split at found
    · cases found
      rfl
    · split at found
      · cases found
      · split at found
        · exact isWellFormed_of_doubleValue? found
        · exact isWellFormed_of_exponent found
    · exact isWellFormed_of_exponent found

theorem isProper_of_ofWord? (found : ofWord? word = some token) : token.IsProper := by
  unfold ofWord? at found
  split at found
  case h_7 =>
    split at found
    · rcases Option.map_eq_some_iff.mp found with ⟨value, number, rfl⟩
      exact isWellFormed_of_unsignedNumber? number
    · rcases Option.map_eq_some_iff.mp found with ⟨value, number, rfl⟩
      exact isWellFormed_of_unsignedNumber? number
  all_goals
    cases found
    rfl

theorem isProper_of_punctuation? {character : Char} (found : punctuation? character = some token) :
    token.IsProper := by
  unfold punctuation? at found
  split at found <;> cases found <;> trivial

namespace Scanner

variable {scanner next : Scanner} {character : Char}

/-- The values in the tokens are well-formed. -/
def IsProper (scanner : Scanner) : Prop :=
  ∀ token ∈ scanner.tokens, token.IsProper

theorem IsProper.emit (proper : scanner.IsProper) (also : token.IsProper) :
    (scanner.emit token).IsProper := by
  intro other member
  rcases List.mem_cons.mp member with rfl | before
  · exact also
  · exact proper other before

theorem IsProper.start? (proper : scanner.IsProper)
    (stepped : scanner.start? character = some next) : next.IsProper := by
  rw [Scanner.start?] at stepped
  split at stepped
  · cases stepped
    exact proper
  · split at stepped
    · cases stepped
      exact proper
    · split at stepped
      · rename_i token found
        cases stepped
        exact proper.emit (isProper_of_punctuation? found)
      · cases stepped
        exact proper

theorem IsProper.finishWord? {word : List Char} (proper : scanner.IsProper)
    (finished : scanner.finishWord? word = some next) : next.IsProper := by
  rcases Option.map_eq_some_iff.mp finished with ⟨token, found, rfl⟩
  exact proper.emit (isProper_of_ofWord? found)

theorem IsProper.step? (proper : scanner.IsProper)
    (stepped : scanner.step? character = some next) : next.IsProper := by
  rw [Scanner.step?] at stepped
  split at stepped
  · exact proper.start? stepped
  · split at stepped
    · rcases Option.bind_eq_some_iff.mp stepped with ⟨between, finished, started⟩
      exact (proper.finishWord? finished).start? started
    · cases stepped
      exact proper
  · split at stepped
    · cases stepped
      exact proper.emit trivial
    · split at stepped
      · cases stepped
        exact proper
      · split at stepped
        · cases stepped
        · cases stepped
          exact proper
  · split at stepped
    · cases stepped
      exact proper
    · rcases Option.map_eq_some_iff.mp stepped with ⟨unit, _, rfl⟩
      exact proper
  · rcases Option.map_eq_some_iff.mp stepped with ⟨digit, _, rfl⟩
    split
    · exact proper
    · exact proper

end Scanner

theorem isProper_of_scan? {text : List Char} {tokens : List Token}
    (scanned : scan? text = some tokens) : ∀ token ∈ tokens, token.IsProper := by
  rcases Option.bind_eq_some_iff.mp scanned with ⟨scanner, ran, finished⟩
  have proper : scanner.IsProper :=
    foldlM_induction (fun _ _ _ _ proper stepped => Scanner.IsProper.step? proper stepped)
      (fun _ member => absurd member List.not_mem_nil) ran
  rw [Scanner.finish?] at finished
  split at finished
  · cases finished
    exact fun token member => proper token (List.mem_reverse.mp member)
  · rcases Option.map_eq_some_iff.mp finished with ⟨scanner, word, rfl⟩
    exact fun token member => proper.finishWord? word token (List.mem_reverse.mp member)
  · cases finished

end Token

/-- The items or entries that are read so far are those of a well-formed value. -/
def Frame.IsProper : Frame → Prop
  | .array items => (Json.array items).isWellFormed = true
  | .object entries _ => (Json.object entries).isWellFormed = true

/-- The value, if one is complete, is well-formed. -/
def Expectation.IsProper : Expectation → Prop
  | .complete content => content.isWellFormed = true
  | _ => True

theorem isWellFormed_reverse (items : List Json) :
    (array items.reverse).isWellFormed = (array items).isWellFormed := by
  rw [isWellFormed, isWellFormed, Bool.eq_iff_iff, itemsWellFormed_iff, itemsWellFormed_iff]
  simp only [List.mem_reverse]

theorem isWellFormed_set {entries : List (String × Json)} {content : Json} (key : String)
    (proper : (object entries).isWellFormed = true) (also : content.isWellFormed = true) :
    (object (Entries.set entries key content)).isWellFormed = true := by
  simp only [isWellFormed, Bool.and_eq_true, decide_eq_true_eq, entriesWellFormed_iff] at proper ⊢
  refine ⟨Entries.nodup_keys_set proper.1 key content, ?_⟩
  intro entry member
  rcases Entries.mem_of_mem_set member with before | rfl
  · exact proper.2 entry before
  · exact also

namespace Reader

variable {reader next : Reader} {token : Token} {frames : List Frame} {value : Json}

/-- What is read so far is well-formed. -/
structure IsProper (reader : Reader) : Prop where
  expectation : reader.expectation.IsProper
  frames : ∀ frame ∈ reader.frames, frame.IsProper

theorem IsProper.begin? (proper : reader.IsProper) (also : token.IsProper)
    (stepped : reader.begin? token = some next) : next.IsProper := by
  cases token with
  | atom value =>
      cases stepped
      exact ⟨also, proper.frames⟩
  | text value =>
      cases stepped
      exact ⟨rfl, proper.frames⟩
  | openArray =>
      cases stepped
      exact ⟨trivial, List.forall_mem_cons.mpr ⟨rfl, proper.frames⟩⟩
  | openObject =>
      cases stepped
      exact ⟨trivial, List.forall_mem_cons.mpr ⟨rfl, proper.frames⟩⟩
  | closeArray => cases stepped
  | closeObject => cases stepped
  | comma => cases stepped
  | colon => cases stepped

theorem isProper_of_continue? (proper : ∀ frame ∈ frames, frame.IsProper)
    (also : value.isWellFormed = true) (stepped : continue? value token frames = some next) :
    next.IsProper := by
  rcases frames with _ | ⟨frame, frames⟩
  · cases stepped
  · rcases List.forall_mem_cons.mp proper with ⟨first, others⟩
    cases frame with
    | array items =>
        have items : (array (value :: items)).isWellFormed = true := by
          rw [isWellFormed, itemsWellFormed, also]
          exact first
        cases token with
        | comma =>
            cases stepped
            exact ⟨trivial, List.forall_mem_cons.mpr ⟨items, others⟩⟩
        | closeArray =>
            cases stepped
            exact ⟨(isWellFormed_reverse _).trans items, others⟩
        | _ => cases stepped
    | object entries key =>
        have entries := isWellFormed_set key first also
        cases token with
        | comma =>
            cases stepped
            exact ⟨trivial, List.forall_mem_cons.mpr ⟨entries, others⟩⟩
        | closeObject =>
            cases stepped
            exact ⟨entries, others⟩
        | _ => cases stepped

theorem IsProper.takeKey? (proper : reader.IsProper)
    (stepped : reader.takeKey? token = some next) : next.IsProper := by
  unfold Reader.takeKey? at stepped
  split at stepped
  · split at stepped
    · rename_i opened
      cases stepped
      have frames := proper.frames
      rw [opened, List.forall_mem_cons] at frames
      exact ⟨trivial, List.forall_mem_cons.mpr frames⟩
    · cases stepped
  · cases stepped

theorem IsProper.step? (proper : reader.IsProper) (also : token.IsProper)
    (stepped : reader.step? token = some next) : next.IsProper := by
  have outer : ∀ frame ∈ reader.frames.tail, frame.IsProper :=
    fun frame member => proper.frames frame (List.mem_of_mem_tail member)
  unfold Reader.step? at stepped
  split at stepped
  · exact proper.begin? also stepped
  · split at stepped
    · cases stepped
      exact ⟨rfl, outer⟩
    · exact proper.begin? also stepped
  · exact proper.takeKey? stepped
  · split at stepped
    · cases stepped
      exact ⟨rfl, outer⟩
    · exact proper.takeKey? stepped
  · split at stepped
    · cases stepped
      exact ⟨trivial, proper.frames⟩
    · cases stepped
  · rename_i value complete
    have value := proper.expectation
    rw [complete] at value
    exact isProper_of_continue? proper.frames value stepped

theorem isWellFormed_of_finish? (proper : reader.IsProper)
    (finished : reader.finish? = some value) : value.isWellFormed = true := by
  rw [finish?] at finished
  split at finished
  · rename_i complete _
    cases finished
    have value := proper.expectation
    rw [complete] at value
    exact value
  · cases finished

end Reader

/-- What is read from a text is well-formed. -/
theorem isWellFormed_of_read? {text : String} {value : Json} (read : read? text = some value) :
    value.isWellFormed = true := by
  rcases Option.bind_eq_some_iff.mp read with ⟨tokens, scanned, read⟩
  rcases Option.bind_eq_some_iff.mp read with ⟨reader, ran, finished⟩
  have start : Reader.IsProper {} := ⟨trivial, fun _ member => absurd member List.not_mem_nil⟩
  have proper : reader.IsProper :=
    foldlM_induction
      (fun _ _ token member proper stepped =>
        proper.step? (Token.isProper_of_scan? scanned token member) stepped)
      start ran
  exact Reader.isWellFormed_of_finish? proper finished

end TypedRecords.Json
