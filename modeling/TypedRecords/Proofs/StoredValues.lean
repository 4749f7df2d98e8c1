import TypedRecords.Proofs.Acceptance
import TypedRecords.Proofs.RecordOrigins
import TypedRecords.Proofs.ShownValues

/-!
# The values that stand in a store

Every value of a record was decoded from the parameters of a request. If these can be written as
texts then no object in a value has a key twice, or the key of tags. This holds after every run,
because each call of the store leaves the fields of a record, removes them, or puts in their place
what a request has decoded, perhaps merged into what stood there.
-/

namespace TypedRecords

namespace Value

/-- The value is decoded from one that can be written as a text: no object in it has the key of
tags, or any key twice. -/
structure WellFormed (value : Value) : Prop where
  tagFree : value.isTagFree = true
  distinct : value.hasDistinctKeys = true

/-- Every field of a record holds a well-formed value. -/
def AllWellFormed (fields : List (String × Value)) : Prop :=
  ∀ entry ∈ fields, entry.2.WellFormed

theorem AllWellFormed.merge {fields patch : List (String × Value)} (old : AllWellFormed fields)
    (new : AllWellFormed patch) : AllWellFormed (Entries.merge fields patch) := by
  intro entry member
  rcases Entries.mem_of_mem_merge member with before | given
  · exact old entry before
  · exact new entry given

end Value

open Value

namespace Json

theorem wellFormed_of_decode {raw : Json} {value : Value} (proper : raw.isWellFormed = true)
    (decoded : raw.decode = .ok value) : value.WellFormed where
  tagFree := isTagFree_of_decode raw decoded
  distinct := hasDistinctKeys_of_decode raw proper decoded

theorem allWellFormed_of_decodeEntries {entries : List (String × Json)}
    {fields : List (String × Value)} (proper : (Json.object entries).isWellFormed = true)
    (decoded : decodeEntries entries = .ok fields) : AllWellFormed fields := by
  rw [isWellFormed, Bool.and_eq_true, entriesWellFormed_iff] at proper
  replace proper := proper.2
  induction entries generalizing fields with
  | nil =>
      cases decoded
      exact fun _ member => absurd member List.not_mem_nil
  | cons entry rest ih =>
      rcases entry with ⟨key, content⟩
      simp only [decodeEntries, Except.bind_eq_ok_iff, Except.pure_eq_ok_iff] at decoded
      rcases decoded with ⟨value, read, values, more, rfl⟩
      intro entry member
      rcases List.mem_cons.mp member with rfl | later
      · exact wellFormed_of_decode (proper _ List.mem_cons_self) read
      · exact ih more (fun other known => proper other (List.mem_cons_of_mem _ known)) entry later

end Json

namespace Mapping

theorem mem_of_mem_set {mapping after : Mapping} {name content : Json} {key : Key}
    (done : mapping.set name key content = .ok after) {entry : Json × Json}
    (member : entry ∈ after) : entry.2 = content ∨ ∃ old ∈ mapping, entry.2 = old.2 := by
  induction mapping generalizing after with
  | nil =>
      cases done
      exact Or.inl (by rw [List.mem_singleton.mp member])
  | cons first rest ih =>
      rcases first with ⟨present, old⟩
      simp only [set, Except.bind_eq_ok_iff] at done
      rcases done with ⟨presentKey, _, done⟩
      split at done
      · cases done
        rcases List.mem_cons.mp member with rfl | later
        · exact Or.inl rfl
        · exact Or.inr ⟨entry, List.mem_cons_of_mem _ later, rfl⟩
      · simp only [Except.bind_eq_ok_iff, Except.pure_eq_ok_iff] at done
        rcases done with ⟨others, more, rfl⟩
        rcases List.mem_cons.mp member with rfl | later
        · exact Or.inr ⟨_, List.mem_cons_self, rfl⟩
        · rcases ih more later with new | ⟨other, known, same⟩
          · exact Or.inl new
          · exact Or.inr ⟨other, List.mem_cons_of_mem _ known, same⟩

theorem isWellFormed_of_mem_itemsOf? {value : Json} {items : List Json}
    (proper : value.isWellFormed = true) (listed : itemsOf? value = some items) :
    ∀ item ∈ items, item.isWellFormed = true := by
  intro item member
  cases value with
  | array inner =>
      cases listed
      exact Json.itemsWellFormed_iff.mp proper item member
  | text =>
      cases listed
      rcases List.mem_map.mp member with ⟨character, _, rfl⟩
      rfl
  | object =>
      cases listed
      rcases List.mem_map.mp member with ⟨entry, _, rfl⟩
      rfl
  | null => cases listed
  | bool => cases listed
  | int => cases listed
  | double => cases listed
  | foreign => cases listed

theorem isWellFormed_of_ofItems {mapping after : Mapping} {index : Nat} {items : List Json}
    (done : ofItems mapping index items = .ok after)
    (old : ∀ entry ∈ mapping, entry.2.isWellFormed = true)
    (proper : ∀ item ∈ items, item.isWellFormed = true) :
    ∀ entry ∈ after, entry.2.isWellFormed = true := by
  induction items generalizing mapping index with
  | nil =>
      cases done
      exact old
  | cons item rest ih =>
      rw [ofItems] at done
      split at done
      · cases done
      · rename_i name content listed
        simp only [Except.bind_eq_ok_iff] at done
        rcases done with ⟨key, _, next, set, done⟩
        apply ih done
        · intro entry member
          rcases mem_of_mem_set set member with new | ⟨other, known, same⟩
          · rw [new]
            exact isWellFormed_of_mem_itemsOf? (proper item List.mem_cons_self) listed content
              (List.mem_cons_of_mem _ List.mem_cons_self)
          · rw [same]
            exact old other known
        · exact fun other member => proper other (List.mem_cons_of_mem _ member)
      · cases done

theorem isWellFormed_of_ofJson {value : Json} {mapping : Mapping}
    (proper : value.isWellFormed = true) (converted : ofJson value = .ok mapping) :
    ∀ entry ∈ mapping, entry.2.isWellFormed = true := by
  rw [ofJson] at converted
  split at converted
  · unfold convert at converted
    split at converted
    · cases converted
      rw [Json.isWellFormed, Bool.and_eq_true, Json.entriesWellFormed_iff] at proper
      intro entry member
      rcases List.mem_map.mp member with ⟨given, present, rfl⟩
      exact proper.2 given present
    · exact isWellFormed_of_ofItems converted (by simp) (Json.itemsWellFormed_iff.mp proper)
    · split at converted
      · cases converted
        simp
      · cases converted
    · cases converted
    · cases converted
    · cases converted
  · cases converted
    simp

theorem exists_of_mem_textEntries {mapping : Mapping} {entry : String × Json}
    (member : entry ∈ mapping.textEntries) : (.text entry.1, entry.2) ∈ mapping := by
  rw [textEntries, List.mem_filterMap] at member
  rcases member with ⟨⟨name, content⟩, present, named⟩
  cases name with
  | text =>
      cases named
      exact present
  | null => cases named
  | bool => cases named
  | int => cases named
  | double => cases named
  | array => cases named
  | object => cases named
  | foreign => cases named

end Mapping

/-- The parameters of a request that can be written as a text can be so one by one. -/
theorem Request.isWellFormed_parameter {request : Request}
    (proper : request.parameters.isWellFormed = true) (name : String) :
    (request.parameter name).isWellFormed = true := by
  rw [parameter, Json.entry]
  rcases found : request.given.lookup name with _ | value
  · rfl
  · replace found := Entries.mem_of_lookup found
    rw [given] at found
    split at found
    · rename_i mapping converted
      exact Mapping.isWellFormed_of_ofJson proper converted _
        (Mapping.exists_of_mem_textEntries found)
    · cases found

namespace Records

theorem allWellFormed_of_decodeData {label : String} {data : Json} {fields : List (String × Value)}
    (proper : data.isWellFormed = true) (decoded : decodeData label data = .ok fields) :
    AllWellFormed fields := by
  rcases decodeData_eq_ok decoded with ⟨entries, rfl, _, read⟩
  exact Json.allWellFormed_of_decodeEntries proper read

theorem allWellFormed_of_decodeBatch {items : List Json} {index : Nat}
    {batch : List (List (String × Value) × AccessPolicy)}
    (proper : ∀ item ∈ items, item.isWellFormed = true)
    (decoded : decodeBatch index items = .ok batch) : ∀ item ∈ batch, AllWellFormed item.1 := by
  induction items generalizing index batch with
  | nil =>
      cases decoded
      exact fun _ member => absurd member List.not_mem_nil
  | cons data rest ih =>
      simp only [decodeBatch, Except.bind_eq_ok_iff, Except.pure_eq_ok_iff] at decoded
      rcases decoded with ⟨fields, first, others, more, rfl⟩
      intro item member
      rcases List.mem_cons.mp member with rfl | later
      · exact allWellFormed_of_decodeData (proper data List.mem_cons_self) first
      · exact ih (fun other known => proper other (List.mem_cons_of_mem _ known)) more item later

end Records

theorem Tables.allWellFormed_of_decodeSamples {samples : Json} {entries : List (String × Json)}
    {fields : List (String × Value)} (proper : samples.isWellFormed = true)
    (listed : sampleEntries samples = .ok entries) (decoded : decodeSamples entries = .ok fields) :
    AllWellFormed fields := by
  have read := (decodeSamples_eq_ok decoded).2
  rcases sampleEntries_eq_ok listed with rfl | rfl
  · cases read
    exact fun _ member => absurd member List.not_mem_nil
  · exact Json.allWellFormed_of_decodeEntries proper read

/-- A request that can be written as a text writes well-formed values over such values. -/
theorem Request.Puts.allWellFormed {request : Request} {before : Option Record}
    {record : Record} (puts : request.Puts before record)
    (proper : request.parameters.isWellFormed = true)
    (stood : ∀ existing ∈ before, AllWellFormed existing.fields) : AllWellFormed record.fields := by
  have given := isWellFormed_parameter proper
  cases puts with
  | filed fields =>
      cases fields with
      | data decoded => exact Records.allWellFormed_of_decodeData (given "data") decoded
      | item listed decoded member =>
          have items := given "records"
          rw [listed] at items
          exact Records.allWellFormed_of_decodeBatch (Json.itemsWellFormed_iff.mp items) decoded _
            member
      | samples listed decoded =>
          exact Tables.allWellFormed_of_decodeSamples (given "schema") listed decoded
  | rewritten existing decoded =>
      exact (stood existing rfl).merge (Records.allWellFormed_of_decodeData (given "data") decoded)

namespace Store

variable {store : Store}

/-- The fields of every record hold well-formed values. -/
def HasWellFormedValues (store : Store) : Prop :=
  ∀ key objectId record, store.record? key objectId = some record → AllWellFormed record.fields

theorem hasWellFormedValues_empty : ({} : Store).HasWellFormedValues :=
  allRecords_empty fun record => AllWellFormed record.fields

theorem HasWellFormedValues.after (values : store.HasWellFormedValues)
    (wellFormed : store.WellFormed) {requests : List Request}
    (proper : ∀ request ∈ requests, request.parameters.isWellFormed = true) :
    (store.after requests).HasWellFormedValues :=
  AllRecords.after values wellFormed fun request member _ _ puts stood =>
    puts.allWellFormed (proper request member) stood

end Store

end TypedRecords
