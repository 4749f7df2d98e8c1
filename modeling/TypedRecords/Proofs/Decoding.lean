import TypedRecords.Proofs.WellFormed
import TypedRecords.Tables

/-!
# What arguments are decoded to

Entries are decoded one by one: they keep their keys, and each content is decoded by itself. Only
null is decoded to null, and only a foreign value to one that no field can hold. The data of a
record, the items of a batch and the sample values of a table are entries in which no reserved key
occurs.
-/

namespace TypedRecords

namespace Json

theorem keys_decodeEntries {entries : List (String × Json)} {decoded : List (String × Value)}
    (done : decodeEntries entries = .ok decoded) : Entries.keys decoded = Entries.keys entries := by
  induction entries generalizing decoded with
  | nil =>
      cases done
      rfl
  | cons entry rest ih =>
      rcases entry with ⟨key, content⟩
      simp only [decodeEntries, Except.bind_eq_ok_iff, Except.pure_eq_ok_iff] at done
      rcases done with ⟨value, _, values, more, rfl⟩
      simp only [Entries.keys, List.map_cons]
      exact congrArg (List.cons key) (ih more)

theorem decodeTagged_eq_ok {tag : Json} {entries : List (String × Json)} {value : Value}
    (done : decodeTagged tag entries = .ok value) :
    (∃ moment, value = .date moment) ∨ ∃ target, value = .pointer target := by
  unfold decodeTagged at done
  split at done
  · rw [decodeDate] at done
    split at done
    · split at done
      · cases done
        exact Or.inl ⟨_, rfl⟩
      · cases done
    · cases done
  · rw [decodePointer] at done
    split at done
    · cases done
      exact Or.inr ⟨_, rfl⟩
    · cases done
  · cases done

/-- What an object is decoded to: a date or a pointer if it is tagged, and else an object with its
contents decoded. -/
theorem decode_object_eq_ok {entries : List (String × Json)} {value : Value}
    (done : (Json.object entries).decode = .ok value) :
    (∃ moment, value = .date moment) ∨ (∃ target, value = .pointer target) ∨
      ∃ fields, value = .object fields ∧ decodeEntries entries = .ok fields ∧
        entries.lookup tagKey = none := by
  rw [decode] at done
  split at done
  · rcases decodeTagged_eq_ok done with date | pointer
    · exact Or.inl date
    · exact Or.inr (Or.inl pointer)
  · rename_i untagged
    simp only [Except.bind_eq_ok_iff, Except.pure_eq_ok_iff] at done
    rcases done with ⟨fields, decoded, rfl⟩
    exact Or.inr (Or.inr ⟨fields, rfl, decoded, untagged⟩)

theorem isNull_of_decode {content : Json} {value : Value} (decoded : content.decode = .ok value) :
    value.isNull = content.isNull := by
  cases content with
  | object entries =>
      rcases decode_object_eq_ok decoded with ⟨_, rfl⟩ | ⟨_, rfl⟩ | ⟨_, rfl, _⟩
      · rfl
      · rfl
      · rfl
  | array items =>
      simp only [decode, Except.bind_eq_ok_iff, Except.pure_eq_ok_iff] at decoded
      rcases decoded with ⟨values, _, rfl⟩
      rfl
  | null => cases decoded; rfl
  | bool => cases decoded; rfl
  | int => cases decoded; rfl
  | double => cases decoded; rfl
  | text => cases decoded; rfl
  | foreign => cases decoded; rfl

/-- A value of the wire can be held by a field, unless it is foreign. -/
theorem exists_descriptor?_of_decode {content : Json} {value : Value}
    (plain : ∀ kind, content ≠ .foreign kind) (decoded : content.decode = .ok value) :
    ∃ described, value.descriptor? = .ok described := by
  cases content with
  | object entries =>
      rcases decode_object_eq_ok decoded with ⟨_, rfl⟩ | ⟨_, rfl⟩ | ⟨_, rfl, _⟩
      · exact ⟨_, rfl⟩
      · exact ⟨_, rfl⟩
      · exact ⟨_, rfl⟩
  | array items =>
      simp only [decode, Except.bind_eq_ok_iff, Except.pure_eq_ok_iff] at decoded
      rcases decoded with ⟨_, _, rfl⟩
      exact ⟨_, rfl⟩
  | foreign kind => exact absurd rfl (plain kind)
  | null => cases decoded; exact ⟨_, rfl⟩
  | bool => cases decoded; exact ⟨_, rfl⟩
  | int => cases decoded; exact ⟨_, rfl⟩
  | double => cases decoded; exact ⟨_, rfl⟩
  | text => cases decoded; exact ⟨_, rfl⟩

/-- Every entry has been decoded. -/
theorem exists_of_mem_decodeEntries {entries : List (String × Json)}
    {fields : List (String × Value)} (decoded : decodeEntries entries = .ok fields)
    {field : String} {content : Json} (member : (field, content) ∈ entries) :
    ∃ value, (field, value) ∈ fields ∧ content.decode = .ok value := by
  induction entries generalizing fields with
  | nil => cases member
  | cons entry rest ih =>
      rcases entry with ⟨key, first⟩
      simp only [decodeEntries, Except.bind_eq_ok_iff, Except.pure_eq_ok_iff] at decoded
      rcases decoded with ⟨value, read, values, more, rfl⟩
      rcases List.mem_cons.mp member with here | later
      · cases here
        exact ⟨value, List.mem_cons_self, read⟩
      · rcases ih more later with ⟨value, present, same⟩
        exact ⟨value, List.mem_cons_of_mem _ present, same⟩

/-- Every field comes from an entry. -/
theorem exists_of_mem_decoded {entries : List (String × Json)} {fields : List (String × Value)}
    (decoded : decodeEntries entries = .ok fields) {field : String} {value : Value}
    (member : (field, value) ∈ fields) :
    ∃ content, (field, content) ∈ entries ∧ content.decode = .ok value := by
  induction entries generalizing fields with
  | nil =>
      cases decoded
      cases member
  | cons entry rest ih =>
      rcases entry with ⟨key, content⟩
      simp only [decodeEntries, Except.bind_eq_ok_iff, Except.pure_eq_ok_iff] at decoded
      rcases decoded with ⟨first, read, others, more, rfl⟩
      rcases List.mem_cons.mp member with here | later
      · cases here
        exact ⟨content, List.mem_cons_self, read⟩
      · rcases ih more later with ⟨found, present, same⟩
        exact ⟨found, List.mem_cons_of_mem _ present, same⟩

end Json

namespace Records

/-- The data of a record are the entries of an object, none of them reserved. -/
theorem decodeData_eq_ok {label : String} {data : Json} {fields : List (String × Value)}
    (decoded : decodeData label data = .ok fields) :
    ∃ entries, data = .object entries ∧ Schema.Unreserved entries ∧
      Json.decodeEntries entries = .ok fields := by
  cases data with
  | object entries =>
      simp only [decodeData] at decoded
      split at decoded
      · rename_i free
        exact ⟨entries, rfl, Schema.reservedAmong_eq_nil_iff.mp (List.isEmpty_iff.mp free), decoded⟩
      · cases decoded
  | null => cases decoded
  | bool => cases decoded
  | int => cases decoded
  | double => cases decoded
  | text => cases decoded
  | array => cases decoded
  | foreign => cases decoded

theorem decodeEntries_of_decodeData {label : String} {entries : List (String × Json)}
    {fields : List (String × Value)} (decoded : decodeData label (.object entries) = .ok fields) :
    Json.decodeEntries entries = .ok fields := by
  rcases decodeData_eq_ok decoded with ⟨_, same, _, read⟩
  cases same
  exact read

theorem exists_of_mem_decodeBatch {items : List Json} {index : Nat}
    {batch : List (List (String × Value) × AccessPolicy)}
    (decoded : decodeBatch index items = .ok batch) {data : Json} (member : data ∈ items) :
    ∃ label, ∃ item ∈ batch, decodeData label data = .ok item.1 := by
  induction items generalizing index batch with
  | nil => cases member
  | cons first rest ih =>
      simp only [decodeBatch, Except.bind_eq_ok_iff, Except.pure_eq_ok_iff] at decoded
      rcases decoded with ⟨fields, read, others, more, rfl⟩
      rcases List.mem_cons.mp member with rfl | later
      · exact ⟨_, _, List.mem_cons_self, read⟩
      · rcases ih more later with ⟨label, item, present, read⟩
        exact ⟨label, item, List.mem_cons_of_mem _ present, read⟩

theorem exists_of_mem_decodedBatch {items : List Json} {index : Nat}
    {batch : List (List (String × Value) × AccessPolicy)}
    (decoded : decodeBatch index items = .ok batch)
    {item : List (String × Value) × AccessPolicy} (member : item ∈ batch) :
    ∃ label, ∃ data ∈ items, decodeData label data = .ok item.1 := by
  induction items generalizing index batch with
  | nil =>
      cases decoded
      cases member
  | cons first rest ih =>
      simp only [decodeBatch, Except.bind_eq_ok_iff, Except.pure_eq_ok_iff] at decoded
      rcases decoded with ⟨fields, read, others, more, rfl⟩
      rcases List.mem_cons.mp member with rfl | later
      · exact ⟨_, first, List.mem_cons_self, read⟩
      · rcases ih more later with ⟨label, data, present, read⟩
        exact ⟨label, data, List.mem_cons_of_mem _ present, read⟩

end Records

namespace Tables

variable {entries : List (String × Json)} {fields : List (String × Value)}

theorem sampleEntries_eq_ok {samples : Json} {entries : List (String × Json)}
    (listed : sampleEntries samples = .ok entries) : entries = [] ∨ samples = .object entries := by
  cases samples with
  | null => cases listed; exact Or.inl rfl
  | object => cases listed; exact Or.inr rfl
  | bool => cases listed
  | int => cases listed
  | double => cases listed
  | text => cases listed
  | array => cases listed
  | foreign => cases listed

theorem decodeSamples_eq_ok (decoded : decodeSamples entries = .ok fields) :
    Schema.Unreserved fields ∧ Json.decodeEntries entries = .ok fields := by
  simp only [decodeSamples, Except.bind_eq_ok_iff] at decoded
  rcases decoded with ⟨values, read, checked⟩
  split at checked
  · rename_i free
    cases checked
    exact ⟨Schema.reservedAmong_eq_nil_iff.mp (List.isEmpty_iff.mp free), read⟩
  · cases checked

theorem eq_nil_iff_of_decodeSamples (decoded : decodeSamples entries = .ok fields) :
    fields = [] ↔ entries = [] := by
  have same := Json.keys_decodeEntries (decodeSamples_eq_ok decoded).2
  rw [← List.map_eq_nil_iff, ← Entries.keys, same, Entries.keys, List.map_eq_nil_iff]

theorem infer_of_sampleSchema {fields : List (String × Value)} {sampled : Schema}
    (done : sampleSchema fields = .ok sampled) : Schema.infer fields = .ok sampled := by
  induction fields generalizing sampled with
  | nil =>
      cases done
      rfl
  | cons entry rest ih =>
      rcases entry with ⟨field, value⟩
      rw [sampleSchema] at done
      rw [Schema.infer]
      rcases described : value.descriptor? with kind | _ | descriptor
      · simp [described] at done
      · simp only [described] at done
        exact ih done
      · simp only [described, Except.bind_eq_ok_iff, Except.pure_eq_ok_iff] at done
        rcases done with ⟨others, more, rfl⟩
        simp only [ih more]
        rfl

/-- Sample values of the wire have descriptors. -/
theorem exists_sampleSchema (plain : ∀ entry ∈ entries, ∀ kind, entry.2 ≠ .foreign kind)
    (decoded : Json.decodeEntries entries = .ok fields) :
    ∃ sampled, sampleSchema fields = .ok sampled := by
  induction entries generalizing fields with
  | nil =>
      cases decoded
      exact ⟨[], rfl⟩
  | cons entry rest ih =>
      rcases entry with ⟨field, content⟩
      simp only [Json.decodeEntries, Except.bind_eq_ok_iff, Except.pure_eq_ok_iff] at decoded
      rcases decoded with ⟨value, read, values, more, rfl⟩
      rcases ih (fun other member => plain other (List.mem_cons_of_mem _ member)) more with
        ⟨sampled, done⟩
      rcases Json.exists_descriptor?_of_decode (plain _ List.mem_cons_self) read with
        ⟨_ | descriptor, described⟩
      · exact ⟨sampled, by simp only [sampleSchema, described, done]⟩
      · refine ⟨(field, descriptor) :: sampled, ?_⟩
        simp only [sampleSchema, described, done]
        rfl

end Tables

end TypedRecords
