import Mathlib.Data.List.Nodup
import TypedRecords.Store.IdSource

/-!
# Fresh ids

`IdSource.fresh` never issues an id twice: among as many serial draws as there are issued ids, and
one more, there is one that was not issued, because serial ids are written in hexadecimal and so
differ from each other.
-/

namespace TypedRecords

/-- The number that hexadecimal digits spell. -/
def hexNumber (digits : List Char) : Nat :=
  digits.foldl (fun number digit => 16 * number + (hexValue? digit).getD 0) 0

theorem hexNumber_concat (digits : List Char) (digit : Char) :
    hexNumber (digits ++ [digit]) = 16 * hexNumber digits + (hexValue? digit).getD 0 := by
  simp [hexNumber]

theorem hexValue?_hexDigit : ∀ number < 16, hexValue? (hexDigit number) = some number := by
  decide

theorem hexNumber_hexDigits (number : Nat) : hexNumber (hexDigits number) = number := by
  fun_induction hexDigits number with
  | case1 number small =>
      simp [hexNumber, hexValue?_hexDigit number small]
  | case2 number large ih =>
      rw [hexNumber_concat, ih, hexValue?_hexDigit _ (Nat.mod_lt _ (by omega))]
      simp only [Option.getD_some]
      omega

theorem hexNumber_replicate_zero (count : Nat) (digits : List Char) :
    hexNumber (List.replicate count '0' ++ digits) = hexNumber digits := by
  induction count with
  | zero => rfl
  | succ count ih =>
      rw [List.replicate_succ, List.cons_append, ← ih]
      rfl

theorem hexNumber_paddedHex (width number : Nat) :
    hexNumber (paddedHex width number) = number := by
  rw [paddedHex, hexNumber_replicate_zero, hexNumber_hexDigits]

namespace IdSource

theorem serialId_injective : Function.Injective serialId := by
  intro left right same
  have digits := congrArg String.toList same
  simp only [serialId, String.toList_ofList] at digits
  rw [← hexNumber_paddedHex idLength left, digits, hexNumber_paddedHex]

/-- The next draws of a source, in order. -/
def draws : Nat → IdSource → List String
  | 0, _ => []
  | count + 1, source => source.draw.1 :: draws count source.draw.2

theorem draws_of_listed_eq_nil (count : Nat) (source : IdSource) (exhausted : source.listed = []) :
    draws count source = (List.range' (source.serials + 1) count).map serialId := by
  induction count generalizing source with
  | zero => rfl
  | succ count ih =>
      have next : source.draw =
          (serialId (source.serials + 1), { source with serials := source.serials + 1 }) := by
        simp [draw, exhausted]
      have rest := ih { source with serials := source.serials + 1 } exhausted
      rw [draws, next, List.range'_succ, List.map_cons]
      exact congrArg (List.cons _) rest

theorem draws_add_length_listed (count : Nat) (source : IdSource) :
    draws (source.listed.length + count) source =
      source.listed ++ (List.range' (source.serials + 1) count).map serialId := by
  rcases source with ⟨listed, serials⟩
  induction listed with
  | nil => simpa using draws_of_listed_eq_nil count ⟨[], serials⟩ rfl
  | cons first rest ih =>
      simp only [List.length_cons, Nat.add_right_comm _ 1 count, draws, draw, ih, List.cons_append]

/-- The draws that are made for one id include one that was not issued: the serial draws among them
are distinct and one more than the issued ids. -/
theorem exists_draw_not_mem (source : IdSource) (issued : List String) :
    ∃ drawn ∈ draws (source.listed.length + issued.length + 1) source, drawn ∉ issued := by
  by_contra! all
  have serials : ((List.range' (source.serials + 1) (issued.length + 1)).map serialId).Nodup :=
    List.Nodup.map serialId_injective List.nodup_range'
  have covered : (List.range' (source.serials + 1) (issued.length + 1)).map serialId ⊆ issued := by
    intro drawn serial
    apply all
    rw [Nat.add_assoc, draws_add_length_listed]
    exact List.mem_append_right _ serial
  have bound := serials.length_le_of_subset covered
  simp only [List.length_map, List.length_range'] at bound
  omega

theorem drawUnissued_succ (issued : List String) (retries : Nat) (source : IdSource) :
    drawUnissued issued (retries + 1) source =
      if source.draw.1 ∈ issued then drawUnissued issued retries source.draw.2
      else source.draw := by
  simp [drawUnissued]

theorem drawUnissued_not_mem (issued : List String) (retries : Nat) (source : IdSource)
    (unissued : ∃ drawn ∈ draws (retries + 1) source, drawn ∉ issued) :
    (drawUnissued issued retries source).1 ∉ issued := by
  induction retries generalizing source with
  | zero => simpa [draws, drawUnissued] using unissued
  | succ retries ih =>
      rw [drawUnissued_succ]
      by_cases taken : source.draw.1 ∈ issued
      · rw [if_pos taken]
        rcases unissued with ⟨drawn, among, free⟩
        rcases List.mem_cons.mp among with rfl | later
        · exact absurd taken free
        · exact ih _ ⟨drawn, later, free⟩
      · rwa [if_neg taken]

theorem fresh_not_mem (source : IdSource) (issued : List String) :
    (source.fresh issued).1 ∉ issued :=
  drawUnissued_not_mem issued _ source (exists_draw_not_mem source issued)

end IdSource

end TypedRecords
