import Mathlib.Data.List.Nodup
import TypedRecords.Entries

/-!
# Setting and merging entries

Setting an entry keeps keys distinct, and the entries are then those that were there before and the
new one. So after a patch is merged every key has what the patch gives it, if it gives anything, and
what it had before otherwise. `Entries.Repeats` is for entries whose keys may repeat: looking a key
up finds the first of its entries, and the others are known to be allowed ones.
-/

namespace TypedRecords.Entries

variable {Name Content : Type} [DecidableEq Name]

theorem mem_of_lookup {entries : List (Name × Content)} {key : Name} {content : Content}
    (found : entries.lookup key = some content) : (key, content) ∈ entries := by
  rcases List.lookup_eq_some_iff.mp found with ⟨front, back, split, _⟩
  rw [split]
  exact List.mem_append_right front List.mem_cons_self

theorem lookup_of_mem {entries : List (Name × Content)} (distinct : (keys entries).Nodup)
    {key : Name} {content : Content} (member : (key, content) ∈ entries) :
    entries.lookup key = some content := by
  induction entries with
  | nil => simp at member
  | cons entry rest ih =>
      rw [keys, List.map_cons, List.nodup_cons] at distinct
      rcases List.mem_cons.mp member with rfl | later
      · simp
      · have different : key ≠ entry.1 := by
          rintro rfl
          exact distinct.1 (List.mem_map.mpr ⟨_, later, rfl⟩)
        rw [List.lookup_cons, beq_false_of_ne different]
        exact ih distinct.2 later

/-- With distinct keys, the contents under a key are the one that is found there. -/
theorem map_filter_key {entries : List (Name × Content)} (distinct : (keys entries).Nodup)
    (key : Name) :
    (entries.filter fun entry => entry.1 = key).map Prod.snd = (entries.lookup key).toList := by
  induction entries with
  | nil => rfl
  | cons entry rest ih =>
      rcases entry with ⟨present, content⟩
      rw [keys, List.map_cons, List.nodup_cons] at distinct
      by_cases same : present = key
      · subst same
        have others : (rest.filter fun entry => entry.1 = present) = [] := by
          apply List.filter_eq_nil_iff.mpr
          intro entry member again
          rw [← of_decide_eq_true again] at distinct
          exact distinct.1 (List.mem_map.mpr ⟨entry, member, rfl⟩)
        simp [others]
      · have different : (key == present) = false := by simpa using Ne.symm same
        rw [List.filter_cons, if_neg (by simpa using same), List.lookup_cons, different]
        exact ih distinct.2

theorem nodup_keys_set {entries : List (Name × Content)} (distinct : (keys entries).Nodup)
    (key : Name) (content : Content) : (keys (set entries key content)).Nodup := by
  rw [keys_set]
  split
  · exact distinct
  · rename_i absent
    exact List.Nodup.append distinct (List.nodup_singleton key) (by simpa using absent)

theorem nodup_keys_erase {entries : List (Name × Content)} (distinct : (keys entries).Nodup)
    (key : Name) : (keys (erase entries key)).Nodup := by
  rw [keys_erase]
  exact distinct.filter _

theorem set_eq_self {entries : List (Name × Content)} {key : Name} {content : Content}
    (known : entries.lookup key = some content) : set entries key content = entries := by
  induction entries with
  | nil => simp at known
  | cons entry rest ih =>
      rcases entry with ⟨present, old⟩
      rw [List.lookup_cons] at known
      by_cases same : present = key
      · simp_all [set]
      · rw [beq_false_of_ne (Ne.symm same)] at known
        rw [set, if_neg same, ih known]

theorem set_of_not_mem {entries : List (Name × Content)} {key : Name}
    (absent : key ∉ keys entries) (content : Content) :
    set entries key content = entries ++ [(key, content)] := by
  induction entries with
  | nil => rfl
  | cons entry rest ih =>
      simp only [keys, List.map_cons, List.mem_cons, not_or] at absent
      rw [set, if_neg (Ne.symm absent.1), ih absent.2, List.cons_append]

theorem set_set (entries : List (Name × Content)) (key : Name) (first second : Content) :
    set (set entries key first) key second = set entries key second := by
  induction entries with
  | nil => simp [set]
  | cons entry rest ih =>
      rcases entry with ⟨present, content⟩
      by_cases same : present = key
      · simp [set, same]
      · simp [set, same, ih]

theorem mem_of_mem_set {entries : List (Name × Content)} {key : Name} {content : Content}
    {entry : Name × Content} (member : entry ∈ set entries key content) :
    entry ∈ entries ∨ entry = (key, content) := by
  induction entries with
  | nil => exact Or.inr (List.mem_singleton.mp member)
  | cons first rest ih =>
      rcases first with ⟨present, old⟩
      rw [set] at member
      split at member
      · rename_i same
        rcases List.mem_cons.mp member with rfl | later
        · exact Or.inr (by rw [same])
        · exact Or.inl (List.mem_cons_of_mem _ later)
      · rcases List.mem_cons.mp member with rfl | later
        · exact Or.inl List.mem_cons_self
        · exact (ih later).imp_left (List.mem_cons_of_mem _)

/-- What a patch gives a key. Of several entries for one key the last one counts. -/
def given? (patch : List (Name × Content)) (key : Name) : Option Content :=
  patch.reverse.lookup key

theorem lookup_merge (entries patch : List (Name × Content)) (key : Name) :
    (merge entries patch).lookup key = (given? patch key).or (entries.lookup key) := by
  induction patch generalizing entries with
  | nil => rfl
  | cons entry rest ih =>
      rcases entry with ⟨name, content⟩
      change (merge (set entries name content) rest).lookup key = _
      rw [ih, given?, given?, List.reverse_cons, List.lookup_append, lookup_set, Option.or_assoc]
      by_cases same : key = name
      · simp [same]
      · have unequal : (key == name) = false := by simpa using same
        simp [same, List.lookup_cons, unequal]

theorem lookup_merge_of_not_mem {entries patch : List (Name × Content)} {key : Name}
    (absent : key ∉ keys patch) : (merge entries patch).lookup key = entries.lookup key := by
  have none : given? patch key = none := by
    rw [given?, ← Option.not_isSome_iff_eq_none, lookup_isSome_iff, keys, List.map_reverse,
      List.mem_reverse]
    exact absent
  rw [lookup_merge, none, Option.none_or]

theorem nodup_keys_merge {first : List (Name × Content)} (distinct : (keys first).Nodup)
    (second : List (Name × Content)) : (keys (merge first second)).Nodup := by
  induction second generalizing first with
  | nil => exact distinct
  | cons entry rest ih => exact ih (nodup_keys_set distinct entry.1 entry.2)

theorem find?_keys_set (entries : List (Name × Content)) (key : Name) (content : Content)
    (test : Name → Bool) :
    (keys (set entries key content)).find? test = (keys entries ++ [key]).find? test := by
  rw [keys_set]
  split
  · rename_i present
    rw [List.find?_append]
    cases found : (keys entries).find? test with
    | some other => rfl
    | none =>
        have fails := List.find?_eq_none.mp found key present
        simp [fails]
  · rfl

/-- The first key that is searched for among merged entries is found among those before, or else in
the patch. -/
theorem find?_keys_merge (entries patch : List (Name × Content)) (test : Name → Bool) :
    (keys (merge entries patch)).find? test = (keys entries ++ keys patch).find? test := by
  induction patch generalizing entries with
  | nil => simp [merge, keys]
  | cons entry rest ih =>
      change (keys (merge (set entries entry.1 entry.2) rest)).find? test = _
      rw [ih, List.find?_append, find?_keys_set, ← List.find?_append, List.append_assoc]
      rfl

/-- With distinct keys the last entry for a key is the first one. -/
theorem given?_eq_lookup {entries : List (Name × Content)} (distinct : (keys entries).Nodup)
    (key : Name) : given? entries key = entries.lookup key := by
  have backwards : (keys entries.reverse).Nodup := by
    rw [keys, List.map_reverse]
    exact List.nodup_reverse.mpr distinct
  apply Option.ext
  intro content
  constructor
  · intro given
    exact lookup_of_mem distinct (List.mem_reverse.mp (mem_of_lookup given))
  · intro found
    exact lookup_of_mem backwards (List.mem_reverse.mpr (mem_of_lookup found))

theorem given?_merge {first : List (Name × Content)} (distinct : (keys first).Nodup)
    (second : List (Name × Content)) (key : Name) :
    given? (merge first second) key = (given? second key).or (given? first key) := by
  rw [given?_eq_lookup (nodup_keys_merge distinct second), lookup_merge,
    given?_eq_lookup distinct]

/-- Merging a patch that has no key twice sets every entry of it. -/
theorem mem_merge_of_mem {entries patch : List (Name × Content)} (distinct : (keys patch).Nodup)
    {entry : Name × Content} (member : entry ∈ patch) : entry ∈ merge entries patch := by
  induction patch generalizing entries with
  | nil => cases member
  | cons first rest ih =>
      simp only [keys, List.map_cons, List.nodup_cons] at distinct
      change entry ∈ merge (set entries first.1 first.2) rest
      rcases List.mem_cons.mp member with rfl | later
      · apply mem_of_lookup
        rw [lookup_merge_of_not_mem distinct.1, lookup_set_self]
      · exact ih distinct.2 later

theorem mem_of_mem_merge {entries patch : List (Name × Content)} {entry : Name × Content}
    (member : entry ∈ merge entries patch) : entry ∈ entries ∨ entry ∈ patch := by
  induction patch generalizing entries with
  | nil => exact Or.inl member
  | cons first rest ih =>
      rcases @ih (set entries first.1 first.2) member with old | later
      · rcases mem_of_mem_set old with older | rfl
        · exact Or.inl older
        · exact Or.inr List.mem_cons_self
      · exact Or.inr (List.mem_cons_of_mem _ later)

/-- Every entry whose key came before in the list is an allowed one. -/
def Repeats (allowed : Name × Content → Prop) (entries : List (Name × Content)) : Prop :=
  entries.Pairwise fun first second => first.1 = second.1 → allowed second

namespace Repeats

variable {allowed : Name × Content → Prop} {entries : List (Name × Content)}

theorem set (repeats : Repeats allowed entries) (key : Name) (content : Content) :
    Repeats allowed (Entries.set entries key content) := by
  induction entries with
  | nil => exact List.pairwise_singleton _ _
  | cons first rest ih =>
      rcases first with ⟨present, old⟩
      rw [Repeats, List.pairwise_cons] at repeats
      rw [Entries.set]
      split
      · exact List.pairwise_cons.mpr repeats
      · rename_i different
        refine List.pairwise_cons.mpr ⟨?_, ih repeats.2⟩
        intro second member same
        rcases mem_of_mem_set member with before | rfl
        · exact repeats.1 second before same
        · exact absurd same different

/-- Setting entries repeats no key. -/
theorem merge (repeats : Repeats allowed entries) (patch : List (Name × Content)) :
    Repeats allowed (Entries.merge entries patch) := by
  induction patch generalizing entries with
  | nil => exact repeats
  | cons first rest ih => exact ih (repeats.set first.1 first.2)

/-- An entry is the one that is found under its key, or an allowed one. -/
theorem lookup_or (repeats : Repeats allowed entries) {entry : Name × Content}
    (member : entry ∈ entries) : entries.lookup entry.1 = some entry.2 ∨ allowed entry := by
  induction entries with
  | nil => cases member
  | cons first rest ih =>
      rw [Repeats, List.pairwise_cons] at repeats
      rcases List.mem_cons.mp member with rfl | later
      · exact Or.inl List.lookup_cons_self
      · by_cases same : first.1 = entry.1
        · exact Or.inr (repeats.1 entry later same)
        · rw [List.lookup_cons, beq_false_of_ne (Ne.symm same)]
          exact ih repeats.2 later

end Repeats

/-- What is merged has from the entries before only what the patch does not set. -/
theorem mem_merge_cases {entries patch : List (Name × Content)} {entry : Name × Content}
    (member : entry ∈ merge entries patch) :
    given? patch entry.1 = some entry.2 ∨ entry ∈ entries := by
  have repeats : Repeats (· ∈ entries) entries :=
    List.pairwise_of_forall_mem_list fun _ _ _ present _ => present
  rcases (repeats.merge patch).lookup_or member with found | old
  · rw [lookup_merge, Option.or_eq_some_iff] at found
    rcases found with given | ⟨_, old⟩
    · exact Or.inl given
    · exact Or.inr (mem_of_lookup old)
  · exact Or.inr old

end TypedRecords.Entries
