import TypedRecords.Proofs.Founding

/-!
# The classes that refer to a class

A class can be removed unless a field of another class points to it. The fields that do are named in
order, each by its class and itself. Only classes with accepted names have such fields, and no
accepted name has a full stop in it, so each of these texts stands for one field, and none occurs
twice.
-/

namespace TypedRecords

theorem FieldDescriptor.pointsTo_iff {descriptor : FieldDescriptor} {name : String} :
    descriptor.pointsTo (.text name) = true ↔
      descriptor = { type := .pointer, targetClass := some name } := by
  rcases descriptor with ⟨type, _ | target⟩
  · simp [pointsTo]
  · cases type <;> simp [pointsTo]

/-- No accepted name has a full stop in it. -/
theorem not_mem_of_isName {name : String} (named : isName name = true) : '.' ∉ name.toList := by
  have proper {stem : String} (proper : IsProperName stem) : '.' ∉ stem.toList := by
    rcases proper with ⟨first, rest, characters, start, plain⟩
    rw [characters]
    rintro (_ | ⟨_, later⟩)
    · exact absurd start (by decide)
    · exact absurd (plain _ later) (by decide)
  rcases isName_iff.mp named with plain | ⟨stem, plain, rfl⟩
  · exact proper plain
  · simpa using proper plain

/-- A text with a full stop is taken apart at the first one. -/
theorem eq_of_joined {first second left right : String} (firstPlain : '.' ∉ first.toList)
    (secondPlain : '.' ∉ second.toList) (same : first ++ "." ++ left = second ++ "." ++ right) :
    first = second ∧ left = right := by
  have before (name rest : String) (plain : '.' ∉ name.toList) :
      (name ++ "." ++ rest).toList.takeWhile (· != '.') = name.toList := by
    have all : ∀ character ∈ name.toList, (character != '.') = true := by
      intro character member
      simpa using fun stop : character = '.' => plain (stop ▸ member)
    simp [List.takeWhile_append_of_pos all]
  have names : first = second := by
    apply String.toList_injective
    rw [← before first left firstPlain, same, before second right secondPlain]
  subst names
  refine ⟨rfl, ?_⟩
  apply String.toList_injective
  have lists := congrArg String.toList same
  simpa using lists

namespace Store

variable {store after : Store} {key : Key} {name : String}

/-- A field of another class points to the class. -/
structure Refers (store : Store) (owner field name : String) : Prop where
  other : owner ≠ name
  points : (field, { type := .pointer, targetClass := some name }) ∈ store.schemaOf (.text owner)

/-- Only classes with accepted names have fields beyond those that every record has. -/
def OwnersNamed (store : Store) : Prop :=
  ∀ key, store.schemaOf key = Schema.builtin ∨ ∃ name, key = .text name ∧ isName name = true

theorem OwnersNamed.commitSchema (owners : store.OwnersNamed) {className : Json} {schema : Schema}
    (own : schema = Schema.builtin ∨ ∃ name, key = .text name ∧ isName name = true) :
    (store.commitSchema key className schema).OwnersNamed := by
  intro other
  rw [schemaOf_commitSchema]
  split
  · rename_i same
    rw [same]
    exact own
  · exact owners other

theorem OwnersNamed.learn {fields : List (String × Value)} (owners : store.OwnersNamed)
    (learns : store.Learns after name fields) : after.OwnersNamed := by
  rcases learns.merged with ⟨_, schema, _, _, same⟩
  intro key
  rw [schemaOf, same, ← schemaOf]
  exact owners.commitSchema (Or.inr ⟨name, rfl, learns.named⟩) key

theorem OwnersNamed.of_schemaEffect {request : Request} (owners : store.OwnersNamed)
    (effect : request.SchemaEffect store after) : after.OwnersNamed := by
  cases effect with
  | kept same =>
      intro key
      rw [schemaOf, same]
      exact owners key
  | created founds sets learns => exact owners.learn learns
  | updated known learns => exact owners.learn learns
  | batchedNothing nothing committed =>
      rw [committed]
      exact owners.commitSchema (owners _)
  | dropped key gone =>
      intro other
      rw [gone, schemaOf_dropClass]
      split
      · exact Or.inl rfl
      · exact owners other

theorem ownersNamed_after (requests : List Request) :
    (({} : Store).after requests).OwnersNamed := by
  refine holds_after OwnersNamed ?_ .empty ?_ requests
  · intro request store after effect wellFormed owners
    exact owners.of_schemaEffect (effect.schemaEffect wellFormed)
  · exact fun key => Or.inl rfl

/-- A field that points to a class is declared by a class with an accepted name. -/
theorem exists_name_of_points (owners : store.OwnersNamed) {field : String}
    (points : (field, { type := .pointer, targetClass := some name }) ∈ store.schemaOf key) :
    ∃ owner, key = .text owner ∧ isName owner = true := by
  rcases owners key with plain | named
  · rw [plain] at points
    simp [Schema.builtin] at points
  · exact named

/-- The text of a referring field is put together from the class that declares the field, and from
the field. -/
theorem exists_of_mem_referringFields (wellFormed : store.WellFormed) (owners : store.OwnersNamed)
    {entry : Key × ClassSchema} (member : entry ∈ store.schemas) {text : String}
    (listed : text ∈ referringFields entry.2 (.text name)) :
    ∃ owner field, entry.1 = .text owner ∧ isName owner = true ∧
      (field, { type := .pointer, targetClass := some name }) ∈ store.schemaOf entry.1 ∧
      text = owner ++ "." ++ field := by
  rcases entry with ⟨key, schema⟩
  have known := Entries.lookup_of_mem wellFormed.distinct member
  rcases List.mem_map.mp listed with ⟨⟨field, descriptor⟩, declared, rfl⟩
  rcases List.mem_filter.mp declared with ⟨declared, points⟩
  cases FieldDescriptor.pointsTo_iff.mp points
  have points : (field, { type := .pointer, targetClass := some name }) ∈ store.schemaOf key := by
    rw [schemaOf, known]
    exact declared
  rcases exists_name_of_points owners points with ⟨owner, rfl, named⟩
  have same := Json.eq_text_of_key (wellFormed.named _ _ known)
  exact ⟨owner, field, rfl, named, points, by simp only [same, Json.display]⟩

/-- The texts of the referring fields are exactly those of the fields of other classes that point to
the class. -/
theorem mem_referrers_iff (wellFormed : store.WellFormed) (owners : store.OwnersNamed)
    {text : String} :
    text ∈ store.referrers (.text name) (.text name) ↔
      ∃ owner field, store.Refers owner field name ∧ text = owner ++ "." ++ field := by
  simp only [referrers, List.mem_mergeSort, List.mem_flatMap, List.mem_map]
  constructor
  · rintro ⟨schema, ⟨entry, member, rfl⟩, listed⟩
    rcases List.mem_filter.mp member with ⟨present, other⟩
    rcases exists_of_mem_referringFields wellFormed owners present listed with
      ⟨owner, field, same, _, points, rfl⟩
    rw [same] at points other
    exact ⟨owner, field, ⟨by simpa using other, points⟩, rfl⟩
  · rintro ⟨owner, field, refers, rfl⟩
    have points := refers.points
    rw [schemaOf] at points
    split at points
    · rename_i schema known
      have same := Json.eq_text_of_key (wellFormed.named _ _ known)
      have kept : (Key.text owner, schema) ∈ Entries.erase store.schemas (.text name) :=
        List.mem_filter.mpr ⟨Entries.mem_of_lookup known, by simpa using refers.other⟩
      refine ⟨schema, ⟨_, kept, rfl⟩, List.mem_map.mpr ⟨_, List.mem_filter.mpr ⟨points, ?_⟩, ?_⟩⟩
      · exact FieldDescriptor.pointsTo_iff.mpr rfl
      · simp only [same, Json.display]
    · simp [Schema.builtin] at points

/-- One class has no two referring fields with the same text, and neither have two classes. The
texts of one class differ in the field, and those of two classes differ before the first full
stop. -/
theorem nodup_referrers (wellFormed : store.WellFormed) (owners : store.OwnersNamed) :
    (store.referrers (.text name) (.text name)).Nodup := by
  rw [referrers, (List.mergeSort_perm _ _).nodup_iff, List.nodup_flatMap, List.pairwise_map]
  refine ⟨?_, ?_⟩
  · intro schema member
    rcases List.mem_map.mp member with ⟨⟨key, schema⟩, present, rfl⟩
    have known := Entries.lookup_of_mem wellFormed.distinct (List.mem_of_mem_filter present)
    have distinct := (wellFormed.schemas key).keys_nodup
    rw [schemaOf, known] at distinct
    have referring : (Entries.keys (schema.fields.filter fun field =>
        field.2.pointsTo (.text name))).Nodup :=
      distinct.sublist (List.filter_sublist.map Prod.fst)
    have joined : Function.Injective fun field => schema.name.display ++ "." ++ field := by
      intro first second same
      simpa using same
    have texts := referring.map joined
    rwa [Entries.keys, List.map_map] at texts
  · have distinct : (Entries.erase store.schemas (.text name)).Pairwise fun first second =>
        first.1 ≠ second.1 := List.pairwise_map.mp (Entries.nodup_keys_erase wellFormed.distinct _)
    refine distinct.imp_of_mem ?_
    intro first second firstMember secondMember different text firstListed secondListed
    rcases exists_of_mem_referringFields wellFormed owners (List.mem_of_mem_filter firstMember)
      firstListed with ⟨owner, field, firstKey, named, _, rfl⟩
    rcases exists_of_mem_referringFields wellFormed owners (List.mem_of_mem_filter secondMember)
      secondListed with ⟨other, _, secondKey, otherNamed, _, same⟩
    apply different
    rw [firstKey, secondKey,
      (eq_of_joined (not_mem_of_isName named) (not_mem_of_isName otherNamed) same).1]

theorem pairwise_referrers (wellFormed : store.WellFormed) (owners : store.OwnersNamed) :
    (store.referrers (.text name) (.text name)).Pairwise (· < ·) := by
  have sorted : (store.referrers (.text name) (.text name)).Pairwise (· ≤ ·) :=
    pairwise_mergeSort_names _
  refine sorted.imp₂ ?_ (nodup_referrers wellFormed owners)
  intro left right le different
  exact String.not_le.mp fun ge => different (String.le_antisymm le ge)

theorem purgeClass_text (name : String) :
    store.purgeClass (.text name) =
      if .text name ∈ Entries.keys store.schemas then
        if store.referrers (.text name) (.text name) = [] then .ok (store.dropClass (.text name))
        else .error (.rejected (.referenced (.text name)
          (store.referrers (.text name) (.text name))))
      else .error (.notFound (.text name) .null) := by
  have keyed : (Json.text name).key = .ok (.text name) := rfl
  simp only [purgeClass, keyed, Except.mapError_ok, bind, Except.bind, ← Entries.lookup_isSome_iff,
    List.isEmpty_iff]
  rcases known : store.schemas.lookup (.text name) with _ | schema
  · simp only [known]
    rfl
  · simp only [known]
    rfl

end Store

end TypedRecords
