import TopicSieve.Query.FilterMap

/-!
Keys and the maps they belong to. Main statement: inserting a pair makes a map larger by one unless
it has the key already.
-/

namespace TopicSieve

namespace FilterMap

theorem contains_iff (map : FilterMap) (key : Text) :
    map.contains key = true ↔ ∃ pair ∈ map.pairs, Text.fold pair.1 = Text.fold key := by
  simp [contains, get?, List.find?_isSome, sameKey_iff]

theorem mem_insert (map : FilterMap) (key value : Text) (pair : Pair) :
    pair ∈ (map.insert key value).pairs ↔
      pair ∈ map.pairs ∧ Text.fold pair.1 ≠ Text.fold key ∨ pair = (key, value) := by
  simp [insert, sameKey_eq_false_iff]

theorem contains_insert (map : FilterMap) (key value other : Text) :
    (map.insert key value).contains other = true ↔
      Text.fold key = Text.fold other ∨ map.contains other = true := by
  simp only [contains_iff, mem_insert]
  constructor
  · rintro ⟨pair, ⟨member, _⟩ | rfl, same⟩
    · exact Or.inr ⟨pair, member, same⟩
    · exact Or.inl same
  · rintro (same | ⟨pair, member, same⟩)
    · exact ⟨(key, value), Or.inr rfl, same⟩
    · by_cases replaced : Text.fold pair.1 = Text.fold key
      · exact ⟨(key, value), Or.inr rfl, replaced.symm.trans same⟩
      · exact ⟨pair, Or.inl ⟨member, replaced⟩, same⟩

theorem length_filter_sameKey (key : Text) {pairs : List Pair}
    (distinct : pairs.Pairwise fun earlier later => sameKey earlier.1 later.1 = false) :
    (pairs.filter fun pair => !sameKey pair.1 key).length +
      (if pairs.any fun pair => sameKey pair.1 key then 1 else 0) = pairs.length := by
  induction pairs with
  | nil => rfl
  | cons pair rest ih =>
      obtain ⟨headDistinct, restDistinct⟩ := List.pairwise_cons.mp distinct
      by_cases same : sameKey pair.1 key = true
      · have others : ∀ other ∈ rest, (!sameKey other.1 key) = true := by
          intro other member
          rw [sameKey_others headDistinct same other member, Bool.not_false]
        simp [same, List.filter_eq_self.mpr others]
      · have tail := ih restDistinct
        simp only [same, List.filter_cons, List.any_cons, Bool.not_false, Bool.false_or,
          if_true, List.length_cons]
        omega

theorem size_insert (map : FilterMap) (key value : Text) :
    (map.insert key value).size = if map.contains key then map.size else map.size + 1 := by
  have removed := length_filter_sameKey key map.distinct
  have found : map.contains key = map.pairs.any fun pair => sameKey pair.1 key := by
    simp [contains, get?, List.isSome_find?]
  simp only [size, insert, List.length_append, List.length_singleton, found]
  cases present : map.pairs.any fun pair => sameKey pair.1 key with
  | true =>
      simp only [present, if_true] at removed ⊢
      exact removed
  | false =>
      simp only [present, Bool.false_eq_true, if_false] at removed ⊢
      omega

end FilterMap

end TopicSieve
