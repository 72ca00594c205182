import TopicSieve.Proofs.Query.Keys

/-!
What is left of pairs that are inserted one after another. A pair stays in its place until a later
one of the same key takes it out. Main statement: a map holds the pairs that no later pair of the
same key follows, in the order in which they were inserted.
-/

namespace TopicSieve

theorem sameKey_comm (left right : Text) : sameKey left right = sameKey right left := by
  rw [Bool.eq_iff_iff, sameKey_iff, sameKey_iff]
  exact eq_comm

def hasKey (pairs : List Pair) (key : Text) : Bool := pairs.any fun pair => sameKey pair.1 key

theorem hasKey_iff (pairs : List Pair) (key : Text) :
    hasKey pairs key = true ↔ ∃ pair ∈ pairs, Text.fold pair.1 = Text.fold key := by
  simp [hasKey, sameKey_iff]

theorem hasKey_eq_false_iff (pairs : List Pair) (key : Text) :
    hasKey pairs key = false ↔ ∀ pair ∈ pairs, Text.fold pair.1 ≠ Text.fold key := by
  simp [hasKey, sameKey_eq_false_iff]

theorem hasKey_cons (pair : Pair) (rest : List Pair) (key : Text) :
    hasKey (pair :: rest) key = (sameKey pair.1 key || hasKey rest key) := rfl

def lastWrites : List Pair → List Pair
  | [] => []
  | pair :: rest => if hasKey rest pair.1 then lastWrites rest else pair :: lastWrites rest

theorem lastWrites_sublist (pairs : List Pair) : (lastWrites pairs).Sublist pairs := by
  induction pairs with
  | nil => exact List.Sublist.slnil
  | cons pair rest ih =>
      rw [lastWrites]
      split
      · exact ih.cons pair
      · exact ih.cons_cons pair

theorem hasKey_lastWrites (pairs : List Pair) (key : Text) :
    hasKey (lastWrites pairs) key = hasKey pairs key := by
  induction pairs with
  | nil => rfl
  | cons pair rest ih =>
      rw [lastWrites, hasKey_cons]
      split
      · next overwritten =>
          rw [ih]
          cases same : sameKey pair.1 key with
          | false => rfl
          | true =>
              -- The later pair that takes this one out has the key as well.
              obtain ⟨later, member, laterSame⟩ := (hasKey_iff rest pair.1).mp overwritten
              rw [sameKey_iff] at same
              exact (hasKey_iff rest key).mpr ⟨later, member, laterSame.trans same⟩
      · rw [hasKey_cons, ih]

theorem lastWrites_of_distinct {pairs : List Pair}
    (distinct : pairs.Pairwise fun earlier later => Text.fold earlier.1 ≠ Text.fold later.1) :
    lastWrites pairs = pairs := by
  induction pairs with
  | nil => rfl
  | cons pair rest ih =>
      obtain ⟨headDistinct, restDistinct⟩ := List.pairwise_cons.mp distinct
      have notLater : hasKey rest pair.1 = false := by
        rw [hasKey_eq_false_iff]
        exact fun later member => (headDistinct later member).symm
      rw [lastWrites, notLater, ih restDistinct]
      rfl

theorem eq_of_distinct {pairs : List Pair}
    (distinct : pairs.Pairwise fun earlier later => Text.fold earlier.1 ≠ Text.fold later.1)
    {pair other : Pair} (member : pair ∈ pairs) (otherMember : other ∈ pairs)
    (same : Text.fold pair.1 = Text.fold other.1) : pair = other := by
  induction distinct with
  | nil => contradiction
  | cons different _ ih =>
      rcases List.mem_cons.mp member with rfl | later
      · rcases List.mem_cons.mp otherMember with rfl | otherLater
        · rfl
        · exact absurd same (different other otherLater)
      · rcases List.mem_cons.mp otherMember with rfl | otherLater
        · exact absurd same.symm (different pair later)
        · exact ih later otherLater

namespace FilterMap

theorem ext_pairs {left right : FilterMap} (same : left.pairs = right.pairs) : left = right := by
  cases left
  cases right
  cases same
  rfl

theorem pairs_distinct (map : FilterMap) :
    map.pairs.Pairwise fun earlier later => Text.fold earlier.1 ≠ Text.fold later.1 :=
  map.distinct.imp fun different => (sameKey_eq_false_iff _ _).mp different

/-- Inserting pairs leaves the old pairs whose keys are not given again, and behind them the last
of the new ones for each key. -/
theorem pairs_insertAll (map : FilterMap) (pairs : List Pair) :
    (map.insertAll pairs).pairs =
      (map.pairs.filter fun pair => !hasKey pairs pair.1) ++ lastWrites pairs := by
  induction pairs generalizing map with
  | nil =>
      have kept : (map.pairs.filter fun old => !hasKey [] old.1) = map.pairs :=
        List.filter_eq_self.mpr fun _ _ => rfl
      rw [kept, lastWrites, List.append_nil]
      rfl
  | cons pair rest ih =>
      have kept : ((map.insert pair.1 pair.2).pairs.filter fun old => !hasKey rest old.1) =
          (map.pairs.filter fun old => !hasKey (pair :: rest) old.1) ++
            [pair].filter fun old => !hasKey rest old.1 := by
        simp only [insert, List.filter_append, List.filter_filter, hasKey_cons, Bool.not_or,
          sameKey_comm pair.1, Bool.and_comm]
      have step : map.insertAll (pair :: rest) = (map.insert pair.1 pair.2).insertAll rest := rfl
      rw [step, ih, kept, lastWrites, List.append_assoc]
      cases overwritten : hasKey rest pair.1 <;> simp [overwritten]

theorem pairs_ofList (pairs : List Pair) : (ofList pairs).pairs = lastWrites pairs :=
  pairs_insertAll empty pairs

theorem insertAll_append (map : FilterMap) (front back : List Pair) :
    map.insertAll (front ++ back) = (map.insertAll front).insertAll back :=
  List.foldl_append

theorem ofList_pairs (map : FilterMap) : ofList map.pairs = map :=
  ext_pairs ((pairs_ofList map.pairs).trans (lastWrites_of_distinct map.pairs_distinct))

theorem mem_parse {query : Text} {pair : Pair} (member : pair ∈ (parse query).pairs) :
    ∃ segment ∈ segments query, segmentPair? segment = some pair := by
  rw [parse, pairs_ofList] at member
  exact List.mem_filterMap.mp ((lastWrites_sublist _).subset member)

end FilterMap

end TopicSieve
