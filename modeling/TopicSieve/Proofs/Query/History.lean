import TopicSieve.Proofs.Query.LastWrite

/-!
Maps as what a history of inserts leaves. An insert takes out the first pair of its key only, and a
look-up stops at the first pair of the key; both are right because no two pairs are of one key at
any time. Main statement: after any history a map holds the pairs that no later pair of the same key
follows, in order, and gives the last value that was inserted for a key.
-/

namespace TopicSieve

def inserted (history : List Pair) : List Pair :=
  history.foldl (fun pairs pair => (replaceFirst pairs pair.1 pair.2).2) []

/-- No later pair of a history has the key of this one, case aside. -/
def Stands (history : List Pair) (index : Fin history.length) : Prop :=
  ∀ later, index < later → Text.fold (history.get later).1 ≠ Text.fold (history.get index).1

instance (history : List Pair) (index : Fin history.length) : Decidable (Stands history index) :=
  inferInstanceAs (Decidable (∀ _, _))

def standing (history : List Pair) : List Pair :=
  ((List.finRange history.length).filter fun index => Stands history index).map history.get

theorem stands_first_iff (pair : Pair) (rest : List Pair) :
    Stands (pair :: rest) ⟨0, Nat.succ_pos rest.length⟩ ↔ hasKey rest pair.1 = false := by
  rw [hasKey_eq_false_iff]
  constructor
  · intro stands later member
    obtain ⟨index, rfl⟩ := List.mem_iff_get.mp member
    exact stands index.succ index.succ_pos
  · intro different later behind
    cases later using Fin.cases with
    | zero => exact absurd behind (Fin.lt_irrefl 0)
    | succ index => exact different (rest.get index) (List.get_mem rest index)

theorem stands_succ_iff (pair : Pair) (rest : List Pair) (index : Fin rest.length) :
    Stands (pair :: rest) index.succ ↔ Stands rest index := by
  constructor
  · intro stands later behind
    exact stands later.succ (Fin.succ_lt_succ_iff.mpr behind)
  · intro stands later behind
    cases later using Fin.cases with
    | zero => exact absurd behind (Fin.not_lt_zero index.succ)
    | succ later => exact stands later (Fin.succ_lt_succ_iff.mp behind)

theorem lastWrites_eq_standing (history : List Pair) : lastWrites history = standing history := by
  induction history with
  | nil => rfl
  | cons pair rest ih =>
      have later : (((List.finRange rest.length).map Fin.succ).filter fun index =>
          Stands (pair :: rest) index).map (pair :: rest).get = standing rest := by
        rw [List.filter_map, List.map_map]
        simp only [Function.comp_def, stands_succ_iff]
        rfl
      have indices : List.finRange (pair :: rest).length =
          0 :: (List.finRange rest.length).map Fin.succ := List.finRange_succ
      have first : Stands (pair :: rest) 0 ↔ hasKey rest pair.1 = false :=
        stands_first_iff pair rest
      rw [standing, indices, List.filter_cons, lastWrites, ih]
      simp only [decide_eq_true_eq, first]
      cases hasKey rest pair.1 with
      | true => exact later.symm
      | false => exact congrArg (pair :: ·) later.symm

namespace FilterMap

theorem exchange_eq (map : FilterMap) (key value : Text) :
    map.exchange key value = (map.get? key, map.insert key value) := by
  apply Prod.ext
  · change (replaceFirst map.pairs key value).1 = map.get? key
    rw [replaceFirst_pairs]
  · apply ext_pairs
    change (replaceFirst map.pairs key value).2 = (map.insert key value).pairs
    rw [replaceFirst_pairs]

theorem foldl_replaceFirst (map : FilterMap) (history : List Pair) :
    history.foldl (fun pairs pair => (replaceFirst pairs pair.1 pair.2).2) map.pairs =
      (map.insertAll history).pairs := by
  induction history generalizing map with
  | nil => rfl
  | cons pair rest ih =>
      -- Keys differ in the map, so what goes out first is all that an insert takes out.
      rw [List.foldl_cons, replaceFirst_pairs]
      exact ih (map.insert pair.1 pair.2)

theorem inserted_eq (history : List Pair) : inserted history = (ofList history).pairs :=
  empty.foldl_replaceFirst history

theorem get?_insert_same (map : FilterMap) {key other : Text} (value : Text)
    (same : Text.fold key = Text.fold other) :
    (map.insert key value).get? other = some value := by
  have noneKept : ((map.pairs.filter fun pair => !sameKey pair.1 key).find? fun pair =>
      sameKey pair.1 other) = none := by
    rw [List.find?_eq_none]
    intro pair member
    have different := (List.mem_filter.mp member).2
    rw [Bool.not_eq_true', sameKey_eq_false_iff, same] at different
    rwa [sameKey_iff]
  rw [get?, insert, List.find?_append, noneKept, Option.none_or, List.find?_singleton,
    if_pos ((sameKey_iff key other).mpr same)]
  rfl

theorem get?_insert_other (map : FilterMap) {key other : Text} (value : Text)
    (different : Text.fold key ≠ Text.fold other) :
    (map.insert key value).get? other = map.get? other := by
  have kept : (fun pair : Pair =>
      decide ((!sameKey pair.1 key) = true ∧ sameKey pair.1 other = true)) =
        fun pair => sameKey pair.1 other := by
    funext pair
    rw [Bool.eq_iff_iff]
    simp only [decide_eq_true_eq, Bool.not_eq_true', sameKey_eq_false_iff, sameKey_iff,
      and_iff_right_iff_imp]
    exact fun isOther isKey => different (isKey.symm.trans isOther)
  have notLast : ¬ sameKey key other = true := by rwa [sameKey_iff]
  rw [get?, insert, List.find?_append, List.find?_filter, kept, List.find?_singleton,
    if_neg notLast, Option.or_none]
  rfl

theorem get?_insertAll (map : FilterMap) (history : List Pair) (key : Text) :
    (map.insertAll history).get? key =
      (((history.filter fun pair => Text.fold pair.1 = Text.fold key).getLast?).map Prod.snd).or
        (map.get? key) := by
  induction history generalizing map with
  | nil => rfl
  | cons pair rest ih =>
      have step : map.insertAll (pair :: rest) = (map.insert pair.1 pair.2).insertAll rest := rfl
      rw [step, ih, List.filter_cons]
      by_cases same : Text.fold pair.1 = Text.fold key
      · rw [get?_insert_same map pair.2 same, if_pos (decide_eq_true same), List.getLast?_cons]
        cases (rest.filter fun pair => Text.fold pair.1 = Text.fold key).getLast? <;> rfl
      · rw [get?_insert_other map pair.2 same, if_neg (by simpa using same)]

theorem ofList_concat (history : List Pair) (key value : Text) :
    ofList (history ++ [(key, value)]) = (ofList history).insert key value :=
  insertAll_append empty history [(key, value)]

theorem size_insert_get? (map : FilterMap) (key value : Text) :
    (map.insert key value).size = map.size + if map.get? key = none then 1 else 0 := by
  rw [size_insert, contains]
  cases map.get? key <;> rfl

/-- The last write wins, over any history of inserts. -/
theorem ofList_lastWrites (history : List Pair) :
    inserted history = (ofList history).pairs ∧
    inserted history = standing history ∧
    ((inserted history).Pairwise fun earlier later => Text.fold earlier.1 ≠ Text.fold later.1) ∧
    (∀ key value,
      (ofList history).exchange key value =
        ((ofList history).get? key, ofList (history ++ [(key, value)])) ∧
      (ofList (history ++ [(key, value)])).size =
        (ofList history).size + if (ofList history).get? key = none then 1 else 0) ∧
    ∀ key, (ofList history).get? key =
      ((history.filter fun pair => Text.fold pair.1 = Text.fold key).getLast?).map Prod.snd := by
  refine ⟨inserted_eq history, ?_, ?_, ?_, ?_⟩
  · rw [inserted_eq, pairs_ofList, lastWrites_eq_standing]
  · rw [inserted_eq]
    exact (ofList history).pairs_distinct
  · intro key value
    rw [ofList_concat]
    exact ⟨exchange_eq _ key value, size_insert_get? _ key value⟩
  · intro key
    exact (get?_insertAll empty history key).trans Option.or_none

end FilterMap

end TopicSieve
