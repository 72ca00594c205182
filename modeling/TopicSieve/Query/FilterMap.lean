import TopicSieve.Query.Term
import TopicSieve.Text.Case

/-!
The pairs a filter requires, in order. Keys that fold to the same text are one key: a later pair
removes the earlier one and goes to the end. Main statements: keys are pairwise different after
folding, which the type carries; so the first pair of a key that a search meets is the only one.
-/

namespace TopicSieve

/-- Whether two texts are one key. Most pairs of equal keys differ in ASCII case at most, which is
cheap to see; folding decides the others. -/
def sameKey (left right : Text) : Bool :=
  Text.sameAscii left right || Text.fold left == Text.fold right

theorem sameKey_iff (left right : Text) :
    sameKey left right = true ↔ Text.fold left = Text.fold right := by
  simp only [sameKey, Bool.or_eq_true, beq_iff_eq, Text.sameAscii, or_iff_right_iff_imp]
  intro sameLower
  rw [← Text.fold_asciiLower left, sameLower, Text.fold_asciiLower]

theorem sameKey_eq_false_iff (left right : Text) :
    sameKey left right = false ↔ Text.fold left ≠ Text.fold right := by
  rw [Bool.eq_false_iff, ne_eq, sameKey_iff]

def replaceFirst (pairs : List Pair) (key value : Text) : Option Text × List Pair :=
  match pairs.findIdx? fun pair => sameKey pair.1 key with
  | none => (none, pairs ++ [(key, value)])
  | some index => (pairs[index]?.map Prod.snd, pairs.eraseIdx index ++ [(key, value)])

theorem replaceFirst_eq (pairs : List Pair) (key value : Text) :
    replaceFirst pairs key value =
      ((pairs.find? fun pair => sameKey pair.1 key).map Prod.snd,
        (pairs.eraseP fun pair => sameKey pair.1 key) ++ [(key, value)]) := by
  rw [replaceFirst, List.find?_eq_bind_findIdx?_getElem?, List.eraseP_eq_eraseIdx]
  cases pairs.findIdx? fun pair => sameKey pair.1 key <;> rfl

theorem sameKey_others {pair : Pair} {rest : List Pair}
    (different : ∀ other ∈ rest, sameKey pair.1 other.1 = false) {key : Text}
    (same : sameKey pair.1 key = true) : ∀ other ∈ rest, sameKey other.1 key = false := by
  intro other member
  have apart := different other member
  rw [sameKey_eq_false_iff] at apart
  rw [sameKey_eq_false_iff, ← (sameKey_iff _ _).mp same]
  exact apart.symm

theorem eraseP_sameKey {pairs : List Pair}
    (distinct : pairs.Pairwise fun earlier later => sameKey earlier.1 later.1 = false)
    (key : Text) :
    (pairs.eraseP fun pair => sameKey pair.1 key) =
      pairs.filter fun pair => !sameKey pair.1 key := by
  induction pairs with
  | nil => rfl
  | cons pair rest ih =>
      obtain ⟨different, restDistinct⟩ := List.pairwise_cons.mp distinct
      cases same : sameKey pair.1 key with
      | true =>
          have kept : (rest.filter fun other => !sameKey other.1 key) = rest :=
            List.filter_eq_self.mpr fun other member => by
              rw [sameKey_others different same other member, Bool.not_false]
          simp [same, kept]
      | false => simp [same, ih restDistinct]

structure FilterMap where
  pairs : List Pair
  distinct : pairs.Pairwise fun earlier later => sameKey earlier.1 later.1 = false
deriving DecidableEq

namespace FilterMap

def empty : FilterMap := ⟨[], List.Pairwise.nil⟩

instance : Inhabited FilterMap := ⟨empty⟩

def insert (map : FilterMap) (key value : Text) : FilterMap where
  pairs := (map.pairs.filter fun pair => !sameKey pair.1 key) ++ [(key, value)]
  distinct := by
    refine List.pairwise_append.mpr ⟨map.distinct.filter _, List.pairwise_singleton _ _, ?_⟩
    intro earlier kept later last
    have different := (List.mem_filter.mp kept).2
    rw [List.mem_singleton.mp last]
    simpa using different

def get? (map : FilterMap) (key : Text) : Option Text :=
  (map.pairs.find? fun pair => sameKey pair.1 key).map Prod.snd

theorem replaceFirst_pairs (map : FilterMap) (key value : Text) :
    replaceFirst map.pairs key value = (map.get? key, (map.insert key value).pairs) := by
  rw [replaceFirst_eq, eraseP_sameKey map.distinct]
  rfl

def exchange (map : FilterMap) (key value : Text) : Option Text × FilterMap where
  fst := (replaceFirst map.pairs key value).1
  snd.pairs := (replaceFirst map.pairs key value).2
  snd.distinct := by
    rw [replaceFirst_pairs]
    exact (map.insert key value).distinct

def contains (map : FilterMap) (key : Text) : Bool := (map.get? key).isSome

def size (map : FilterMap) : Nat := map.pairs.length

def isEmpty (map : FilterMap) : Bool := map.pairs.isEmpty

def insertAll (map : FilterMap) (pairs : List Pair) : FilterMap :=
  pairs.foldl (fun map (key, value) => map.insert key value) map

def ofList (pairs : List Pair) : FilterMap := empty.insertAll pairs

def segmentPair? (segment : Text) : Option Pair :=
  (splitTerm? segment).filter fun pair => !pair.1.isEmpty

def parse (query : Text) : FilterMap := ofList ((segments query).filterMap segmentPair?)

end FilterMap

end TopicSieve
