import TopicSieve.Proofs.Query.LastWrite
import TopicSieve.Query.Filter

/-!
Whether a body is accepted, and what the explanation says of it. The explanation looks at every pair
with a key; the answer alone is settled earlier for a map without pairs and for a body without
characters. Main statement: a body is accepted where every entry of the explanation names a pattern,
unless the body is empty and the map is not; this exception never arises for the map of a query.
-/

namespace TopicSieve

namespace Pattern

def Occurs (pattern : Pattern) (pair : Pair) (body : Text) : Prop :=
  pattern.render (Text.fold pair.1) (Text.fold pair.2) <:+: Text.fold body

theorem mem_all (pattern : Pattern) : pattern ∈ all := by cases pattern <;> decide

theorem render_ne_nil (key value : Text) (pattern : Pattern) : pattern.render key value ≠ [] := by
  cases pattern <;> simp [render]

theorem not_occurs_nil (pattern : Pattern) (pair : Pair) : ¬ pattern.Occurs pair [] := by
  rw [Occurs, Text.fold_nil, List.infix_nil]
  exact render_ne_nil _ _ pattern

end Pattern

/-- What is reported for a pair: the first of the patterns that occur in the body, or none if no
pattern occurs. -/
inductive Reports (body : Text) (pair : Pair) : Option Pattern → Prop
  | found {earlier pattern later} : Pattern.all = earlier ++ pattern :: later →
      (∀ other ∈ earlier, ¬ other.Occurs pair body) → pattern.Occurs pair body →
      Reports body pair (some pattern)
  | missing : (∀ pattern : Pattern, ¬ pattern.Occurs pair body) → Reports body pair none

theorem reports_find? (body : Text) (pair : Pair) :
    Reports body pair (Pattern.find? (Text.fold body) pair) := by
  cases result : Pattern.find? (Text.fold body) pair with
  | none =>
      refine .missing ?_
      intro pattern
      have absent := List.find?_eq_none.mp result pattern pattern.mem_all
      rwa [Text.occursIn_iff] at absent
  | some pattern =>
      obtain ⟨occurs, earlier, later, split, absent⟩ := List.find?_eq_some_iff_append.mp result
      refine .found split ?_ ((Text.occursIn_iff _ _).mp occurs)
      intro other member
      have notThere := absent other member
      rwa [Bool.not_eq_true', ← Bool.not_eq_true, Text.occursIn_iff] at notThere

theorem Reports.eq_none {pair : Pair} {report : Option Pattern} (reports : Reports [] pair report) :
    report = none := by
  cases reports with
  | @found _ pattern _ _ _ occurs => exact absurd occurs (pattern.not_occurs_nil pair)
  | missing _ => rfl

def Fulfils (body : Text) (pair : Pair) : Prop :=
  body ≠ [] ∧ (pair.1 ≠ [] → (Pattern.find? (Text.fold body) pair).isSome = true)

namespace FilterMap

theorem mem_searched (map : FilterMap) (pair : Pair) :
    pair ∈ map.searched ↔ pair ∈ map.pairs ∧ pair.1 ≠ [] := by
  simp [searched]

theorem accepts_iff (map : FilterMap) (body : Text) :
    map.accepts body = true ↔ ∀ pair ∈ map.pairs, Fulfils body pair := by
  unfold accepts
  split
  · next empty =>
      have noPairs : map.pairs = [] := List.isEmpty_iff.mp empty
      simp [noPairs]
  · next hasPairs =>
      have nonemptyMap : map.pairs ≠ [] := by simpa [isEmpty] using hasPairs
      obtain ⟨first, member⟩ := List.exists_mem_of_ne_nil map.pairs nonemptyMap
      split
      · next empty =>
          have noBody : body = [] := List.isEmpty_iff.mp empty
          simp only [Bool.false_eq_true, false_iff]
          exact fun fulfils => (fulfils first member).1 noBody
      · next hasBody =>
          have nonempty : body ≠ [] := by simpa using hasBody
          simp only [List.all_eq_true, mem_searched, Fulfils, ne_eq, nonempty, not_false_eq_true,
            true_and, and_imp]

theorem forall_explain_iff (map : FilterMap) (body : Text) :
    (∀ entry ∈ map.explain body, entry.2.isSome = true) ↔
      ∀ pair ∈ map.pairs, pair.1 ≠ [] → (Pattern.find? (Text.fold body) pair).isSome = true := by
  simp only [explain, List.forall_mem_map, mem_searched, and_imp]

theorem accepts_iff_forall_explain (map : FilterMap) (body : Text) :
    map.accepts body = true ↔
      (∀ entry ∈ map.explain body, entry.2.isSome = true) ∧ ¬ (body = [] ∧ map.pairs ≠ []) := by
  rw [accepts_iff, forall_explain_iff]
  constructor
  · intro fulfils
    refine ⟨fun pair member => (fulfils pair member).2, ?_⟩
    rintro ⟨noBody, hasPairs⟩
    obtain ⟨first, member⟩ := List.exists_mem_of_ne_nil map.pairs hasPairs
    exact (fulfils first member).1 noBody
  · rintro ⟨shown, notBoth⟩ pair member
    refine ⟨?_, shown pair member⟩
    intro noBody
    exact notBoth ⟨noBody, List.ne_nil_of_mem member⟩

theorem accepts_iff_forall_explain_of_keyed {map : FilterMap}
    (keyed : ∀ pair ∈ map.pairs, pair.1 ≠ []) (body : Text) :
    map.accepts body = true ↔ ∀ entry ∈ map.explain body, entry.2.isSome = true := by
  rw [accepts_iff_forall_explain, and_iff_left_iff_imp]
  rintro shown ⟨noBody, hasPairs⟩
  obtain ⟨first, member⟩ := List.exists_mem_of_ne_nil map.pairs hasPairs
  have found := (map.forall_explain_iff body).mp shown first member (keyed first member)
  rw [noBody, (reports_find? [] first).eq_none] at found
  contradiction

/-- The entries of an explanation: the keys of the map in order, each once, except an empty one, and
for each key what is reported for its pair. -/
structure IsExplanation (map : FilterMap) (body : Text) (entries : List (Text × Option Pattern)) :
    Prop where
  keys_eq : entries.map Prod.fst = (map.pairs.map Prod.fst).filter fun key => key ≠ []
  once : entries.Pairwise fun earlier later => Text.fold earlier.1 ≠ Text.fold later.1
  reports : ∀ entry ∈ entries, ∃ value, (entry.1, value) ∈ map.pairs ∧
    Reports body (entry.1, value) entry.2

theorem isExplanation_explain (map : FilterMap) (body : Text) :
    map.IsExplanation body (map.explain body) where
  keys_eq := by
    simp only [explain, searched, List.map_map, List.filter_map]
    congr 1
    apply List.filter_congr
    intro pair _
    rw [Bool.eq_iff_iff]
    simp
  once := by
    rw [explain, List.pairwise_map]
    exact map.pairs_distinct.filter _
  reports := by
    intro entry member
    obtain ⟨pair, searchedPair, rfl⟩ := List.mem_map.mp member
    exact ⟨pair.2, (List.mem_filter.mp searchedPair).1, reports_find? body pair⟩

theorem key_ne_nil_of_mem_parse {query : Text} {pair : Pair}
    (member : pair ∈ (parse query).pairs) : pair.1 ≠ [] := by
  obtain ⟨segment, _, paired⟩ := mem_parse member
  have keyed := (Option.filter_eq_some_iff.mp paired).2
  simpa using keyed

/-- A body is accepted exactly if the explanation finds every key, except that an empty body is
accepted by no map with pairs; for the map of a query there is no exception. -/
theorem accepts_iff_explained (map : FilterMap) (query body : Text) :
    (map.accepts body = true ↔
      (∀ entry ∈ map.explain body, entry.2.isSome = true) ∧ ¬ (body = [] ∧ map.pairs ≠ [])) ∧
    ((parse query).accepts body = true ↔
      ∀ entry ∈ (parse query).explain body, entry.2.isSome = true) ∧
    map.IsExplanation body (map.explain body) := by
  refine ⟨map.accepts_iff_forall_explain body, ?_, map.isExplanation_explain body⟩
  exact accepts_iff_forall_explain_of_keyed (fun _ => key_ne_nil_of_mem_parse) body

example : let map := ofList [([], [])]; map.accepts [] = false ∧ map.explain [] = [] := by decide

end FilterMap

end TopicSieve
