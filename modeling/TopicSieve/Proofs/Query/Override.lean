import TopicSieve.Proofs.Query.Explanation
import TopicSieve.Proofs.Text.Cutting

/-!
Two queries with a comma between them. The second one takes away the pairs of the first whose keys
it gives again. Main statement: a body is accepted exactly if it is accepted by the second query and
by what is left of the first.
-/

namespace TopicSieve

theorem segments_comma (first second : Text) :
    segments (first ++ ',' :: second) = segments first ++ segments second := by
  rw [segments, Text.splitOn_append, List.map_append, List.filter_append]
  rfl

namespace FilterMap

def without (map other : FilterMap) : FilterMap where
  pairs := map.pairs.filter fun pair => !hasKey other.pairs pair.1
  distinct := map.distinct.filter _

theorem pairs_without (map other : FilterMap) :
    (map.without other).pairs = map.pairs.filter fun pair => !hasKey other.pairs pair.1 := rfl

def Apart (map other : FilterMap) : Prop :=
  ∀ pair ∈ map.pairs, ∀ taken ∈ other.pairs, Text.fold pair.1 ≠ Text.fold taken.1

instance (map other : FilterMap) : Decidable (map.Apart other) :=
  inferInstanceAs (Decidable (∀ pair ∈ map.pairs, ∀ taken ∈ other.pairs,
    Text.fold pair.1 ≠ Text.fold taken.1))

theorem Apart.symm {map other : FilterMap} (apart : map.Apart other) : other.Apart map :=
  fun taken takenMember pair member => (apart pair member taken takenMember).symm

theorem without_of_apart {map other : FilterMap} (apart : map.Apart other) :
    map.without other = map := by
  apply ext_pairs
  refine List.filter_eq_self.mpr ?_
  intro pair member
  rw [Bool.not_eq_true', hasKey_eq_false_iff]
  exact fun taken takenMember => (apart pair member taken takenMember).symm

theorem pairs_ofList_append (front back : List Pair) :
    (ofList (front ++ back)).pairs =
      ((ofList front).without (ofList back)).pairs ++ (ofList back).pairs := by
  rw [ofList, insertAll_append, pairs_insertAll, pairs_without, pairs_ofList back]
  simp only [hasKey_lastWrites]
  rfl

theorem pairs_parse_comma (first second : Text) :
    (parse (first ++ ',' :: second)).pairs =
      ((parse first).without (parse second)).pairs ++ (parse second).pairs := by
  rw [parse, segments_comma, List.filterMap_append, pairs_ofList_append]
  rfl

theorem accepts_of_pairs_append {map left right : FilterMap}
    (pairsEq : map.pairs = left.pairs ++ right.pairs) (body : Text) :
    map.accepts body = true ↔ left.accepts body = true ∧ right.accepts body = true := by
  simp only [accepts_iff, pairsEq, List.forall_mem_append]

theorem accepts_parse_comma (first second body : Text) :
    (parse (first ++ ',' :: second)).accepts body = true ↔
      (parse second).accepts body = true ∧
      ((parse first).without (parse second)).accepts body = true := by
  rw [accepts_of_pairs_append (pairs_parse_comma first second)]
  exact And.comm

theorem accepts_parse_comma_of_apart {first second : Text}
    (apart : (parse first).Apart (parse second)) (body : Text) :
    (parse (first ++ ',' :: second)).accepts body = true ↔
      (parse first).accepts body = true ∧ (parse second).accepts body = true := by
  rw [accepts_parse_comma, without_of_apart apart]
  exact And.comm

end FilterMap

namespace Filter

/-- A comma between queries demands both, where the second one overrides the keys that both give.
Without common keys the order of the queries does not matter. -/
theorem accepts_comma (first second body : Text) :
    ((parse (first ++ ',' :: second)).accepts body = true ↔
      (parse second).accepts body = true ∧
      ((FilterMap.parse first).without (FilterMap.parse second)).accepts body = true) ∧
    ((FilterMap.parse first).Apart (FilterMap.parse second) →
      ((parse (first ++ ',' :: second)).accepts body = true ↔
        (parse first).accepts body = true ∧ (parse second).accepts body = true) ∧
      ((parse (second ++ ',' :: first)).accepts body = true ↔
        (parse first).accepts body = true ∧ (parse second).accepts body = true)) := by
  refine ⟨FilterMap.accepts_parse_comma first second body, ?_⟩
  intro apart
  refine ⟨FilterMap.accepts_parse_comma_of_apart apart body, ?_⟩
  exact (FilterMap.accepts_parse_comma_of_apart apart.symm body).trans And.comm

theorem accepts_region_comma_status :
    (FilterMap.parse "Region = eu").Apart (FilterMap.parse "status='ok'") ∧
    (parse ("Region = eu" ++ ',' :: "status='ok'")).accepts "region=EU, status=OK" = true ∧
    (parse ("status='ok'" ++ ',' :: "Region = eu")).accepts "region=EU" = false := by
  have apart : (FilterMap.parse "Region = eu").Apart (FilterMap.parse "status='ok'") := by decide
  have both := (accepts_comma "Region = eu" "status='ok'" "region=EU, status=OK").2 apart
  have one := (accepts_comma "Region = eu" "status='ok'" "region=EU").2 apart
  refine ⟨apart, both.1.mpr ⟨by decide, by decide⟩, ?_⟩
  rw [Bool.eq_false_iff, ne_eq, one.2]
  decide

end Filter

end TopicSieve
