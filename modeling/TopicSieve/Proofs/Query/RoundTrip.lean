import TopicSieve.Proofs.Query.Explanation
import TopicSieve.Proofs.Query.Written

/-!
Maps written as queries. Main statement: the maps that a query can require are exactly those with
plain pairs, and such a map comes back, pairs and order, from the query that it is written as.
-/

namespace TopicSieve

theorem comma_not_mem_segment {query segment : Text} (member : segment ∈ segments query) :
    ',' ∉ segment := by
  obtain ⟨piece, inPieces, rfl⟩ := List.mem_map.mp (List.mem_filter.mp member).1
  exact fun inside => Text.not_mem_of_mem_splitOn inPieces (Text.mem_of_mem_trim inside)

theorem mem_of_mem_stripQuotes {value : Text} {char : Char} (member : char ∈ stripQuotes value) :
    char ∈ value := by
  rw [stripQuotes] at member
  split at member
  · exact List.mem_of_mem_tail ((List.dropLast_sublist _).subset member)
  · exact member

theorem splitTerm?_eq_some_iff (segment : Text) (pair : Pair) :
    splitTerm? segment = some pair ↔
      ∃ front back, segment = front ++ '=' :: back ∧ '=' ∉ front ∧
        pair = (Text.trim front, stripQuotes (Text.trim back)) := by
  rw [splitTerm?, Option.map_eq_some_iff]
  constructor
  · rintro ⟨⟨front, back⟩, found, rfl⟩
    obtain ⟨split, absent⟩ := (Text.splitFirst_eq_some_iff _ _ _ _).mp found
    exact ⟨front, back, split, absent, rfl⟩
  · rintro ⟨front, back, split, absent, rfl⟩
    exact ⟨(front, back), (Text.splitFirst_eq_some_iff _ _ _ _).mpr ⟨split, absent⟩, rfl⟩

namespace FilterMap

theorem plainPair_of_mem_parse {query : Text} {pair : Pair}
    (member : pair ∈ (parse query).pairs) : PlainPair pair := by
  obtain ⟨segment, inSegments, paired⟩ := mem_parse member
  have noComma := comma_not_mem_segment inSegments
  obtain ⟨front, back, split, noEquals, rfl⟩ :=
    (splitTerm?_eq_some_iff segment pair).mp (Option.filter_eq_some_iff.mp paired).1
  rw [split, List.mem_append, List.mem_cons, not_or, not_or] at noComma
  obtain ⟨frontComma, _, backComma⟩ := noComma
  constructor
  · exact key_ne_nil_of_mem_parse member
  · exact Text.trimmed_trim front
  · exact fun inside => frontComma (Text.mem_of_mem_trim inside)
  · exact fun inside => noEquals (Text.mem_of_mem_trim inside)
  · exact fun inside => backComma (Text.mem_of_mem_trim (mem_of_mem_stripQuotes inside))

def toQuery (map : FilterMap) : Text :=
  Text.join "," (map.pairs.map fun pair => pair.1 ++ "='" ++ pair.2 ++ "'")

def writtenPair (pair : Pair) : WrittenTerm :=
  ⟨pair.1, pair.2, '\'', isQuote_single, .empty, .empty, .empty, .empty⟩

theorem toQuery_eq (map : FilterMap) :
    map.toQuery = WrittenTerm.query (map.pairs.map writtenPair) := by
  rw [toQuery, WrittenTerm.query, List.map_map]
  congr 1
  apply List.map_congr_left
  intro pair _
  simp [WrittenTerm.text, WrittenTerm.core, WrittenTerm.literal, writtenPair, Gap.empty]

theorem parse_toQuery {map : FilterMap} (plain : ∀ pair ∈ map.pairs, PlainPair pair) :
    parse map.toQuery = map := by
  have termsPlain : ∀ term ∈ map.pairs.map writtenPair, PlainPair term.pair :=
    List.forall_mem_map.mpr plain
  have pairsEq : (map.pairs.map writtenPair).map WrittenTerm.pair = map.pairs := by
    rw [List.map_map]
    exact List.map_id map.pairs
  rw [toQuery_eq, WrittenTerm.parse_query termsPlain, pairsEq, ofList_pairs]

/-- The pairs of a query are plain and their keys differ by more than case. Any map like this comes
back from the query that it is written as, and so does the map of every query. -/
theorem query_roundTrip (query : Text) :
    (∀ pair ∈ (parse query).pairs, PlainPair pair) ∧
    ((parse query).pairs.Pairwise fun earlier later => Text.fold earlier.1 ≠ Text.fold later.1) ∧
    (∀ map : FilterMap, (∀ pair ∈ map.pairs, PlainPair pair) → parse map.toQuery = map) ∧
    parse (parse query).toQuery = parse query := by
  refine ⟨fun _ => plainPair_of_mem_parse, (parse query).pairs_distinct, ?_, ?_⟩
  · exact fun _ => parse_toQuery
  · exact parse_toQuery fun _ => plainPair_of_mem_parse

theorem query_roundTrip_quotes :
    let map := ofList [("it's", "'='\" "), ("\"k\"", [])]
    (∀ pair ∈ map.pairs, PlainPair pair) ∧ parse map.toQuery = map :=
  ⟨by decide, (query_roundTrip []).2.2.1 _ (by decide)⟩

end FilterMap

end TopicSieve
