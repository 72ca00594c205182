import TopicSieve.Proofs.Query.Override
import TopicSieve.Proofs.Query.Written

/-!
Maps of queries that are put together with commas. A map has lost the pairs that were overwritten,
and the order of the others can have changed; put into another map it still does what all the pairs
do that it was made from. Main statement: the map of two queries with a comma between them is the
first map with the pairs of the second put in, and segments of white space add nothing to it.
-/

namespace TopicSieve

theorem segments_of_not_mem {piece : Text} (absent : ',' ∉ piece) :
    segments piece = [Text.trim piece].filter fun segment => !segment.isEmpty := by
  rw [segments, Text.splitOn_of_not_mem absent, List.map_singleton]

theorem Gap.segments_eq_nil (gap : Gap) : segments gap.text = [] := by
  have nothing : Text.trim gap.text = [] := (Text.trim_eq_nil_iff gap.text).mpr gap.blank
  rw [segments_of_not_mem (gap.not_mem (by decide)), nothing]
  rfl

/-- `WithBlanks query longer`: segments of white space, or of nothing at all, are put into a query, in
front of it, behind it and behind its commas. -/
inductive WithBlanks (query : Text) : Text → Prop
  | unchanged : WithBlanks query query
  | front {text} (gap : Gap) : WithBlanks query text → WithBlanks query (gap.text ++ ',' :: text)
  | back {text} (gap : Gap) : WithBlanks query text → WithBlanks query (text ++ ',' :: gap.text)
  | between {before after} (gap : Gap) : WithBlanks query (before ++ ',' :: after) →
      WithBlanks query (before ++ ',' :: (gap.text ++ ',' :: after))

theorem WithBlanks.segments_eq {query longer : Text} (withBlanks : WithBlanks query longer) :
    segments longer = segments query := by
  induction withBlanks with
  | unchanged => rfl
  | front gap _ ih => rw [segments_comma, gap.segments_eq_nil, ih, List.nil_append]
  | back gap _ ih => rw [segments_comma, gap.segments_eq_nil, ih, List.append_nil]
  | between gap _ ih =>
      rw [segments_comma, segments_comma, gap.segments_eq_nil, List.nil_append, ← segments_comma, ih]

namespace FilterMap

theorem insertAll_ofList (map : FilterMap) (pairs : List Pair) :
    map.insertAll (ofList pairs).pairs = map.insertAll pairs := by
  apply ext_pairs
  have noneOverwritten : lastWrites (ofList pairs).pairs = lastWrites pairs := by
    rw [lastWrites_of_distinct (ofList pairs).pairs_distinct, pairs_ofList]
  rw [pairs_insertAll, pairs_insertAll, noneOverwritten, pairs_ofList]
  simp only [hasKey_lastWrites]

theorem hasKey_of_mem {pairs : List Pair} {pair : Pair} (member : pair ∈ pairs) :
    hasKey pairs pair.1 = true :=
  (hasKey_iff pairs pair.1).mpr ⟨pair, member, rfl⟩

theorem insertAll_self (map : FilterMap) : map.insertAll map.pairs = map := by
  apply ext_pairs
  have allGiven : (map.pairs.filter fun pair => !hasKey map.pairs pair.1) = [] := by
    rw [List.filter_eq_nil_iff]
    intro pair member
    simp [hasKey_of_mem member]
  rw [pairs_insertAll, allGiven, List.nil_append, lastWrites_of_distinct map.pairs_distinct]

theorem parse_append_comma (first second : Text) :
    parse (first ++ ',' :: second) = (parse first).insertAll (parse second).pairs := by
  have inOnePass : parse (first ++ ',' :: second) =
      (parse first).insertAll ((segments second).filterMap segmentPair?) := by
    rw [parse, segments_comma, List.filterMap_append]
    exact insertAll_append empty _ _
  rw [inOnePass, parse, parse, insertAll_ofList]

/-- A comma puts the map of the second query into that of the first, pair by pair. So a query that
is given twice is the query, and blank segments change nothing. -/
theorem parse_merges (first second : Text) :
    parse (first ++ ',' :: second) = (parse first).insertAll (parse second).pairs ∧
    parse (first ++ ',' :: first) = parse first ∧
    ∀ longer, WithBlanks first longer → parse longer = parse first := by
  refine ⟨parse_append_comma first second, ?_, ?_⟩
  · rw [parse_append_comma, insertAll_self]
  · intro longer withBlanks
    rw [parse, withBlanks.segments_eq, parse]

theorem parse_merges_overlapping :
    let first : Text := "a=1,B=2"
    let second : Text := "b=3,c=4,A=5,C=6"
    let tab : Gap := Gap.ofText "\t" (by decide)
    let longer : Text := tab.text ++ ',' :: ("a=1" ++ ',' :: (Gap.empty.text ++ ',' :: "B=2"))
    parse (first ++ ',' :: second) = (parse first).insertAll (parse second).pairs ∧
    (parse (first ++ ',' :: second)).pairs = ([("b", "3"), ("A", "5"), ("C", "6")] : List Pair) ∧
    WithBlanks first longer ∧ parse longer = parse first := by
  intro first second tab longer
  have withBlanks : WithBlanks first longer := by
    have between : WithBlanks first ("a=1" ++ ',' :: (Gap.empty.text ++ ',' :: "B=2")) :=
      .between Gap.empty .unchanged
    exact .front tab between
  obtain ⟨merged, _, unchanged⟩ := parse_merges first second
  exact ⟨merged, by decide, withBlanks, unchanged longer withBlanks⟩

end FilterMap

end TopicSieve
