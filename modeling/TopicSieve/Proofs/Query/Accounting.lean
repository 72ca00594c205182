import TopicSieve.Proofs.Query.Keys
import TopicSieve.Proofs.Text.Cutting
import TopicSieve.Query.Warning

/-!
The warnings about a query account for what its segments do to the required pairs. The warnings know
the keys before a segment from a set of folded keys that only grows; the pairs are a map in which a
key can move. Main statement: both walks agree at every segment, so the size of the map is the number
of segments less the number of warnings about them.
-/

namespace TopicSieve

namespace FilterMap

def ofSegments (segments : List Text) : FilterMap := ofList (segments.filterMap segmentPair?)

theorem parse_eq_ofSegments (query : Text) : parse query = ofSegments (segments query) := rfl

theorem ofSegments_concat_none {segment : Text} (dropped : segmentPair? segment = none)
    (earlier : List Text) : ofSegments (earlier ++ [segment]) = ofSegments earlier := by
  simp [ofSegments, dropped]

theorem ofSegments_concat_some {segment key value : Text}
    (paired : segmentPair? segment = some (key, value)) (earlier : List Text) :
    ofSegments (earlier ++ [segment]) = (ofSegments earlier).insert key value := by
  simp [ofSegments, ofList, insertAll, paired]

end FilterMap

def HasBlankKey (segment : Text) : Prop :=
  ∃ front back, segment = front ++ '=' :: back ∧ '=' ∉ front ∧
    ∀ char ∈ front, Text.isBlank char = true

theorem splitTerm?_eq_none_iff (segment : Text) : splitTerm? segment = none ↔ '=' ∉ segment := by
  rw [splitTerm?, Option.map_eq_none_iff, Text.splitFirst_eq_none_iff]

theorem mem_of_splitTerm? {segment : Text} {term : Text × Text}
    (split : splitTerm? segment = some term) : '=' ∈ segment := by
  apply Classical.byContradiction
  intro absent
  rw [(splitTerm?_eq_none_iff segment).mpr absent] at split
  contradiction

theorem hasBlankKey_iff (segment : Text) :
    HasBlankKey segment ↔ ∃ value, splitTerm? segment = some ([], value) := by
  simp only [HasBlankKey, splitTerm?, Option.map_eq_some_iff, Prod.mk.injEq, ← Text.trim_eq_nil_iff]
  constructor
  · rintro ⟨front, back, split, absent, blank⟩
    exact ⟨_, (front, back), (Text.splitFirst_eq_some_iff _ _ _ _).mpr ⟨split, absent⟩, blank, rfl⟩
  · rintro ⟨_, ⟨front, back⟩, found, blank, _⟩
    obtain ⟨split, absent⟩ := (Text.splitFirst_eq_some_iff _ _ _ _).mp found
    exact ⟨front, back, split, absent, blank⟩

namespace FilterMap

theorem segmentPair?_of_none {segment : Text} (split : splitTerm? segment = none) :
    segmentPair? segment = none := by
  simp [segmentPair?, split]

theorem segmentPair?_of_blankKey {segment value : Text}
    (split : splitTerm? segment = some ([], value)) : segmentPair? segment = none := by
  simp [segmentPair?, split]

theorem segmentPair?_of_key {segment value : Text} {first : Char} {more : Text}
    (split : splitTerm? segment = some (first :: more, value)) :
    segmentPair? segment = some (first :: more, value) := by
  simp [segmentPair?, split]

end FilterMap

namespace QueryWarning

def isAboutSegment : QueryWarning → Bool
  | missingEquals _ | emptyKey _ | duplicateKey _ => true
  | unsupportedOperator .. => false

/-- The warning that a segment gets, if any, against what the segment does to the map of the
segments before it. -/
structure AccountsFor (segment : Text) (before after : FilterMap)
    (warning : Option QueryWarning) : Prop where
  dropped_noEquals : warning = some (.missingEquals segment) ↔ '=' ∉ segment
  dropped_blankKey : warning = some (.emptyKey segment) ↔ HasBlankKey segment
  dropped : '=' ∉ segment ∨ HasBlankKey segment → after = before
  replaced : ∀ key, warning = some (.duplicateKey key) ↔
    ∃ value old, FilterMap.segmentPair? segment = some (key, value) ∧
      before.get? key = some old ∧ after = before.insert key value ∧ after.size = before.size
  added : warning = none ↔
    ∃ key value, FilterMap.segmentPair? segment = some (key, value) ∧
      before.get? key = none ∧ after = before.insert key value ∧ after.size = before.size + 1
  about : ∀ found, warning = some found → found.isAboutSegment = true
  counted : after.size + warning.toList.length = before.size + 1

/-- `Account earlier segments warnings`: behind the earlier segments, each of the segments gets its
own warning or none. -/
inductive Account : List Text → List Text → List (Option QueryWarning) → Prop
  | nil {earlier} : Account earlier [] []
  | cons {earlier segment rest warning warnings} :
      AccountsFor segment (FilterMap.ofSegments earlier)
        (FilterMap.ofSegments (earlier ++ [segment])) warning →
      Account (earlier ++ [segment]) rest warnings →
      Account earlier (segment :: rest) (warning :: warnings)

def Agrees (seen : List Text) (map : FilterMap) : Prop :=
  ∀ key, Text.fold key ∈ seen ↔ map.contains key = true

theorem agrees_empty : Agrees [] (FilterMap.ofSegments []) := by
  intro key
  simp [FilterMap.ofSegments, FilterMap.ofList, FilterMap.insertAll, FilterMap.contains_iff,
    FilterMap.empty]

theorem Agrees.insert_new {seen : List Text} {map : FilterMap} (agrees : Agrees seen map)
    (key value : Text) : Agrees (Text.fold key :: seen) (map.insert key value) := by
  intro other
  rw [List.mem_cons, FilterMap.contains_insert, agrees other]
  exact or_congr eq_comm Iff.rfl

theorem Agrees.insert_seen {seen : List Text} {map : FilterMap} (agrees : Agrees seen map)
    {key : Text} (present : Text.fold key ∈ seen) (value : Text) :
    Agrees seen (map.insert key value) := by
  intro other
  rw [FilterMap.contains_insert, ← agrees other]
  constructor
  · exact Or.inr
  · rintro (same | found)
    · exact same ▸ present
    · exact found

/-! A segment without an equals sign, one with a blank key, one with a key that is there already, and
one with a new key. -/

variable {segment value : Text} {earlier : List Text}

theorem accountsFor_noEquals (split : splitTerm? segment = none) :
    AccountsFor segment (FilterMap.ofSegments earlier)
      (FilterMap.ofSegments (earlier ++ [segment])) (some (.missingEquals segment)) := by
  have noPair := FilterMap.segmentPair?_of_none split
  have same := FilterMap.ofSegments_concat_none noPair earlier
  have notBlankKey : ¬ HasBlankKey segment := by
    rw [hasBlankKey_iff, split]
    simp
  constructor
  · simpa using (splitTerm?_eq_none_iff segment).mp split
  · simpa using notBlankKey
  · exact fun _ => same
  · simp [noPair]
  · simp [noPair]
  · rintro _ ⟨⟩
    rfl
  · rw [same]
    rfl

theorem accountsFor_blankKey (split : splitTerm? segment = some ([], value)) :
    AccountsFor segment (FilterMap.ofSegments earlier)
      (FilterMap.ofSegments (earlier ++ [segment])) (some (.emptyKey segment)) := by
  have noPair := FilterMap.segmentPair?_of_blankKey split
  have same := FilterMap.ofSegments_concat_none noPair earlier
  have hasEquals := mem_of_splitTerm? split
  constructor
  · simpa using hasEquals
  · simpa using (hasBlankKey_iff segment).mpr ⟨value, split⟩
  · exact fun _ => same
  · simp [noPair]
  · simp [noPair]
  · rintro _ ⟨⟩
    rfl
  · rw [same]
    rfl

theorem not_dropped_of_key {first : Char} {more : Text}
    (split : splitTerm? segment = some (first :: more, value)) :
    '=' ∈ segment ∧ ¬ HasBlankKey segment := by
  refine ⟨mem_of_splitTerm? split, ?_⟩
  rw [hasBlankKey_iff, split]
  simp

theorem accountsFor_replaced {first : Char} {more : Text}
    (split : splitTerm? segment = some (first :: more, value))
    (present : (FilterMap.ofSegments earlier).contains (first :: more) = true) :
    AccountsFor segment (FilterMap.ofSegments earlier)
      (FilterMap.ofSegments (earlier ++ [segment])) (some (.duplicateKey (first :: more))) := by
  have pair := FilterMap.segmentPair?_of_key split
  have inserted := FilterMap.ofSegments_concat_some pair earlier
  have size := FilterMap.size_insert (FilterMap.ofSegments earlier) (first :: more) value
  rw [present, if_pos rfl, ← inserted] at size
  obtain ⟨hasEquals, notBlankKey⟩ := not_dropped_of_key split
  obtain ⟨old, found⟩ := Option.isSome_iff_exists.mp present
  constructor
  · simpa using hasEquals
  · simpa using notBlankKey
  · rintro (absent | blankKey)
    · exact absurd hasEquals absent
    · exact absurd blankKey notBlankKey
  · intro key
    constructor
    · rintro ⟨⟩
      exact ⟨value, old, pair, found, inserted, size⟩
    · rintro ⟨other, _, otherPair, _⟩
      rw [pair] at otherPair
      obtain ⟨rfl, _⟩ := Prod.mk.inj (Option.some.inj otherPair)
      rfl
  · constructor
    · simp
    · rintro ⟨key, other, otherPair, missing, _⟩
      rw [pair] at otherPair
      obtain ⟨rfl, _⟩ := Prod.mk.inj (Option.some.inj otherPair)
      rw [found] at missing
      contradiction
  · rintro _ ⟨⟩
    rfl
  · rw [size]
    rfl

theorem accountsFor_added {first : Char} {more : Text}
    (split : splitTerm? segment = some (first :: more, value))
    (absent : (FilterMap.ofSegments earlier).contains (first :: more) = false) :
    AccountsFor segment (FilterMap.ofSegments earlier)
      (FilterMap.ofSegments (earlier ++ [segment])) none := by
  have pair := FilterMap.segmentPair?_of_key split
  have inserted := FilterMap.ofSegments_concat_some pair earlier
  have size := FilterMap.size_insert (FilterMap.ofSegments earlier) (first :: more) value
  rw [absent, if_neg Bool.false_ne_true, ← inserted] at size
  obtain ⟨hasEquals, notBlankKey⟩ := not_dropped_of_key split
  have missing : (FilterMap.ofSegments earlier).get? (first :: more) = none := by
    simpa [FilterMap.contains] using absent
  constructor
  · simpa using hasEquals
  · simpa using notBlankKey
  · rintro (noEquals | blankKey)
    · exact absurd hasEquals noEquals
    · exact absurd blankKey notBlankKey
  · intro key
    constructor
    · simp
    · rintro ⟨other, old, otherPair, found, _⟩
      rw [pair] at otherPair
      obtain ⟨rfl, _⟩ := Prod.mk.inj (Option.some.inj otherPair)
      rw [missing] at found
      contradiction
  · simp only [true_iff]
    exact ⟨_, value, pair, missing, inserted, size⟩
  · simp
  · rw [size]
    rfl

theorem ofSegments_step {seen : List Text}
    (agrees : Agrees seen (FilterMap.ofSegments earlier)) (segment : Text) :
    ∃ warning later,
      AccountsFor segment (FilterMap.ofSegments earlier)
        (FilterMap.ofSegments (earlier ++ [segment])) warning ∧
      Agrees later (FilterMap.ofSegments (earlier ++ [segment])) ∧
      ∀ rest, ofSegments seen (segment :: rest) = warning.toList ++ ofSegments later rest := by
  cases split : splitTerm? segment with
  | none =>
      refine ⟨_, seen, accountsFor_noEquals split, ?_, ?_⟩
      · rwa [FilterMap.ofSegments_concat_none (FilterMap.segmentPair?_of_none split)]
      · intro rest
        simp [ofSegments, split]
  | some pair =>
      obtain ⟨key, value⟩ := pair
      cases key with
      | nil =>
          refine ⟨_, seen, accountsFor_blankKey split, ?_, ?_⟩
          · rwa [FilterMap.ofSegments_concat_none (FilterMap.segmentPair?_of_blankKey split)]
          · intro rest
            simp [ofSegments, split]
      | cons first more =>
          have pair := FilterMap.segmentPair?_of_key split
          by_cases present : Text.fold (first :: more) ∈ seen
          · refine ⟨_, seen, accountsFor_replaced split ((agrees _).mp present), ?_, ?_⟩
            · rw [FilterMap.ofSegments_concat_some pair]
              exact agrees.insert_seen present value
            · intro rest
              simp [ofSegments, split, present]
          · have absent : (FilterMap.ofSegments earlier).contains (first :: more) = false := by
              rw [Bool.eq_false_iff]
              exact fun found => present ((agrees _).mpr found)
            refine ⟨_, Text.fold (first :: more) :: seen, accountsFor_added split absent, ?_, ?_⟩
            · rw [FilterMap.ofSegments_concat_some pair]
              exact agrees.insert_new _ value
            · intro rest
              simp [ofSegments, split, present]

theorem ofSegments_account (segments : List Text) {seen : List Text}
    (agrees : Agrees seen (FilterMap.ofSegments earlier)) :
    ∃ warnings, Account earlier segments warnings ∧
      ofSegments seen segments = warnings.filterMap id := by
  induction segments generalizing earlier seen with
  | nil => exact ⟨[], .nil, rfl⟩
  | cons segment rest ih =>
      obtain ⟨warning, later, accounts, agreesLater, stepEq⟩ := ofSegments_step agrees segment
      obtain ⟨warnings, account, restEq⟩ := ih agreesLater
      refine ⟨warning :: warnings, .cons accounts account, ?_⟩
      rw [stepEq, restEq]
      cases warning <;> rfl

theorem Account.size {segments : List Text} {warnings : List (Option QueryWarning)}
    (account : Account earlier segments warnings) :
    (FilterMap.ofSegments (earlier ++ segments)).size + (warnings.filterMap id).length =
      (FilterMap.ofSegments earlier).size + segments.length := by
  induction account with
  | nil => simp
  | @cons earlier segment rest warning warnings accounts _ ih =>
      have counted := accounts.counted
      have own : ((warning :: warnings).filterMap id).length =
          warning.toList.length + (warnings.filterMap id).length := by
        cases warning <;> simp [Nat.add_comm]
      rw [List.append_assoc, List.singleton_append] at ih
      rw [own, List.length_cons]
      omega

theorem Account.about {segments : List Text} {warnings : List (Option QueryWarning)}
    (account : Account earlier segments warnings) :
    ∀ warning ∈ warnings.filterMap id, warning.isAboutSegment = true := by
  induction account with
  | nil => simp
  | @cons _ _ _ own _ accounts _ ih =>
      intro warning member
      cases own with
      | none => exact ih warning member
      | some first =>
          rcases List.mem_cons.mp member with rfl | later
          · exact accounts.about warning rfl
          · exact ih warning later

theorem ofTokens_about (tokens : List Token) :
    ∀ warning ∈ ofTokens tokens, warning.isAboutSegment = false := by
  intro warning member
  obtain ⟨token, _, rfl⟩ := List.mem_map.mp member
  rfl

/-- The warnings about the segments of a query come first, one for each segment that adds no pair,
and those about operators after them. -/
theorem ofQuery_accounts (query : Text) :
    ∃ warnings : List (Option QueryWarning),
      Account [] (segments query) warnings ∧
      ofQuery query = warnings.filterMap id ++ ofTokens (tokenize query) ∧
      (∀ warning ∈ warnings.filterMap id, warning.isAboutSegment = true) ∧
      (∀ warning ∈ ofTokens (tokenize query), warning.isAboutSegment = false) ∧
      (FilterMap.parse query).size + (ofQuery query).countP isAboutSegment =
        (segments query).length := by
  obtain ⟨warnings, account, ownEq⟩ := ofSegments_account (segments query) agrees_empty
  have queryEq : ofQuery query = warnings.filterMap id ++ ofTokens (tokenize query) := by
    rw [ofQuery, ownEq]
  have operators := ofTokens_about (tokenize query)
  refine ⟨warnings, account, queryEq, account.about, operators, ?_⟩
  have ownCount : (warnings.filterMap id).countP isAboutSegment = (warnings.filterMap id).length :=
    List.countP_eq_length.mpr account.about
  have operatorCount : (ofTokens (tokenize query)).countP isAboutSegment = 0 :=
    List.countP_eq_zero.mpr fun warning member => by simp [operators warning member]
  have size := account.size
  rw [queryEq, List.countP_append, ownCount, operatorCount, Nat.add_zero,
    FilterMap.parse_eq_ofSegments]
  simpa [FilterMap.ofSegments, FilterMap.ofList, FilterMap.insertAll, FilterMap.empty,
    FilterMap.size] using size

end QueryWarning

end TopicSieve
