import TopicSieve.Proofs.Message.LineNumbers
import TopicSieve.Proofs.Scan.Tally

/-!
Input whose records are the lines themselves. Main statement: what a scan that takes every match
counts there is told by the lines alone, by those that match in front of the first line that is no
text.
-/

namespace TopicSieve

theorem Text.dropEndWhile_append {test : Char → Bool} {front ends : Text}
    (lastNot : ∀ last ∈ front.getLast?, test last = false)
    (holds : ∀ char ∈ ends, test char = true) : dropEndWhile test (front ++ ends) = front := by
  rw [dropEndWhile, List.reverse_append, dropWhile_run, List.reverse_reverse]
  · intro char member
    exact holds char (List.mem_reverse.mp member)
  · intro last isLast
    rw [List.head?_reverse] at isLast
    exact lastNot last isLast

namespace MessageReader

theorem holdsBody_iff (line : Bytes) (body : Text) : HoldsBody line body ↔
    (Utf8.decode? line).map (Text.dropEndWhile isLineEnd) = some body := by
  have isLineEnd_iff (char : Char) : isLineEnd char = true ↔ char = '\r' ∨ char = '\n' := by
    simp [isLineEnd]
  have notLineEnd_iff (char : Char) : isLineEnd char = false ↔ char ≠ '\r' ∧ char ≠ '\n' := by
    simp [isLineEnd]
  rw [Option.map_eq_some_iff]
  constructor
  · rintro ⟨ends, encoded, isEnd, lastNot⟩
    simp only [← isLineEnd_iff, ← notLineEnd_iff] at isEnd lastNot
    exact ⟨body ++ ends, (Utf8.decode?_eq_some_iff line _).mpr encoded,
      Text.dropEndWhile_append lastNot isEnd⟩
  · rintro ⟨text, decoded, rfl⟩
    obtain ⟨ends, split, endsEq, lastEq⟩ := Text.dropEndWhile_split isLineEnd text
    simp only [isLineEnd_iff, notLineEnd_iff] at endsEq lastEq
    refine ⟨ends, ?_, endsEq, lastEq⟩
    rw [← split]
    exact (Utf8.decode?_eq_some_iff line text).mp decoded

theorem HoldsBody.unique {line : Bytes} {body other : Text} (holds : HoldsBody line body)
    (otherHolds : HoldsBody line other) : body = other := by
  rw [holdsBody_iff] at holds otherHolds
  exact Option.some.inj (holds.symm.trans otherHolds)

end MessageReader

namespace Filter

open MessageReader

variable (filter : Filter)

/-- The line holds a record, and the filter accepts it as it stands before its line ends. -/
def MatchesLine (line : Bytes) : Prop :=
  HoldsRecord line ∧ ∃ body, HoldsBody line body ∧ filter.accepts body = true

instance (line : Bytes) : Decidable (∃ body, HoldsBody line body ∧ filter.accepts body = true) :=
  let body? := (Utf8.decode? line).map (Text.dropEndWhile isLineEnd)
  decidable_of_iff (body?.any filter.accepts = true) (by
    simp only [body?, holdsBody_iff, Option.any_eq_true])

instance (line : Bytes) : Decidable (filter.MatchesLine line) :=
  inferInstanceAs (Decidable (_ ∧ _))

variable {filter}

theorem matchesLine_iff_accepts {line : Bytes} {body : Text} (record : HoldsRecord line)
    (holds : HoldsBody line body) : filter.MatchesLine line ↔ filter.accepts body = true := by
  constructor
  · rintro ⟨_, other, otherHolds, accepts⟩
    rwa [holds.unique otherHolds]
  · intro accepts
    exact ⟨record, body, holds, accepts⟩

end Filter

namespace MessageReader

variable {reader : MessageReader}

theorem LineItems.plain (plain : reader.format = .lines) (filter : Filter) {earlier : List Bytes}
    {line : Bytes} {own : List Item} (lineItems : LineItems reader earlier line own) :
    own.all isReadable = decide (IsText line) ∧
      (filter.accepted own).length = if filter.MatchesLine line then 1 else 0 := by
  cases lineItems with
  | notText notText =>
      have noMatch : ¬ filter.MatchesLine line := fun found => notText found.1.isText
      rw [if_neg noMatch, decide_eq_false notText]
      exact ⟨rfl, rfl⟩
  | @blank text encoded allBlank =>
      have noRecord : ¬ HoldsRecord line := by
        rw [← encoded, holdsRecord_encode_iff]
        exact fun left => left ((Text.trim_eq_nil_iff text).mpr allBlank)
      have noMatch : ¬ filter.MatchesLine line := fun found => noRecord found.1
      rw [if_neg noMatch, decide_eq_true ⟨text, encoded⟩]
      exact ⟨rfl, rfl⟩
  | @record body ends _ record encoded isEnd lastNot decoded =>
      have holds : HoldsBody line body := ⟨ends, encoded, isEnd, lastNot⟩
      rw [decide_eq_true record.isText]
      cases decoded with
      | body =>
          refine ⟨rfl, ?_⟩
          simp only [Filter.matchesLine_iff_accepts record holds]
          by_cases accepts : filter.accepts body = true
          · simp [Filter.accepted, Message.body, accepts]
          · simp [Filter.accepted, Message.body, accepts]
      | envelope format | invalid format =>
          rw [plain] at format
          contradiction

theorem Reads.plain (plain : reader.format = .lines) (filter : Filter) {earlier lines : List Bytes}
    {items : List Item} (reads : Reads reader earlier lines items) :
    items.all isReadable = lines.all (IsText ·) ∧
      (filter.accepted (items.takeWhile isReadable)).length =
        (lines.takeWhile (IsText ·)).countP (filter.MatchesLine ·) := by
  induction reads with
  | nil => exact ⟨rfl, rfl⟩
  | @cons earlier line rest own items lineItems _ ih =>
      obtain ⟨readable, matching⟩ := lineItems.plain plain filter
      rw [List.all_append, readable, ih.1, List.all_cons]
      refine ⟨rfl, ?_⟩
      -- At a line that is no text both sides stop.
      by_cases isText : IsText line
      · have linesEq : (line :: rest).takeWhile (IsText ·) = line :: rest.takeWhile (IsText ·) := by
          simp [isText]
        rw [decide_eq_true isText, List.all_eq_true] at readable
        rw [List.takeWhile_append_of_pos readable, Filter.accepted_append, List.length_append,
          matching, ih.2, linesEq, List.countP_cons, Nat.add_comm]
        simp
      · have linesEq : (line :: rest).takeWhile (IsText ·) = [] := by simp [isText]
        rw [linesEq]
        cases lineItems with
        | notText => rfl
        | blank encoded => exact absurd ⟨_, encoded⟩ isText
        | record record => exact absurd record.isText isText

end MessageReader

open MessageReader

/-- What a scan counts among lines: the lines that match in front of the first one that is no text. It
fails there, unless it has reached its limit. -/
theorem tally_plain {reader : MessageReader} (plain : reader.format = .lines) (filter : Filter)
    (limit : Option Nat) {input : Bytes} {lines : List Bytes} (cut : Bytes.Cut input lines) :
    let matching := (lines.takeWhile (IsText ·)).countP (filter.MatchesLine ·)
    let decided := (∀ line ∈ lines, IsText line) ∨ ∃ number, limit = some number ∧ number ≤ matching
    let tally := Scan.tally filter limit (reader.items input)
    (decided → tally = some (limit.elim matching (min · matching))) ∧ (¬ decided → tally = none) := by
  intro matching decided tally
  have reads : Reads reader [] input.lines (reader.items input) := itemsFrom_reads reader [] _
  rw [cut.lines_eq] at reads
  obtain ⟨allReadable, matchingEq⟩ := reads.plain plain filter
  have tallyEq : tally = if limit.any (· ≤ matching) then limit
      else if lines.all (IsText ·) then some matching else none := by
    simp only [tally, Scan.tally, Scan.tallyFrom, matchingEq, allReadable, Nat.zero_add]
    rfl
  have allText : lines.all (IsText ·) = true ↔ ∀ line ∈ lines, IsText line := by simp
  rw [tallyEq]
  cases limit with
  | none => simp [decided, allText]
  | some number =>
      by_cases reached : number ≤ matching
      · simp [decided, reached]
      · have smaller : min number matching = matching :=
          Nat.min_eq_right (Nat.le_of_not_le reached)
        simp [decided, reached, allText, smaller]

end TopicSieve
