import TopicSieve.Proofs.Message.Lines

/-!
The line numbers in faults of envelopes. A fault is about one line of the input, and the number with
it counts that line and the lines before it that are text. Main statement: the number is smaller than
that of the line in the input by the number of earlier lines that are no text, so it is the number of
the line exactly where there are none.
-/

namespace TopicSieve

namespace Bytes

theorem lines_append_feed {front : Bytes} (absent : 0x0A ∉ front) (rest : Bytes) :
    lines (front ++ 0x0A :: rest) = (front ++ [0x0A]) :: lines rest := by
  induction front with
  | nil => simp [lines]
  | cons byte more ih =>
      simp only [List.mem_cons, not_or] at absent
      rw [List.cons_append, lines, if_neg (Ne.symm absent.1), ih absent.2]
      rfl

theorem lines_of_not_mem {line : Bytes} (nonempty : line ≠ []) (absent : 0x0A ∉ line) :
    lines line = [line] := by
  induction line with
  | nil => contradiction
  | cons byte more ih =>
      simp only [List.mem_cons, not_or] at absent
      rw [lines, if_neg (Ne.symm absent.1)]
      by_cases last : more = []
      · rw [last]
        rfl
      · rw [ih last absent.2]

theorem Cut.lines_eq {input : Bytes} {pieces : List Bytes} (cut : Cut input pieces) :
    lines input = pieces := by
  induction cut with
  | nil => rfl
  | last nonempty absent => exact lines_of_not_mem nonempty absent
  | cons absent _ ih => rw [lines_append_feed absent, ih]

theorem lines_append {front : Bytes} (ends : front = [] ∨ front.getLast? = some 0x0A)
    (back : Bytes) : lines (front ++ back) = lines front ++ lines back := by
  generalize cutEq : lines front = pieces
  have cut := cut_lines front
  rw [cutEq] at cut
  clear cutEq
  induction cut with
  | nil => rfl
  | last nonempty absent =>
      rcases ends with isNil | isFeed
      · contradiction
      · exact absurd (List.mem_of_getLast? isFeed) absent
  | @cons front rest pieces absent _ ih =>
      have restEnds : rest = [] ∨ rest.getLast? = some 0x0A := by
        cases rest with
        | nil => exact Or.inl rfl
        | cons byte rest =>
            right
            rcases ends with isNil | isFeed
            · simp at isNil
            · simpa using isFeed
      rw [List.append_assoc, List.cons_append, lines_append_feed absent, ih restEnds]
      rfl

theorem Cut.front {input : Bytes} {earlier later : List Bytes} {line : Bytes}
    (cut : Cut input (earlier ++ line :: later)) :
    Cut earlier.flatten earlier ∧ earlier.flatten.count 0x0A = earlier.length := by
  induction earlier generalizing input with
  | nil => exact ⟨.nil, rfl⟩
  | cons first rest ih =>
      rw [List.cons_append] at cut
      generalize behindEq : rest ++ line :: later = behind at cut
      cases cut with
      | last => simp at behindEq
      | @cons front back _ absent cut =>
          subst behindEq
          obtain ⟨restCut, restCount⟩ := ih cut
          rw [List.flatten_cons, List.append_assoc, List.singleton_append]
          refine ⟨.cons absent restCut, ?_⟩
          rw [List.count_append, List.count_eq_zero.mpr absent, List.count_cons_self, restCount,
            List.length_cons, Nat.zero_add]

end Bytes

namespace MessageReader

variable (reader : MessageReader)

def itemsBehind (earlier lines : List Bytes) : List Item :=
  reader.itemsFrom (earlier.countP (IsText ·)) (earlier.countP (HoldsRecord ·)) lines

theorem items_eq (input : Bytes) : reader.items input = reader.itemsBehind [] input.lines := rfl

theorem itemsBehind_step (earlier : List Bytes) (line : Bytes) : ∃ own,
    LineItems reader earlier line own ∧
    ∀ rest, reader.itemsBehind earlier (line :: rest) =
      own ++ reader.itemsBehind (earlier ++ [line]) rest :=
  itemsFrom_step reader earlier line

theorem itemsBehind_append (earlier front back : List Bytes) :
    reader.itemsBehind earlier (front ++ back) =
      reader.itemsBehind earlier front ++ reader.itemsBehind (earlier ++ front) back := by
  induction front generalizing earlier with
  | nil => simp [itemsBehind, itemsFrom]
  | cons line front ih =>
      obtain ⟨own, _, stepEq⟩ := itemsBehind_step reader earlier line
      rw [List.cons_append, stepEq, stepEq, ih, List.append_assoc, List.append_assoc,
        List.singleton_append]

theorem LineItems.atMostOne {reader : MessageReader} {earlier : List Bytes} {line : Bytes}
    {own : List Item} (lineItems : LineItems reader earlier line own) :
    own = [] ∨ ∃ item, own = [item] := by
  cases lineItems with
  | notText => exact Or.inr ⟨_, rfl⟩
  | blank => exact Or.inl rfl
  | record => exact Or.inr ⟨_, rfl⟩

theorem exists_line {earlier lines : List Bytes} {front back : List Item} {item : Item}
    (found : reader.itemsBehind earlier lines = front ++ item :: back) :
    ∃ before line after, lines = before ++ line :: after ∧
      reader.itemsBehind earlier before = front ∧
      LineItems reader (earlier ++ before) line [item] := by
  induction lines generalizing earlier front with
  | nil => simp [itemsBehind, itemsFrom] at found
  | cons line rest ih =>
      obtain ⟨own, lineItems, stepEq⟩ := itemsBehind_step reader earlier line
      rw [stepEq] at found
      have later {shorter : List Item} (frontEq : front = own ++ shorter)
          (foundLater : reader.itemsBehind (earlier ++ [line]) rest = shorter ++ item :: back) :
          ∃ before bad after, line :: rest = before ++ bad :: after ∧
            reader.itemsBehind earlier before = front ∧
            LineItems reader (earlier ++ before) bad [item] := by
        obtain ⟨before, bad, after, restEq, beforeEq, badItems⟩ := ih foundLater
        rw [List.append_assoc] at badItems
        refine ⟨line :: before, bad, after, congrArg (line :: ·) restEq, ?_, badItems⟩
        rw [stepEq, beforeEq, frontEq]
      rcases lineItems.atMostOne with rfl | ⟨first, rfl⟩
      · exact later rfl found
      · cases front with
        | nil =>
            obtain ⟨rfl, _⟩ := List.cons.inj found
            rw [← List.append_nil earlier] at lineItems
            exact ⟨[], line, rest, rfl, rfl, lineItems⟩
        | cons other shorter =>
            obtain ⟨rfl, restEq⟩ := List.cons.inj found
            exact later rfl restEq

def HoldsBody (line : Bytes) (body : Text) : Prop :=
  ∃ ends, Utf8.encode (body ++ ends) = line ∧ (∀ char ∈ ends, char = '\r' ∨ char = '\n') ∧
    ∀ last ∈ body.getLast?, last ≠ '\r' ∧ last ≠ '\n'

/-- The line that a fault is about: the items before the fault are those of the lines before it, and
its record is no envelope for that reason. -/
structure IsAbout (earlier : List Bytes) (line : Bytes) (front : List Item) (fault : Json.Fault) :
    Prop where
  before : reader.items earlier.flatten = front
  faulty : ∃ body, HoldsBody line body ∧ Envelope.read body = .error fault

/-- Faults of envelopes count the lines that are text. Every one of them is about a line of the
input, and its number is behind the place of the line by as many lines as are no text before it. -/
theorem line_add_notText {input : Bytes} {front back : List Item} {line : Nat}
    {fault : Json.Fault}
    (reported : reader.items input = front ++ .error (.invalidEnvelope line fault) :: back) :
    ∃ earlier bad later, Bytes.Cut input (earlier ++ bad :: later) ∧
      reader.IsAbout earlier bad front fault ∧
      line + earlier.countP (¬ IsText ·) = earlier.flatten.count 0x0A + 1 ∧
      (line = earlier.flatten.count 0x0A + 1 ↔ ∀ other ∈ earlier, IsText other) := by
  rw [items_eq] at reported
  obtain ⟨earlier, bad, later, linesEq, frontEq, badItems⟩ := exists_line reader reported
  have cut := Bytes.cut_lines input
  rw [linesEq] at cut
  obtain ⟨earlierCut, feeds⟩ := cut.front
  rw [← earlierCut.lines_eq, ← items_eq] at frontEq
  have total : earlier.length = earlier.countP (IsText ·) + earlier.countP (¬ IsText ·) := by
    rw [List.length_eq_countP_add_countP (IsText ·)]
    simp
  have noneMissing : earlier.countP (¬ IsText ·) = 0 ↔ ∀ other ∈ earlier, IsText other := by
    simp [List.countP_eq_zero]
  cases badItems with
  | @record body ends _ _ encoded isEnd lastNot decoded =>
      cases decoded with
      | invalid _ readEq =>
          refine ⟨earlier, bad, later, cut, ⟨frontEq, body, ⟨ends, encoded, isEnd, lastNot⟩, readEq⟩,
            ?_, ?_⟩
          · rw [List.nil_append]
            omega
          · rw [← noneMissing, List.nil_append]
            omega

def brokenInput : Bytes := [0xFF, 0x0A, 0x0A, 0x7B, 0x0A]

theorem line_add_notText_brokenInput :
    (⟨.jsonl, "t"⟩ : MessageReader).items brokenInput =
      [.error (.io .notText)] ++ .error (.invalidEnvelope 2 ⟨.endInObject, 1⟩) :: [] ∧
    ∃ earlier bad later, Bytes.Cut brokenInput (earlier ++ bad :: later) ∧
      (⟨.jsonl, "t"⟩ : MessageReader).IsAbout earlier bad [.error (.io .notText)]
        ⟨.endInObject, 1⟩ ∧
      2 + earlier.countP (¬ IsText ·) = earlier.flatten.count 0x0A + 1 ∧
      (2 = earlier.flatten.count 0x0A + 1 ↔ ∀ other ∈ earlier, IsText other) :=
  ⟨rfl, line_add_notText ⟨.jsonl, "t"⟩ rfl⟩

def NumbersLines (input : Bytes) : Prop :=
  ∀ front back line fault,
    reader.items input = front ++ .error (.invalidEnvelope line fault) :: back →
    ∃ earlier bad later, Bytes.Cut input (earlier ++ bad :: later) ∧
      reader.IsAbout earlier bad front fault ∧ line = earlier.flatten.count 0x0A + 1

/-- Behind a line that is no text, the second line has the number of the first. -/
theorem not_numbersLines :
    ¬ (⟨.jsonl, "t"⟩ : MessageReader).NumbersLines [0xFF, 0x0A, 0x7B, 0x0A] := by
  intro numbers
  obtain ⟨earlier, bad, later, cut, about, lineEq⟩ :=
    numbers [.error (.io .notText)] [] 1 ⟨.endInObject, 1⟩ rfl
  have nothingEarlier : earlier = [] := by
    rw [cut.front.2] at lineEq
    exact List.length_eq_zero_iff.mp (by omega)
  have nothingBefore := about.before
  rw [nothingEarlier] at nothingBefore
  contradiction

end MessageReader

end TopicSieve
