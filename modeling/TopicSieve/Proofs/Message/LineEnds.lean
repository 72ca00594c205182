import TopicSieve.Proofs.Message.PlainLines

/-!
Inputs that differ in how their lines end, or in lines of white space. What the reader makes of a line
is told by its record, the text of the line up to its line ends; a blank line only moves the numbers
of the lines behind it. Main statement: line feeds can be written with a carriage return, the last
line can be ended, and blank lines can be put in, and the items of the input stay as they are but for
the line numbers in faults of envelopes.
-/

namespace TopicSieve

namespace Bytes

def withReturns (input : Bytes) : Bytes :=
  input.flatMap fun byte => if byte = 0x0A then [0x0D, 0x0A] else [byte]

theorem withReturns_append (front back : Bytes) :
    withReturns (front ++ back) = withReturns front ++ withReturns back := List.flatMap_append

theorem withReturns_of_not_mem {line : Bytes} (absent : 0x0A ∉ line) : withReturns line = line := by
  induction line with
  | nil => rfl
  | cons byte rest ih =>
      simp only [List.mem_cons, not_or] at absent
      have restEq := ih absent.2
      rw [withReturns] at restEq
      rw [withReturns, List.flatMap_cons, if_neg (Ne.symm absent.1), restEq]
      rfl

end Bytes

namespace MessageReader

def record? (line : Bytes) : Option Text := (Utf8.decode? line).map (Text.dropEndWhile isLineEnd)

theorem record?_concat {line : Bytes} {byte : UInt8} (isEnd : byte = 0x0D ∨ byte = 0x0A) :
    record? (line ++ [byte]) = record? line := by
  obtain ⟨char, ascii, charEq, charEnds⟩ : ∃ char : Char, byte.toNat < 0x80 ∧
      char.toNat = byte.toNat ∧ (char = '\r' ∨ char = '\n') := by
    rcases isEnd with rfl | rfl
    · exact ⟨'\r', by decide, by decide, Or.inl rfl⟩
    · exact ⟨'\n', by decide, by decide, Or.inr rfl⟩
  apply Option.ext
  intro body
  rw [record?, record?, ← holdsBody_iff, ← holdsBody_iff]
  constructor
  · rintro ⟨ends, encoded, areEnds, lastNot⟩
    obtain ⟨front, split, frontEncoded⟩ := (Utf8.encode_eq_concat_iff ascii charEq _ _).mp encoded
    -- The last character is a line end, so it is none of the body.
    rcases List.eq_nil_or_concat ends with rfl | ⟨earlier, last, rfl⟩
    · rw [List.append_nil] at split
      subst split
      have notEnd := lastNot char (by simp)
      rcases charEnds with rfl | rfl
      · exact absurd rfl notEnd.1
      · exact absurd rfl notEnd.2
    · rw [List.concat_eq_append, ← List.append_assoc] at split
      obtain ⟨rfl, _⟩ := List.append_inj' split rfl
      refine ⟨earlier, frontEncoded, ?_, lastNot⟩
      intro other member
      exact areEnds other (by simp [member])
  · rintro ⟨ends, encoded, areEnds, lastNot⟩
    refine ⟨ends ++ [char], ?_, ?_, lastNot⟩
    · rw [← List.append_assoc]
      exact (Utf8.encode_eq_concat_iff ascii charEq _ _).mpr ⟨_, rfl, encoded⟩
    · exact List.forall_mem_append.mpr ⟨areEnds, by simpa using charEnds⟩

theorem trim_dropEndWhile_eq_nil_iff (text : Text) :
    Text.trim (Text.dropEndWhile isLineEnd text) = [] ↔ Text.trim text = [] := by
  obtain ⟨ends, split, areEnds, _⟩ := Text.dropEndWhile_split isLineEnd text
  have endsBlank : ∀ char ∈ ends, Text.isBlank char = true := by
    intro char member
    have isEnd : char = '\r' ∨ char = '\n' := by simpa [isLineEnd] using areEnds char member
    rcases isEnd with rfl | rfl <;> decide
  rw [Text.trim_eq_nil_iff, Text.trim_eq_nil_iff]
  constructor
  · intro bodyBlank
    rw [split]
    exact List.forall_mem_append.mpr ⟨bodyBlank, endsBlank⟩
  · intro allBlank char member
    refine allBlank char ?_
    rw [split]
    exact List.mem_append_left ends member

section

variable (reader : MessageReader)

theorem itemsFrom_cons (lines records : Nat) (line : Bytes) (rest : List Bytes) :
    reader.itemsFrom lines records (line :: rest) =
      match record? line with
      | none => .error (.io .notText) :: reader.itemsFrom lines records rest
      | some body =>
          if Text.trim body = [] then reader.itemsFrom (lines + 1) records rest
          else reader.decode (lines + 1) records body ::
            reader.itemsFrom (lines + 1) (records + 1) rest := by
  rw [itemsFrom, record?]
  cases Utf8.decode? line with
  | none => rfl
  | some text => simp only [Option.map_some, trim_dropEndWhile_eq_nil_iff, List.isEmpty_iff]

theorem itemsFrom_of_records {lines others : List Bytes} (same : lines.map record? = others.map record?)
    (earlier records : Nat) :
    reader.itemsFrom earlier records lines = reader.itemsFrom earlier records others := by
  induction lines generalizing others earlier records with
  | nil =>
      rw [List.map_nil, eq_comm, List.map_eq_nil_iff] at same
      rw [same]
  | cons line rest ih =>
      cases others with
      | nil => contradiction
      | cons other more =>
          obtain ⟨recordEq, restEq⟩ := List.cons.inj same
          simp only [itemsFrom_cons, recordEq, ih restEq]

theorem itemsBehind_concat_blank (earlier lines : List Bytes) {line : Bytes}
    (blank : record? line = some []) :
    reader.itemsBehind earlier (lines ++ [line]) = reader.itemsBehind earlier lines := by
  have nothing : reader.itemsBehind (earlier ++ lines) [line] = [] := by
    rw [itemsBehind, itemsFrom_cons, blank]
    rfl
  rw [itemsBehind_append, nothing, List.append_nil]

end

end MessageReader

namespace Bytes

open MessageReader

theorem record?_lines_withReturns {input : Bytes} {pieces : List Bytes} (cut : Cut input pieces) :
    (lines input.withReturns).map record? = pieces.map record? := by
  induction cut with
  | nil => rfl
  | last nonempty absent => rw [withReturns_of_not_mem absent, lines_of_not_mem nonempty absent]
  | @cons front rest pieces absent _ ih =>
      have absentToo : 0x0A ∉ front ++ [0x0D] := by simp [absent]
      have split : withReturns (front ++ 0x0A :: rest) =
          (front ++ [0x0D]) ++ 0x0A :: withReturns rest := by
        rw [withReturns_append, withReturns_of_not_mem absent, List.append_assoc]
        rfl
      have isFeed : (0x0A : UInt8) = 0x0D ∨ (0x0A : UInt8) = 0x0A := Or.inr rfl
      rw [split, lines_append_feed absentToo, List.map_cons, List.map_cons, ih,
        record?_concat isFeed, record?_concat isFeed, record?_concat (Or.inl rfl)]

inductive IsEnding : Bytes → Prop
  | feed : IsEnding [0x0A]
  | returnFeed : IsEnding [0x0D, 0x0A]

variable {ending : Bytes}

theorem IsEnding.record?_append (isEnding : IsEnding ending) (line : Bytes) :
    record? (line ++ ending) = record? line := by
  cases isEnding with
  | feed => exact record?_concat (Or.inr rfl)
  | returnFeed =>
      have split : line ++ [0x0D, 0x0A] = (line ++ [0x0D]) ++ [0x0A] := by simp
      rw [split, record?_concat (Or.inr rfl), record?_concat (Or.inl rfl)]

theorem IsEnding.lines_append (isEnding : IsEnding ending) {line : Bytes} (absent : 0x0A ∉ line) :
    lines (line ++ ending) = [line ++ ending] := by
  cases isEnding with
  | feed => exact lines_append_feed absent []
  | returnFeed =>
      have absentToo : 0x0A ∉ line ++ [0x0D] := by simp [absent]
      have split : line ++ [0x0D, 0x0A] = (line ++ [0x0D]) ++ [0x0A] := by simp
      rw [split]
      exact lines_append_feed absentToo []

theorem IsEnding.record?_lines (isEnding : IsEnding ending) {input : Bytes} {pieces : List Bytes}
    (cut : Cut input pieces) :
    (lines (input ++ ending)).map record? = pieces.map record? ∨
      (lines (input ++ ending)).map record? = (pieces ++ [ending]).map record? := by
  induction cut with
  | nil =>
      have alone := isEnding.lines_append List.not_mem_nil
      rw [alone]
      exact Or.inr rfl
  | @last line _ absent =>
      rw [isEnding.lines_append absent, List.map_singleton, isEnding.record?_append]
      exact Or.inl rfl
  | @cons front rest pieces absent _ ih =>
      rw [List.append_assoc, List.cons_append, lines_append_feed absent]
      rcases ih with ended | added
      · rw [List.map_cons, ended]
        exact Or.inl rfl
      · rw [List.map_cons, added]
        exact Or.inr rfl

end Bytes

namespace MessageReader

variable (reader : MessageReader)

theorem items_of_records {input other : Bytes}
    (same : other.lines.map record? = input.lines.map record?) :
    reader.items other = reader.items input :=
  itemsFrom_of_records reader same 0 0

theorem items_withReturns (input : Bytes) : reader.items input.withReturns = reader.items input :=
  items_of_records reader (Bytes.record?_lines_withReturns (Bytes.cut_lines input))

theorem items_append_ending {ending : Bytes} (isEnding : Bytes.IsEnding ending) (input : Bytes) :
    reader.items (input ++ ending) = reader.items input := by
  rcases isEnding.record?_lines (Bytes.cut_lines input) with ended | added
  · exact items_of_records reader ended
  · have blank : record? ending = some [] := isEnding.record?_append []
    rw [items_eq, items_eq, ← itemsBehind_concat_blank reader [] input.lines blank]
    exact itemsFrom_of_records reader added 0 0

/-! Blank lines between the others. -/

def raised (inserted : Nat) : Item → Item
  | .error (.invalidEnvelope line fault) => .error (.invalidEnvelope (line + inserted) fault)
  | item => item

theorem decode_raised (line index inserted : Nat) (body : Text) :
    reader.decode (line + inserted) index body =
      raised inserted (reader.decode line index body) := by
  rw [decode, decode]
  cases reader.format with
  | lines => rfl
  | jsonl => cases Envelope.read body <;> rfl

theorem itemsFrom_raised (earlier records inserted : Nat) (lines : List Bytes) :
    reader.itemsFrom (earlier + inserted) records lines =
      (reader.itemsFrom earlier records lines).map (raised inserted) := by
  induction lines generalizing earlier records with
  | nil => rfl
  | cons line rest ih =>
      have next (records : Nat) : reader.itemsFrom (earlier + inserted + 1) records rest =
          (reader.itemsFrom (earlier + 1) records rest).map (raised inserted) := by
        rw [Nat.add_right_comm, ih]
      rw [itemsFrom_cons, itemsFrom_cons]
      cases record? line with
      | none =>
          simp only [List.map_cons, ih]
          rfl
      | some body =>
          by_cases blank : Text.trim body = []
          · simp only [blank, if_true, next]
          · simp only [blank, if_false, List.map_cons, next]
            rw [Nat.add_right_comm, decode_raised]

def IsBlankLine (line : Bytes) : Prop :=
  ∃ text, Utf8.encode text = line ∧ ∀ char ∈ text, Text.isBlank char = true

/-- `Interspersed lines wider`: the wider lines are the lines with blank lines between them, before
them and behind them. -/
inductive Interspersed : List Bytes → List Bytes → Prop
  | nil : Interspersed [] []
  | kept {line lines wider} : Interspersed lines wider → Interspersed (line :: lines) (line :: wider)
  | inserted {line lines wider} : IsBlankLine line → Interspersed lines wider →
      Interspersed lines (line :: wider)

/-- `Renumbers reader inserted earlier lines wider items others`: behind the earlier lines, among
which others were inserted, each of the lines gives its own items. In the wider input it gives the
same ones, their numbers raised by the lines that were inserted up to there. -/
inductive Renumbers : Nat → List Bytes → List Bytes → List Bytes → List Item → List Item → Prop
  | nil {inserted earlier} : Renumbers inserted earlier [] [] [] []
  | kept {inserted earlier line lines wider own items others} :
      LineItems reader earlier line own →
      Renumbers inserted (earlier ++ [line]) lines wider items others →
      Renumbers inserted earlier (line :: lines) (line :: wider) (own ++ items)
        (own.map (raised inserted) ++ others)
  | inserted {inserted earlier line lines wider items others} : IsBlankLine line →
      Renumbers (inserted + 1) earlier lines wider items others →
      Renumbers inserted earlier lines (line :: wider) items others

theorem itemsFrom_cons_blank {line : Bytes} (blank : IsBlankLine line) (earlier records : Nat)
    (rest : List Bytes) :
    reader.itemsFrom earlier records (line :: rest) = reader.itemsFrom (earlier + 1) records rest := by
  obtain ⟨text, encoded, allBlank⟩ := blank
  have decoded := (Utf8.decode?_eq_some_iff line text).mpr encoded
  have nothing : Text.trim text = [] := (Text.trim_eq_nil_iff text).mpr allBlank
  rw [itemsFrom, decoded]
  simp [nothing]

theorem itemsFrom_renumbers {lines wider : List Bytes} (interspersed : Interspersed lines wider)
    (earlier : List Bytes) (inserted : Nat) :
    Renumbers reader inserted earlier lines wider (reader.itemsBehind earlier lines)
      (reader.itemsFrom (earlier.countP (IsText ·) + inserted)
        (earlier.countP (HoldsRecord ·)) wider) := by
  induction interspersed generalizing earlier inserted with
  | nil => exact .nil
  | @kept line lines wider _ ih =>
      obtain ⟨own, lineItems, stepEq⟩ := itemsBehind_step reader earlier line
      have widerEq := itemsFrom_raised reader (earlier.countP (IsText ·))
        (earlier.countP (HoldsRecord ·)) inserted (line :: wider)
      have widerStep : reader.itemsFrom (earlier.countP (IsText ·))
          (earlier.countP (HoldsRecord ·)) (line :: wider) =
            own ++ reader.itemsBehind (earlier ++ [line]) wider := stepEq wider
      rw [widerStep, List.map_append, itemsBehind, ← itemsFrom_raised] at widerEq
      rw [stepEq, widerEq]
      exact .kept lineItems (ih (earlier ++ [line]) inserted)
  | inserted blank _ ih =>
      rw [itemsFrom_cons_blank reader blank, Nat.add_assoc]
      exact .inserted blank (ih earlier (inserted + 1))

/-- How lines end does not matter, nor do blank lines. The items of an input stay the same with a
carriage return at every line end, with one more line end at the end, or with both; and with blank
lines put in, all that changes is the line numbers in faults of envelopes, each by the number of
lines put in before it. -/
theorem items_lineEnds (input : Bytes) :
    reader.items input.withReturns = reader.items input ∧
    (∀ ending, Bytes.IsEnding ending →
      reader.items (input ++ ending) = reader.items input ∧
      reader.items (input.withReturns ++ ending) = reader.items input) ∧
    ∀ lines wider other, Bytes.Cut input lines → Bytes.Cut other wider → Interspersed lines wider →
      Renumbers reader 0 [] lines wider (reader.items input) (reader.items other) := by
  refine ⟨items_withReturns reader input, ?_, ?_⟩
  · intro ending isEnding
    rw [items_append_ending reader isEnding, items_append_ending reader isEnding, items_withReturns]
    exact ⟨rfl, rfl⟩
  · intro lines wider other cut widerCut interspersed
    have renumbers := itemsFrom_renumbers reader interspersed [] 0
    rwa [← cut.lines_eq, ← widerCut.lines_eq] at renumbers ⊢

theorem items_lineEnds_openObject :
    let reader : MessageReader := ⟨.jsonl, "t"⟩
    let lines : List Bytes := [[0xFF, 0x0A], [0x7B, 0x0D]]
    let wider : List Bytes := [[0xFF, 0x0A], [0x20, 0x09, 0x0D, 0x0A], [0x7B, 0x0D]]
    reader.items (Bytes.withReturns lines.flatten ++ [0x0D, 0x0A]) = reader.items lines.flatten ∧
    Bytes.Cut lines.flatten lines ∧ Bytes.Cut wider.flatten wider ∧ Interspersed lines wider ∧
    Renumbers reader 0 [] lines wider (reader.items lines.flatten) (reader.items wider.flatten) ∧
    reader.items lines.flatten =
      [.error (.io .notText), .error (.invalidEnvelope 1 ⟨.endInObject, 1⟩)] ∧
    reader.items wider.flatten =
      [.error (.io .notText), .error (.invalidEnvelope 2 ⟨.endInObject, 1⟩)] := by
  intro reader lines wider
  have cut : Bytes.Cut lines.flatten lines := Bytes.cut_lines lines.flatten
  have widerCut : Bytes.Cut wider.flatten wider := Bytes.cut_lines wider.flatten
  have blank : IsBlankLine [0x20, 0x09, 0x0D, 0x0A] := ⟨" \t\r\n", rfl, List.all_eq_true.mp rfl⟩
  have interspersed : Interspersed lines wider := .kept (.inserted blank (.kept .nil))
  obtain ⟨_, ended, renumbers⟩ := items_lineEnds reader lines.flatten
  exact ⟨(ended _ .returnFeed).2, cut, widerCut, interspersed,
    renumbers lines wider wider.flatten cut widerCut interspersed, rfl, rfl⟩

end MessageReader

end TopicSieve
