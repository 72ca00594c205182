import TopicSieve.Message.Reader
import TopicSieve.Proofs.Text.Cutting
import TopicSieve.Proofs.Text.Utf8

/-!
The items of an input, told line by line. What a line gives depends on the line and on how many of
the lines before it are text, and how many of these hold a record. Main statement: every line gives
its own items, in order, and the two numbers are exact behind lines of every kind.
-/

namespace TopicSieve

namespace Bytes

/-- `Cut input lines`: the lines end behind the line feeds of the input. The last one may do without,
but is not empty. -/
inductive Cut : Bytes → List Bytes → Prop
  | nil : Cut [] []
  | last {line} : line ≠ [] → 0x0A ∉ line → Cut line [line]
  | cons {front rest lines} : 0x0A ∉ front → Cut rest lines →
      Cut (front ++ 0x0A :: rest) ((front ++ [0x0A]) :: lines)

theorem Cut.eq_nil {input : Bytes} (cut : Cut input []) : input = [] := by
  cases cut
  rfl

theorem Cut.grow {byte : UInt8} {rest line : Bytes} {more : List Bytes} (inLine : byte ≠ 0x0A)
    (cut : Cut rest (line :: more)) : Cut (byte :: rest) ((byte :: line) :: more) := by
  cases cut with
  | last _ absent =>
      refine .last (List.cons_ne_nil byte rest) ?_
      simp [absent, Ne.symm inLine]
  | @cons front back _ absent cut =>
      have grown : 0x0A ∉ byte :: front := by simp [absent, Ne.symm inLine]
      exact .cons grown cut

theorem cut_lines (input : Bytes) : Cut input (lines input) := by
  induction input with
  | nil => exact .nil
  | cons byte rest ih =>
      rw [lines]
      by_cases ends : byte = 0x0A
      · rw [if_pos ends, ends]
        exact .cons (List.not_mem_nil) ih
      · rw [if_neg ends]
        cases linesEq : lines rest with
        | nil =>
            rw [linesEq] at ih
            rw [ih.eq_nil]
            exact .last (List.cons_ne_nil byte []) (by simp [Ne.symm ends])
        | cons line more =>
            rw [linesEq] at ih
            exact ih.grow ends

end Bytes

def IsText (line : Bytes) : Prop := ∃ text, Utf8.encode text = line

def HoldsRecord (line : Bytes) : Prop :=
  ∃ text, Utf8.encode text = line ∧ ∃ char ∈ text, Text.isBlank char = false

theorem isText_iff (line : Bytes) : IsText line ↔ (Utf8.decode? line).isSome = true := by
  simp only [IsText, ← Utf8.decode?_eq_some_iff, Option.isSome_iff_exists]

theorem holdsRecord_iff (line : Bytes) : HoldsRecord line ↔
    (Utf8.decode? line).any (fun text => text.any fun char => !Text.isBlank char) = true := by
  simp [HoldsRecord, ← Utf8.decode?_eq_some_iff, Option.any_eq_true]

instance (line : Bytes) : Decidable (IsText line) := decidable_of_iff' _ (isText_iff line)

instance (line : Bytes) : Decidable (HoldsRecord line) :=
  decidable_of_iff' _ (holdsRecord_iff line)

theorem HoldsRecord.isText {line : Bytes} (holds : HoldsRecord line) : IsText line := by
  obtain ⟨text, encoded, _⟩ := holds
  exact ⟨text, encoded⟩

theorem holdsRecord_encode_iff (text : Text) :
    HoldsRecord (Utf8.encode text) ↔ Text.trim text ≠ [] := by
  rw [holdsRecord_iff, (Utf8.decode?_eq_some_iff _ text).mpr rfl, ne_eq, Text.trim_eq_nil_iff]
  simp

section

variable {kind : Bytes → Prop} [DecidablePred kind] {line : Bytes}

theorem countP_concat_of (holds : kind line) (earlier : List Bytes) :
    (earlier ++ [line]).countP (kind ·) = earlier.countP (kind ·) + 1 := by
  simp [List.countP_append, holds]

theorem countP_concat_of_not (fails : ¬ kind line) (earlier : List Bytes) :
    (earlier ++ [line]).countP (kind ·) = earlier.countP (kind ·) := by
  simp [List.countP_append, fails]

end

namespace MessageReader

variable (reader : MessageReader)

inductive Decoded (line index : Nat) (body : Text) : Item → Prop
  | body : reader.format = .lines →
      Decoded line index body (.ok ⟨reader.topic, 0, index, none, [], some body⟩)
  | envelope {envelope} : reader.format = .jsonl → Envelope.read body = .ok envelope →
      Decoded line index body
        (.ok ⟨envelope.topic.getD reader.topic, envelope.partition, envelope.offset.getD index,
          envelope.timestamp, envelope.headers.getD [], envelope.value⟩)
  | invalid {fault} : reader.format = .jsonl → Envelope.read body = .error fault →
      Decoded line index body (.error (.invalidEnvelope line fault))

inductive LineItems (earlier : List Bytes) (line : Bytes) : List Item → Prop
  | notText : ¬ IsText line → LineItems earlier line [.error (.io .notText)]
  | blank {text} : Utf8.encode text = line → (∀ char ∈ text, Text.isBlank char = true) →
      LineItems earlier line []
  | record {body ends item} : HoldsRecord line → Utf8.encode (body ++ ends) = line →
      (∀ char ∈ ends, char = '\r' ∨ char = '\n') →
      (∀ last ∈ body.getLast?, last ≠ '\r' ∧ last ≠ '\n') →
      Decoded reader (earlier.countP (IsText ·) + 1) (earlier.countP (HoldsRecord ·)) body item →
      LineItems earlier line [item]

/-- `Reads reader earlier lines items`: behind the earlier lines, each of the lines gives its own
items. -/
inductive Reads : List Bytes → List Bytes → List Item → Prop
  | nil {earlier} : Reads earlier [] []
  | cons {earlier line rest own items} : LineItems reader earlier line own →
      Reads (earlier ++ [line]) rest items → Reads earlier (line :: rest) (own ++ items)

theorem decode_decoded (line index : Nat) (body : Text) :
    Decoded reader line index body (reader.decode line index body) := by
  rw [decode]
  cases format : reader.format with
  | lines => exact .body format
  | jsonl =>
      cases readEq : Envelope.read body with
      | ok envelope => exact .envelope format readEq
      | error fault => exact .invalid format readEq

theorem itemsFrom_step (earlier : List Bytes) (line : Bytes) : ∃ own,
    LineItems reader earlier line own ∧
    ∀ rest, reader.itemsFrom (earlier.countP (IsText ·)) (earlier.countP (HoldsRecord ·))
        (line :: rest) =
      own ++ reader.itemsFrom ((earlier ++ [line]).countP (IsText ·))
        ((earlier ++ [line]).countP (HoldsRecord ·)) rest := by
  cases decoded : Utf8.decode? line with
  | none =>
      have notText : ¬ IsText line := by simp [isText_iff, decoded]
      have noRecord : ¬ HoldsRecord line := fun holds => notText holds.isText
      refine ⟨_, .notText notText, ?_⟩
      intro rest
      rw [countP_concat_of_not notText, countP_concat_of_not noRecord, itemsFrom, decoded]
      rfl
  | some text =>
      have encoded := (Utf8.decode?_eq_some_iff line text).mp decoded
      have isText : IsText line := ⟨text, encoded⟩
      have holdsIff : HoldsRecord line ↔ Text.trim text ≠ [] := by
        rw [← encoded, holdsRecord_encode_iff]
      by_cases blank : Text.trim text = []
      · have noRecord : ¬ HoldsRecord line := fun holds => holdsIff.mp holds blank
        refine ⟨_, .blank encoded ((Text.trim_eq_nil_iff text).mp blank), ?_⟩
        intro rest
        rw [countP_concat_of isText, countP_concat_of_not noRecord, itemsFrom, decoded]
        simp [blank]
      · have holds : HoldsRecord line := holdsIff.mpr blank
        obtain ⟨ends, split, endsEq, lastEq⟩ := Text.dropEndWhile_split isLineEnd text
        refine ⟨_, .record holds (split ▸ encoded) ?_ ?_ (decode_decoded reader _ _ _), ?_⟩
        · intro char member
          simpa [isLineEnd] using endsEq char member
        · intro last isLast
          simpa [isLineEnd] using lastEq last isLast
        · intro rest
          rw [countP_concat_of isText, countP_concat_of holds, itemsFrom, decoded]
          simp [blank]

theorem itemsFrom_reads (earlier lines : List Bytes) :
    Reads reader earlier lines (reader.itemsFrom (earlier.countP (IsText ·))
      (earlier.countP (HoldsRecord ·)) lines) := by
  induction lines generalizing earlier with
  | nil => exact .nil
  | cons line rest ih =>
      obtain ⟨own, lineItems, stepEq⟩ := itemsFrom_step reader earlier line
      rw [stepEq]
      exact .cons lineItems (ih (earlier ++ [line]))

/-- The items of an input are those of its lines. -/
theorem items_reads (input : Bytes) :
    ∃ lines, Bytes.Cut input lines ∧ Reads reader [] lines (reader.items input) :=
  ⟨input.lines, Bytes.cut_lines input, itemsFrom_reads reader [] input.lines⟩

end MessageReader

end TopicSieve
