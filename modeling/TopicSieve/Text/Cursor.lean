import TopicSieve.Text.Basic

/-!
A place in a text that is being read: what is still unread, and how much was read before it, counted
both in characters and in bytes of the encoded text.
-/

namespace TopicSieve

structure Cursor where
  position : Nat
  offset : Nat
  rest : Text
deriving Repr, DecidableEq

namespace Cursor

def start (text : Text) : Cursor := ⟨0, 0, text⟩

def drop (count : Nat) (cursor : Cursor) : Cursor :=
  let read := cursor.rest.take count
  ⟨cursor.position + read.length, cursor.offset + Text.byteLength read, cursor.rest.drop count⟩

def takeWhile (test : Char → Bool) (cursor : Cursor) : Text × Cursor :=
  let run := cursor.rest.takeWhile test
  (run, cursor.drop run.length)

def dropWhile (test : Char → Bool) (cursor : Cursor) : Cursor := (cursor.takeWhile test).2

def next? (cursor : Cursor) : Option (Char × Cursor) :=
  match cursor.rest with
  | [] => none
  | char :: _ => some (char, cursor.drop 1)

def peek? (cursor : Cursor) : Option Char := cursor.rest.head?

/-- The cursor stands in `text` behind its first `position` characters, and `offset` is the length
of their encoded form. -/
structure IsIn (cursor : Cursor) (text : Text) : Prop where
  rest_eq : cursor.rest = text.drop cursor.position
  position_le : cursor.position ≤ text.length
  offset_eq : cursor.offset = Text.byteLength (text.take cursor.position)

theorem isIn_start (text : Text) : (start text).IsIn text :=
  ⟨rfl, Nat.zero_le _, by simp [start, Text.byteLength]⟩

theorem IsIn.drop {cursor : Cursor} {text : Text} (inText : cursor.IsIn text) (count : Nat) :
    (cursor.drop count).IsIn text := by
  obtain ⟨restEq, bound, offsetEq⟩ := inText
  have lengthEq : (cursor.rest.take count).length = min count (text.length - cursor.position) := by
    rw [restEq, List.length_take, List.length_drop]
  refine ⟨?_, ?_, ?_⟩
  · simp only [Cursor.drop, lengthEq]
    rw [restEq, List.drop_drop]
    by_cases fits : count ≤ text.length - cursor.position
    · rw [Nat.min_eq_left fits]
    · rw [Nat.min_eq_right (by omega), List.drop_eq_nil_of_le (by omega),
        List.drop_eq_nil_of_le (by omega)]
  · simp only [Cursor.drop, lengthEq]
    omega
  · have taken : text.take (cursor.position + (cursor.rest.take count).length) =
        text.take cursor.position ++ cursor.rest.take count := by
      rw [List.take_add, ← restEq, List.length_take]
      congr 1
      by_cases fits : count ≤ cursor.rest.length
      · rw [Nat.min_eq_left fits]
      · rw [Nat.min_eq_right (by omega), List.take_of_length_le (Nat.le_refl _),
          List.take_of_length_le (by omega)]
    simp only [Cursor.drop]
    rw [taken, Text.byteLength_append, offsetEq]

theorem length_drop (cursor : Cursor) (count : Nat) :
    (cursor.drop count).rest.length = cursor.rest.length - count := by
  simp [drop]

end Cursor

end TopicSieve
