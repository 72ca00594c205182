import TopicSieve.Proofs.Text.Cutting
import TopicSieve.Text.Cursor

/-!
What a cursor does in front of text of a known shape.
-/

namespace TopicSieve.Cursor

variable {cursor : Cursor} {char : Char} {rest run back : Text} {test : Char → Bool}

theorem next?_of_cons (restEq : cursor.rest = char :: rest) :
    cursor.next? = some (char, cursor.drop 1) := by
  rw [next?, restEq]

theorem peek?_of_cons (restEq : cursor.rest = char :: rest) : cursor.peek? = some char := by
  rw [peek?, restEq, List.head?_cons]

theorem rest_drop_one (restEq : cursor.rest = char :: rest) : (cursor.drop 1).rest = rest := by
  rw [drop, restEq, List.drop_succ_cons, List.drop_zero]

theorem rest_drop_length (restEq : cursor.rest = run ++ back) :
    (cursor.drop run.length).rest = back := by
  rw [drop, restEq, List.drop_left]

theorem drop_drop (cursor : Cursor) (count more : Nat) :
    (cursor.drop count).drop more = cursor.drop (count + more) := by
  simp only [drop, List.drop_drop, List.take_add, List.length_append, Text.byteLength_append,
    Nat.add_assoc]

theorem takeWhile_of_run (restEq : cursor.rest = run ++ back)
    (holds : ∀ char ∈ run, test char = true)
    (ends : ∀ next, back.head? = some next → test next = false) :
    cursor.takeWhile test = (run, cursor.drop run.length) := by
  rw [takeWhile, restEq, Text.takeWhile_run holds ends]

theorem rest_dropWhile_of_run (restEq : cursor.rest = run ++ back)
    (holds : ∀ char ∈ run, test char = true)
    (ends : ∀ next, back.head? = some next → test next = false) :
    (cursor.dropWhile test).rest = back := by
  rw [dropWhile, takeWhile_of_run restEq holds ends]
  exact rest_drop_length restEq

theorem dropWhile_of_head (ends : ∀ next, cursor.rest.head? = some next → test next = false) :
    cursor.dropWhile test = cursor := by
  have nothing : ∀ char ∈ ([] : Text), test char = true := by simp
  rw [dropWhile, takeWhile_of_run (List.nil_append cursor.rest).symm nothing ends]
  simp [drop, Text.byteLength]

theorem dropWhile_of_pos (restEq : cursor.rest = char :: rest) (holds : test char = true) :
    cursor.dropWhile test = (cursor.drop 1).dropWhile test := by
  rw [dropWhile, dropWhile, takeWhile, takeWhile, rest_drop_one restEq, drop_drop, restEq,
    List.takeWhile_cons_of_pos holds, List.length_cons, Nat.add_comm]

theorem rest_drop (cursor : Cursor) (count : Nat) :
    (cursor.drop count).rest = cursor.rest.drop count := rfl

theorem position_drop (restEq : cursor.rest = run ++ back) :
    (cursor.drop run.length).position = cursor.position + run.length := by
  simp [drop, restEq]

theorem rest_dropWhile (cursor : Cursor) (test : Char → Bool) :
    (cursor.dropWhile test).rest = cursor.rest.dropWhile test :=
  Text.drop_length_takeWhile test cursor.rest

theorem position_dropWhile (cursor : Cursor) (test : Char → Bool) :
    (cursor.dropWhile test).position =
      cursor.position + (cursor.rest.takeWhile test).length :=
  position_drop List.takeWhile_append_dropWhile.symm

theorem dropWhile_dropWhile (cursor : Cursor) (test : Char → Bool) :
    (cursor.dropWhile test).dropWhile test = cursor.dropWhile test := by
  apply dropWhile_of_head
  intro next isNext
  rw [rest_dropWhile] at isNext
  exact Text.of_head?_dropWhile isNext

end TopicSieve.Cursor
