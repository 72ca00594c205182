import TopicSieve.Proofs.Text.Folding

/-!
Pieces of a folded text. A cut of a folded text lies between two characters of the text or inside a
capital I with a dot above. Main statement: a piece of a folded text is what some characters of the
text fold to, except that half of such a character may hang over at either end.
-/

namespace TopicSieve.Text

theorem lowerChar_eq_append {char : Char} {left right : Text}
    (split : lowerChar char = left ++ right) :
    left = [] ∨ right = [] ∨ char = '\u0130' ∧ left = ['i'] ∧ right = ['\u0307'] := by
  by_cases dotted : char = '\u0130'
  · rw [dotted, lowerChar_dotted] at split
    rcases List.cons_eq_append_iff.mp split with ⟨leftEq, _⟩ | ⟨later, leftEq, laterEq⟩
    · exact Or.inl leftEq
    · rcases List.singleton_eq_append_iff.mp laterEq with ⟨rfl, rightEq⟩ | ⟨_, rightEq⟩
      · exact Or.inr (Or.inr ⟨dotted, leftEq, rightEq⟩)
      · exact Or.inr (Or.inl rightEq)
  · obtain ⟨lower, lowerEq, _⟩ := lowerChar_of_ne_dotted dotted
    rw [lowerEq] at split
    rcases List.singleton_eq_append_iff.mp split with ⟨leftEq, _⟩ | ⟨_, rightEq⟩
    · exact Or.inl leftEq
    · exact Or.inr (Or.inl rightEq)

/-- Where a cut of a folded text lies in the text itself: between two characters, or inside a
capital I with a dot above. -/
inductive FoldCut (text left right : Text) : Prop
  | between (front back : Text) : text = front ++ back → fold front = left → fold back = right →
      FoldCut text left right
  | inside (front back : Text) : text = front ++ '\u0130' :: back → fold front ++ ['i'] = left →
      '\u0307' :: fold back = right → FoldCut text left right

theorem FoldCut.cons {text left right : Text} (char : Char) (cut : FoldCut text left right) :
    FoldCut (char :: text) (lowerChar char ++ left) right := by
  cases cut with
  | between front back split leftEq rightEq =>
      refine .between (char :: front) back (congrArg (char :: ·) split) ?_ rightEq
      rw [fold_cons, leftEq]
  | inside front back split leftEq rightEq =>
      refine .inside (char :: front) back (congrArg (char :: ·) split) ?_ rightEq
      rw [fold_cons, List.append_assoc, leftEq]

theorem foldCut_of_append {text left right : Text} (split : fold text = left ++ right) :
    FoldCut text left right := by
  induction text generalizing left with
  | nil =>
      obtain ⟨rfl, rfl⟩ := List.append_eq_nil_iff.mp split.symm
      exact .between [] [] rfl rfl rfl
  | cons char rest ih =>
      rw [fold_cons] at split
      rcases List.append_eq_append_iff.mp split with ⟨more, rfl, restEq⟩ | ⟨more, charEq, rfl⟩
      · exact (ih restEq).cons char
      · -- The cut touches the first character, so it splits the lower-case form of that one.
        rcases lowerChar_eq_append charEq with rfl | rfl | ⟨rfl, rfl, rfl⟩
        · exact .between [] (char :: rest) rfl rfl (by rw [fold_cons, charEq, List.nil_append])
        · refine .between [char] rest rfl ?_ rfl
          rw [fold_singleton, charEq, List.append_nil]
        · exact .inside [] rest rfl rfl rfl

theorem FoldCut.back {text left right : Text} (cut : FoldCut text left right) :
    ∃ front back lead, text = front ++ back ∧ fold back = lead ++ right ∧
      (lead = [] ∨ lead = ['i'] ∧ back.head? = some '\u0130' ∧ right.head? = some '\u0307') := by
  cases cut with
  | between front back split _ rightEq => exact ⟨front, back, [], split, rightEq, Or.inl rfl⟩
  | inside front back split _ rightEq =>
      subst rightEq
      exact ⟨front, '\u0130' :: back, ['i'], split, rfl, Or.inr ⟨rfl, rfl, rfl⟩⟩

theorem FoldCut.front {text left right : Text} (cut : FoldCut text left right) :
    ∃ front back tail, text = front ++ back ∧ fold front = left ++ tail ∧
      (tail = [] ∨
        tail = ['\u0307'] ∧ front.getLast? = some '\u0130' ∧ left.getLast? = some 'i') := by
  cases cut with
  | between front back split leftEq _ =>
      exact ⟨front, back, [], split, by rw [leftEq, List.append_nil], Or.inl rfl⟩
  | inside front back split leftEq _ =>
      subst leftEq
      have frontSplit : text = (front ++ ['\u0130']) ++ back := by
        rw [split, List.append_assoc, List.singleton_append]
      have folded : fold (front ++ ['\u0130']) = fold front ++ ['i'] ++ ['\u0307'] := by
        rw [fold_append, List.append_assoc]
        rfl
      exact ⟨front ++ ['\u0130'], back, ['\u0307'], frontSplit, folded,
        Or.inr ⟨rfl, List.getLast?_concat, List.getLast?_concat⟩⟩

theorem head?_append_left {front : Text} (nonempty : front ≠ []) (back : Text) :
    (front ++ back).head? = front.head? := by
  rw [List.head?_append, List.head?_eq_some_head nonempty, Option.some_or]

theorem getLast?_append_right {back : Text} (nonempty : back ≠ []) (front : Text) :
    (front ++ back).getLast? = back.getLast? := by
  rw [List.getLast?_append, List.getLast?_eq_some_getLast nonempty, Option.some_or]

/-- Characters of a text that show a piece of the folded text. Where the piece begins or ends inside
a capital I with a dot above, its other half hangs over. -/
structure Shows (run piece lead tail : Text) : Prop where
  fold_eq : fold run = lead ++ piece ++ tail
  front : lead = [] ∨ lead = ['i'] ∧ run.head? = some '\u0130' ∧ piece.head? = some '\u0307'
  back : tail = [] ∨ tail = ['\u0307'] ∧ run.getLast? = some '\u0130' ∧ piece.getLast? = some 'i'

theorem exists_shows_of_infix {text piece : Text} (nonempty : piece ≠ [])
    (inside : piece <:+: fold text) :
    ∃ run lead tail, run <:+: text ∧ Shows run piece lead tail := by
  obtain ⟨before, after, split⟩ := inside
  rw [List.append_assoc] at split
  obtain ⟨front, rest, lead, textEq, restEq, leadCases⟩ := (foldCut_of_append split.symm).back
  rw [← List.append_assoc] at restEq
  obtain ⟨run, behind, tail, runSplit, runEq, tailCases⟩ := (foldCut_of_append restEq).front
  have inText : run <:+: text := ⟨front, behind, by rw [textEq, runSplit, List.append_assoc]⟩
  have runNonempty : run ≠ [] := by
    intro empty
    rw [empty, fold_nil] at runEq
    have noPiece := (List.append_eq_nil_iff.mp (List.append_eq_nil_iff.mp runEq.symm).1).2
    exact nonempty noPiece
  refine ⟨run, lead, tail, inText, runEq, ?_, ?_⟩
  · rcases leadCases with none | ⟨lead, dotted, dot⟩
    · exact Or.inl none
    · rw [runSplit, head?_append_left runNonempty] at dotted
      rw [head?_append_left nonempty] at dot
      exact Or.inr ⟨lead, dotted, dot⟩
  · rcases tailCases with none | ⟨tail, dotted, letter⟩
    · exact Or.inl none
    · rw [getLast?_append_right nonempty] at letter
      exact Or.inr ⟨tail, dotted, letter⟩

end TopicSieve.Text
