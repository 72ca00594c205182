import TopicSieve.Proofs.Text.Cutting
import TopicSieve.Toml.Excerpt

/-!
Excerpts from documents that differ in some characters of one line. Main statement: for the same
stretch of both, the excerpts are the same unless they show that line.
-/

namespace TopicSieve

namespace Text

theorem splitOn_cons_piece {separator : Char} {front back piece : Text} {pieces : List Text}
    (absent : separator ∉ front) (backEq : splitOn separator back = piece :: pieces) :
    splitOn separator (front ++ back) = (front ++ piece) :: pieces := by
  induction front with
  | nil => exact backEq
  | cons char front ih =>
      simp only [List.mem_cons, not_or] at absent
      rw [List.cons_append, splitOn, if_neg (Ne.symm absent.1), ih absent.2]
      rfl

theorem splitOn_between (separator : Char) (front back : Text) :
    ∃ (earlier later : List Text) (before after : Text),
      earlier.length = front.count separator ∧
      ∀ middle, separator ∉ middle → splitOn separator (front ++ (middle ++ back)) =
        earlier ++ (before ++ (middle ++ after)) :: later := by
  induction front with
  | nil =>
      obtain ⟨after, later, backEq⟩ := List.exists_cons_of_ne_nil (splitOn_ne_nil separator back)
      refine ⟨[], later, [], after, rfl, fun middle absent => ?_⟩
      rw [List.nil_append, splitOn_cons_piece absent backEq]
      rfl
  | cons char front ih =>
      obtain ⟨earlier, later, before, after, count, cutEq⟩ := ih
      by_cases isSeparator : char = separator
      · refine ⟨[] :: earlier, later, before, after, ?_, fun middle absent => ?_⟩
        · rw [List.length_cons, count, isSeparator, List.count_cons_self]
        · rw [List.cons_append, splitOn, if_pos isSeparator, cutEq middle absent, List.cons_append]
      · have countEq : (char :: front).count separator = front.count separator :=
          List.count_cons_of_ne isSeparator
        cases earlier with
        | nil =>
            refine ⟨[], later, char :: before, after, ?_, fun middle absent => ?_⟩
            · rw [countEq, ← count]
            · rw [List.cons_append, splitOn, if_neg isSeparator, cutEq middle absent]
              rfl
        | cons first earlier =>
            refine ⟨(char :: first) :: earlier, later, before, after, ?_, fun middle absent => ?_⟩
            · rw [countEq, ← count, List.length_cons, List.length_cons]
            · rw [List.cons_append, splitOn, if_neg isSeparator, cutEq middle absent]
              rfl

end Text

namespace Toml

section

variable {left right : Text}

theorem lineOf_congr (sameBreaks : left.map (· == '\n') = right.map (· == '\n')) (position : Nat) :
    lineOf left position = lineOf right position := by
  have breaks (text : Text) :
      lineOf text position = ((text.map (· == '\n')).take position).countP id := by
    rw [← List.map_take, List.countP_map]
    rfl
  rw [breaks, breaks, sameBreaks]

theorem columnOf_congr (sameBreaks : left.map (· == '\n') = right.map (· == '\n'))
    (position : Nat) : columnOf left position = columnOf right position := by
  have breaks (text : Text) : columnOf text position =
      (((text.map (· == '\n')).take position).reverse.takeWhile not).length := by
    rw [← List.map_take, ← List.map_reverse, List.takeWhile_map, List.length_map]
    rfl
  rw [breaks, breaks, sameBreaks]

end

section

variable {front old new back : Text}

theorem map_isBreak_of_not_mem {text : Text} (absent : '\n' ∉ text) :
    text.map (· == '\n') = List.replicate text.length false := by
  rw [List.eq_replicate_iff]
  refine ⟨List.length_map _, fun isBreak member => ?_⟩
  obtain ⟨char, inText, rfl⟩ := List.mem_map.mp member
  simp only [beq_eq_false_iff_ne, ne_eq]
  rintro rfl
  exact absent inText

theorem sameBreaks_between (length : old.length = new.length) (oldLine : '\n' ∉ old)
    (newLine : '\n' ∉ new) :
    (front ++ (old ++ back)).map (· == '\n') = (front ++ (new ++ back)).map (· == '\n') := by
  simp only [List.map_append, map_isBreak_of_not_mem oldLine, map_isBreak_of_not_mem newLine, length]

def shownLine (document : Text) (position : Nat) : Text :=
  ((Text.splitOn '\n' document)[lineOf document position]?).getD []

def excerptHead (index column : Nat) : Text :=
  let number := Text.ofNat (index + 1)
  "TOML parse error at line " ++ number ++ ", column " ++ Text.ofNat (column + 1) ++ "\n" ++
    (List.replicate (number.length + 1) ' ' ++ "|") ++ "\n" ++ number ++ " | "

def excerptTail (index column : Nat) (line : Text) (span : Span) (message : Text) : Text :=
  let number := Text.ofNat (index + 1)
  "\n" ++ (List.replicate (number.length + 1) ' ' ++ "|") ++ List.replicate (column + 1) ' ' ++
    List.replicate (caretCount line column span) '^' ++ "\n" ++ message ++ "\n"

theorem excerpt_eq (document : Text) (span : Span) (message : Text) :
    excerpt document span message =
      excerptHead (lineOf document span.position) (columnOf document span.position) ++
        (shownLine document span.position ++ excerptTail (lineOf document span.position)
          (columnOf document span.position) (shownLine document span.position) span message) := by
  unfold excerpt excerptHead excerptTail shownLine
  simp only [List.append_assoc]

theorem shownLine_between {position : Nat} (length : old.length = new.length)
    (oldLine : '\n' ∉ old) (newLine : '\n' ∉ new) :
    (lineOf (front ++ (old ++ back)) position ≠ front.count '\n' ∧
      shownLine (front ++ (old ++ back)) position = shownLine (front ++ (new ++ back)) position) ∨
    (lineOf (front ++ (old ++ back)) position = front.count '\n' ∧
      ∃ before after, shownLine (front ++ (old ++ back)) position = before ++ (old ++ after) ∧
        shownLine (front ++ (new ++ back)) position = before ++ (new ++ after)) := by
  have sameIndex := lineOf_congr (@sameBreaks_between front old new back length oldLine newLine)
    position
  obtain ⟨earlier, later, before, after, count, cutEq⟩ := Text.splitOn_between '\n' front back
  rw [shownLine, shownLine, ← sameIndex, cutEq old oldLine, cutEq new newLine, ← count]
  generalize lineOf (front ++ (old ++ back)) position = index
  by_cases shown : index = earlier.length
  · right
    rw [shown]
    exact ⟨rfl, before, after, by simp, by simp⟩
  · left
    refine ⟨shown, ?_⟩
    rcases Nat.lt_or_gt_of_ne shown with isEarlier | isLater
    · rw [List.getElem?_append_left isEarlier, List.getElem?_append_left isEarlier]
    · obtain ⟨beyond, indexEq⟩ : ∃ beyond, index = earlier.length + (beyond + 1) :=
        ⟨index - earlier.length - 1, by omega⟩
      rw [indexEq, List.getElem?_append_right (Nat.le_add_right _ _),
        List.getElem?_append_right (Nat.le_add_right _ _), Nat.add_sub_cancel_left]
      rfl

/-- The excerpts are the same unless the characters that differ are on the line that is shown. -/
theorem excerpt_eq_iff (length : old.length = new.length) (oldLine : '\n' ∉ old)
    (newLine : '\n' ∉ new) (span : Span) (message : Text) :
    excerpt (front ++ (old ++ back)) span message = excerpt (front ++ (new ++ back)) span message ↔
      lineOf (front ++ (old ++ back)) span.position ≠ front.count '\n' ∨ old = new := by
  have sameBreaks := @sameBreaks_between front old new back length oldLine newLine
  rw [excerpt_eq, excerpt_eq, ← lineOf_congr sameBreaks, ← columnOf_congr sameBreaks,
    List.append_cancel_left_eq]
  rcases @shownLine_between front old new back span.position length oldLine newLine with
    ⟨notShown, sameLine⟩ | ⟨shown, before, after, oldEq, newEq⟩
  · rw [sameLine]
    exact ⟨fun _ => Or.inl notShown, fun _ => rfl⟩
  · constructor
    · intro same
      have sameLine := (List.append_inj same (by simp [oldEq, newEq, length])).1
      rw [oldEq, newEq] at sameLine
      right
      simpa using sameLine
    · rintro (notShown | rfl)
      · exact absurd shown notShown
      · rfl

end

end Toml

end TopicSieve
