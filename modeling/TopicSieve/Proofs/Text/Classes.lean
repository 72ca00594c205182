import TopicSieve.Text.Blank
import TopicSieve.Text.Letter

/-!
The classes of characters exclude each other: no white space is part of a word, and no decimal digit
is a letter.
-/

namespace TopicSieve

namespace Ranges

def apart : Ranges → Ranges → Bool
  | [], _ => true
  | (first, last) :: rest, others =>
      let ahead := others.dropWhile fun other => other.2 < first
      (ahead.head?.all fun other => last < other.1) && apart rest ahead

theorem has_dropWhile {first code : Nat} (lower : first ≤ code) {ranges : Ranges}
    (found : ranges.has code = true) :
    Ranges.has (ranges.dropWhile fun range => range.2 < first) code = true := by
  induction ranges with
  | nil => exact found
  | cons range rest ih =>
      by_cases before : range.2 < first
      · rw [List.dropWhile_cons_of_pos (by simpa using before)]
        simp only [has] at found
        split at found
        · contradiction
        · rw [if_neg (by omega)] at found
          exact ih found
      · rw [List.dropWhile_cons_of_neg (by simpa using before)]
        exact found

theorem le_of_has {range : Nat × Nat} {rest : Ranges} {code : Nat}
    (found : has (range :: rest) code = true) : range.1 ≤ code := by
  simp only [has] at found
  split at found
  · contradiction
  · omega

theorem has_eq_false_of_apart {ranges others : Ranges} (separate : apart ranges others = true)
    {code : Nat} (found : ranges.has code = true) : others.has code = false := by
  apply Bool.eq_false_iff.mpr
  intro foundToo
  induction ranges generalizing others with
  | nil => simp [has] at found
  | cons range rest ih =>
      simp only [apart, Bool.and_eq_true] at separate
      obtain ⟨headApart, restApart⟩ := separate
      have ahead := has_dropWhile (le_of_has found) foundToo
      by_cases within : code ≤ range.2
      · cases remaining : others.dropWhile fun other => other.2 < range.1 with
        | nil => simp [remaining, has] at ahead
        | cons other later =>
            rw [remaining] at ahead headApart
            have lower := le_of_has ahead
            have beyond : range.2 < other.1 := by simpa using headApart
            omega
      · have inRest : Ranges.has rest code = true := by
          have lower := le_of_has found
          simp only [has] at found
          rwa [if_neg (by omega), if_neg within] at found
        exact ih restApart inRest ahead

end Ranges

namespace Text

theorem apart_blank_letter : Ranges.apart blankRanges letterRanges = true := by decide +kernel

theorem apart_blank_decimalDigit : Ranges.apart blankRanges decimalDigitRanges = true := by
  decide +kernel

theorem apart_decimalDigit_letter : Ranges.apart decimalDigitRanges letterRanges = true := by
  decide +kernel

theorem isDecimalDigit_of_isBlank {char : Char} (blank : isBlank char = true) :
    isDecimalDigit char = false :=
  Ranges.has_eq_false_of_apart apart_blank_decimalDigit blank

theorem isWordStart_of_isBlank {char : Char} (blank : isBlank char = true) :
    isWordStart char = false := by
  have notLetter : isLetter char = false :=
    Ranges.has_eq_false_of_apart apart_blank_letter blank
  have notLine : char ≠ '_' := by
    intro same
    subst same
    exact absurd blank (by decide)
  simp [isWordStart, notLetter, notLine]

theorem isWordStart_of_isDecimalDigit {char : Char} (digit : isDecimalDigit char = true) :
    isWordStart char = false := by
  have notLetter : isLetter char = false :=
    Ranges.has_eq_false_of_apart apart_decimalDigit_letter digit
  have notLine : char ≠ '_' := by
    intro same
    subst same
    exact absurd digit (by decide)
  simp [isWordStart, notLetter, notLine]

theorem isWordChar_iff (char : Char) :
    isWordChar char = true ↔ isWordStart char = true ∨ isDecimalDigit char = true := by
  simp only [isWordChar, isWordStart, Bool.or_eq_true]
  constructor
  · rintro ((letter | digit) | line)
    · exact Or.inl (Or.inl letter)
    · exact Or.inr digit
    · exact Or.inl (Or.inr line)
  · rintro ((letter | line) | digit)
    · exact Or.inl (Or.inl letter)
    · exact Or.inr line
    · exact Or.inl (Or.inr digit)

theorem isWordChar_of_isBlank {char : Char} (blank : isBlank char = true) :
    isWordChar char = false := by
  rw [Bool.eq_false_iff, ne_eq, isWordChar_iff]
  simp [isWordStart_of_isBlank blank, isDecimalDigit_of_isBlank blank]

theorem isBlank_of_isWordChar {char : Char} (isChar : isWordChar char = true) :
    isBlank char = false := by
  rw [Bool.eq_false_iff]
  intro blank
  rw [isWordChar_of_isBlank blank] at isChar
  contradiction

end Text

end TopicSieve
