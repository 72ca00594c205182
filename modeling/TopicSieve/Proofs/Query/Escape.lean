import TopicSieve.Query.Lexer

/-!
Backslashes in quoted strings. A backslash that is not escaped itself escapes the character after
it. Main statement: a quoted string is read up to the first quote that is not escaped, and its
content is what stands before that quote without the backslashes that escape.
-/

namespace TopicSieve

namespace Text

def withEscapes (escaped : Bool) : Text → List (Char × Bool)
  | [] => []
  | char :: rest => (char, escaped) :: withEscapes (char == '\\' && !escaped) rest

/-- The text without the backslashes that escape. A lone one at the end is such a backslash. -/
def unescape (text : Text) : Text :=
  ((withEscapes false text).filter fun (char, escaped) => char != '\\' || escaped).map Prod.fst

def HasUnescaped (char : Char) (text : Text) : Prop := (char, false) ∈ withEscapes false text

theorem withEscapes_cons {char : Char} (plain : char ≠ '\\') (rest : Text) :
    withEscapes false (char :: rest) = (char, false) :: withEscapes false rest := by
  have noEscape : (char == '\\') = false := beq_eq_false_iff_ne.mpr plain
  simp [withEscapes, noEscape]

theorem withEscapes_escaped (char : Char) (rest : Text) :
    withEscapes false ('\\' :: char :: rest) =
      ('\\', false) :: (char, true) :: withEscapes false rest := by
  simp [withEscapes]

@[simp] theorem unescape_nil : unescape [] = [] := rfl

@[simp] theorem unescape_backslash : unescape ['\\'] = [] := by
  simp [unescape, withEscapes]

@[simp] theorem unescape_escaped (char : Char) (rest : Text) :
    unescape ('\\' :: char :: rest) = char :: unescape rest := by
  simp [unescape, withEscapes_escaped]

theorem unescape_cons {char : Char} (plain : char ≠ '\\') (rest : Text) :
    unescape (char :: rest) = char :: unescape rest := by
  simp [unescape, withEscapes_cons plain, plain]

theorem unescape_of_not_mem {text : Text} (plain : '\\' ∉ text) : unescape text = text := by
  induction text with
  | nil => rfl
  | cons char rest ih =>
      simp only [List.mem_cons, not_or] at plain
      rw [unescape_cons (Ne.symm plain.1), ih plain.2]

theorem count_unescape {char : Char} (different : char ≠ '\\') (text : Text) :
    (unescape text).count char = text.count char := by
  have kept (escaped : Bool) : (((withEscapes escaped text).filter
      fun (char, escaped) => char != '\\' || escaped).map Prod.fst).count char =
        text.count char := by
    induction text generalizing escaped with
    | nil => rfl
    | cons head rest ih =>
        have later := ih (head == '\\' && !escaped)
        by_cases leftOut : head = '\\' ∧ escaped = false
        · obtain ⟨rfl, rfl⟩ := leftOut
          simpa [withEscapes, Ne.symm different] using later
        · have stays : (head != '\\' || escaped) = true := by
            cases escaped with
            | true => simp
            | false => simpa using leftOut
          simp only [withEscapes, List.filter_cons, stays, if_true, List.map_cons, List.count_cons,
            later]
  exact kept false

@[simp] theorem not_hasUnescaped_nil (char : Char) : ¬ HasUnescaped char [] := by
  simp [HasUnescaped, withEscapes]

theorem hasUnescaped_escaped {quote : Char} (different : quote ≠ '\\') (char : Char) (rest : Text) :
    HasUnescaped quote ('\\' :: char :: rest) ↔ HasUnescaped quote rest := by
  simp [HasUnescaped, withEscapes_escaped, different]

theorem hasUnescaped_backslash {quote : Char} (different : quote ≠ '\\') :
    ¬ HasUnescaped quote ['\\'] := by
  simp [HasUnescaped, withEscapes, different]

theorem hasUnescaped_cons {char : Char} (plain : char ≠ '\\') (quote : Char) (rest : Text) :
    HasUnescaped quote (char :: rest) ↔ quote = char ∨ HasUnescaped quote rest := by
  simp [HasUnescaped, withEscapes_cons plain]

theorem withEscapes_append (escaped : Bool) (front back : Text) :
    ∃ later, withEscapes escaped (front ++ back) =
      withEscapes escaped front ++ withEscapes later back := by
  induction front generalizing escaped with
  | nil => exact ⟨escaped, rfl⟩
  | cons char rest ih =>
      obtain ⟨later, restEq⟩ := ih (char == '\\' && !escaped)
      exact ⟨later, congrArg ((char, escaped) :: ·) restEq⟩

theorem HasUnescaped.append {char : Char} {front : Text} (found : HasUnescaped char front)
    (back : Text) : HasUnescaped char (front ++ back) := by
  obtain ⟨later, split⟩ := withEscapes_append false front back
  rw [HasUnescaped, split]
  exact List.mem_append_left _ found

end Text

namespace QuotedString

structure ClosesAfter (quote : Char) (body : Text) : Prop where
  none_before : ¬ Text.HasUnescaped quote body
  closing : Text.HasUnescaped quote (body ++ [quote])

theorem closesAfter_nil {quote : Char} (different : quote ≠ '\\') : ClosesAfter quote [] := by
  refine ⟨Text.not_hasUnescaped_nil quote, ?_⟩
  rw [List.nil_append, Text.hasUnescaped_cons different]
  exact Or.inl rfl

theorem ClosesAfter.escaped {quote : Char} {body : Text} (closes : ClosesAfter quote body)
    (different : quote ≠ '\\') (char : Char) : ClosesAfter quote ('\\' :: char :: body) := by
  constructor
  · rw [Text.hasUnescaped_escaped different]
    exact closes.none_before
  · rw [List.cons_append, List.cons_append, Text.hasUnescaped_escaped different]
    exact closes.closing

theorem ClosesAfter.cons {quote char : Char} {body : Text} (closes : ClosesAfter quote body)
    (plain : char ≠ '\\') (notQuote : char ≠ quote) : ClosesAfter quote (char :: body) := by
  constructor
  · rw [Text.hasUnescaped_cons plain]
    rintro (same | later)
    · exact notQuote same.symm
    · exact closes.none_before later
  · rw [List.cons_append, Text.hasUnescaped_cons plain]
    exact Or.inr closes.closing

theorem closesAfter_of_not_mem {quote : Char} {body : Text} (different : quote ≠ '\\')
    (plain : '\\' ∉ body) (absent : quote ∉ body) : ClosesAfter quote body := by
  induction body with
  | nil => exact closesAfter_nil different
  | cons char rest ih =>
      simp only [List.mem_cons, not_or] at plain absent
      exact (ih plain.2 absent.2).cons (Ne.symm plain.1) (Ne.symm absent.1)

/-- A quoted string ends with the first quote that is not escaped, or with the text if there is no
such quote. -/
theorem read_cases {quote : Char} (different : quote ≠ '\\') (text : Text) :
    (∃ body after, text = body ++ quote :: after ∧ ClosesAfter quote body ∧
      read quote text = ⟨Text.unescape body, body ++ [quote], after⟩) ∨
    (¬ Text.HasUnescaped quote text ∧ read quote text = ⟨Text.unescape text, text, []⟩) := by
  fun_induction read quote text with
  | case1 => exact Or.inr ⟨Text.not_hasUnescaped_nil quote, rfl⟩
  | case2 char ends =>
      rcases ends with backslash | closing
      · subst backslash
        exact Or.inr ⟨Text.hasUnescaped_backslash different, by rw [Text.unescape_backslash]⟩
      · subst closing
        exact Or.inl ⟨[], [], rfl, closesAfter_nil different, rfl⟩
  | case3 char continues =>
      obtain ⟨plain, notQuote⟩ := not_or.mp continues
      refine Or.inr ⟨?_, by rw [Text.unescape_cons plain, Text.unescape_nil]⟩
      rw [Text.hasUnescaped_cons plain]
      rintro (same | later)
      · exact notQuote same.symm
      · exact Text.not_hasUnescaped_nil quote later
  | case4 next rest tail ih =>
      rcases ih with ⟨body, after, restEq, closes, tailEq⟩ | ⟨unclosed, tailEq⟩
      · refine Or.inl ⟨'\\' :: next :: body, after, by simp [restEq], closes.escaped different next, ?_⟩
        simp [tail, tailEq]
      · refine Or.inr ⟨?_, by simp [tail, tailEq]⟩
        rwa [Text.hasUnescaped_escaped different]
  | case5 next rest notEscape =>
      exact Or.inl ⟨[], next :: rest, rfl, closesAfter_nil different, rfl⟩
  | case6 char next rest plain notQuote tail ih =>
      rcases ih with ⟨body, after, restEq, closes, tailEq⟩ | ⟨unclosed, tailEq⟩
      · refine Or.inl ⟨char :: body, after, by simp [restEq], closes.cons plain notQuote, ?_⟩
        simp [tail, tailEq, Text.unescape_cons plain]
      · refine Or.inr ⟨?_, by simp [tail, tailEq, Text.unescape_cons plain]⟩
        rw [Text.hasUnescaped_cons plain]
        rintro (same | later)
        · exact notQuote same.symm
        · exact unclosed later

theorem ClosesAfter.hasUnescaped {quote : Char} {body : Text} (closes : ClosesAfter quote body)
    (after : Text) : Text.HasUnescaped quote (body ++ quote :: after) := by
  have appended := closes.closing.append after
  rwa [List.append_assoc, List.singleton_append] at appended

theorem ClosesAfter.unique {quote : Char} {body other after rest : Text}
    (closes : ClosesAfter quote body) (closesToo : ClosesAfter quote other)
    (same : body ++ quote :: after = other ++ quote :: rest) : body = other := by
  rcases List.append_eq_append_iff.mp same with ⟨between, rfl, split⟩ | ⟨between, rfl, split⟩
  · cases between with
    | nil => exact (List.append_nil body).symm
    | cons first more =>
        obtain ⟨rfl, _⟩ := List.cons.inj split
        exact absurd (closes.hasUnescaped more) closesToo.none_before
  · cases between with
    | nil => exact List.append_nil other
    | cons first more =>
        obtain ⟨rfl, _⟩ := List.cons.inj split
        exact absurd (closesToo.hasUnescaped more) closes.none_before

theorem read_of_closesAfter {quote : Char} (different : quote ≠ '\\') {body : Text}
    (closes : ClosesAfter quote body) (after : Text) :
    read quote (body ++ quote :: after) = ⟨Text.unescape body, body ++ [quote], after⟩ := by
  rcases read_cases different (body ++ quote :: after) with
    ⟨other, rest, split, closesToo, readEq⟩ | ⟨unclosed, _⟩
  · have sameBody := closes.unique closesToo split
    subst sameBody
    obtain ⟨_, sameRest⟩ := List.cons.inj (List.append_cancel_left split)
    rw [readEq, sameRest]
  · exact absurd (closes.hasUnescaped after) unclosed

theorem read_of_unclosed {quote : Char} (different : quote ≠ '\\') {text : Text}
    (unclosed : ¬ Text.HasUnescaped quote text) :
    read quote text = ⟨Text.unescape text, text, []⟩ := by
  rcases read_cases different text with ⟨body, after, rfl, closes, _⟩ | ⟨_, readEq⟩
  · exact absurd (closes.hasUnescaped after) unclosed
  · exact readEq

end QuotedString

end TopicSieve
