import TopicSieve.Proofs.Query.Accounting
import TopicSieve.Proofs.Query.Names

/-!
Which characters of a query stand outside quoted strings, told one character at a time and without
tokens. Main statement: the punctuation of a query, and what is reported about its parentheses, is
what stands outside.
-/

namespace TopicSieve

/-- Where a place in a query lies: outside quoted strings, inside one that this quote opened, or
inside one and behind a backslash. -/
inductive Quotation where
  | outside
  | inside (quote : Char)
  | escaped (quote : Char)
deriving Repr, DecidableEq

namespace Quotation

def next : Quotation → Char → Quotation
  | outside, char => if char = '"' ∨ char = '\'' then inside char else outside
  | inside quote, char =>
      if char = '\\' then escaped quote else if char = quote then outside else inside quote
  | escaped quote, _ => inside quote

def run (state : Quotation) (text : Text) : Quotation := text.foldl next state

def outsideFrom (index : Nat) (state : Quotation) : Text → List (Char × Nat)
  | [] => []
  | char :: rest =>
      let later := outsideFrom (index + 1) (state.next char) rest
      if state = outside then (char, index) :: later else later

theorem run_append (state : Quotation) (front back : Text) :
    state.run (front ++ back) = (state.run front).run back :=
  List.foldl_append

theorem outsideFrom_append (index : Nat) (state : Quotation) (front back : Text) :
    outsideFrom index state (front ++ back) =
      outsideFrom index state front ++
        outsideFrom (index + front.length) (state.run front) back := by
  induction front generalizing index state with
  | nil => rfl
  | cons char rest ih =>
      have places : index + 1 + rest.length = index + (char :: rest).length := by
        rw [List.length_cons]
        omega
      have runEq : state.run (char :: rest) = (state.next char).run rest := rfl
      simp only [List.cons_append, outsideFrom, ih, places, runEq]
      split
      · rfl
      · rfl

def within (quote : Char) : Bool → Quotation
  | true => escaped quote
  | false => inside quote

theorem within_ne_outside (quote : Char) (isEscaped : Bool) : within quote isEscaped ≠ outside := by
  cases isEscaped <;> simp [within]

theorem next_within {quote char : Char} {isEscaped : Bool}
    (goesOn : ¬ (char = quote ∧ isEscaped = false)) :
    (within quote isEscaped).next char = within quote (char == '\\' && !isEscaped) := by
  cases isEscaped with
  | true => simp [within, next]
  | false =>
      have different : char ≠ quote := fun same => goesOn ⟨same, rfl⟩
      by_cases backslash : char = '\\'
      · simp [within, next, backslash]
      · have noEscape : (char == '\\') = false := beq_eq_false_iff_ne.mpr backslash
        simp [within, next, backslash, different, noEscape]

theorem run_within {quote : Char} {isEscaped : Bool} {body : Text}
    (goesOn : (quote, false) ∉ Text.withEscapes isEscaped body) (index : Nat) :
    outsideFrom index (within quote isEscaped) body = [] ∧
    ∃ last, (within quote isEscaped).run body = within quote last ∧
      ∀ char, Text.withEscapes isEscaped (body ++ [char]) =
        Text.withEscapes isEscaped body ++ [(char, last)] := by
  induction body generalizing isEscaped index with
  | nil => exact ⟨rfl, isEscaped, rfl, fun _ => rfl⟩
  | cons char rest ih =>
      simp only [Text.withEscapes, List.mem_cons, not_or, Prod.mk.injEq] at goesOn
      obtain ⟨notHere, notLater⟩ := goesOn
      have nextEq : (within quote isEscaped).next char =
          within quote (char == '\\' && !isEscaped) := by
        apply next_within
        rintro ⟨rfl, rfl⟩
        exact notHere ⟨rfl, rfl⟩
      obtain ⟨nothing, last, runEq, escapesEq⟩ := ih notLater (index + 1)
      refine ⟨?_, last, ?_, ?_⟩
      · rw [outsideFrom, nextEq, nothing, if_neg (within_ne_outside quote isEscaped)]
      · rw [run, List.foldl_cons, nextEq]
        exact runEq
      · intro final
        rw [List.cons_append, Text.withEscapes, escapesEq, Text.withEscapes, List.cons_append]

theorem run_closed {quote : Char} {body : Text} (different : quote ≠ '\\')
    (closes : QuotedString.ClosesAfter quote body) (index : Nat) :
    outsideFrom index (inside quote) (body ++ [quote]) = [] ∧
    (inside quote).run (body ++ [quote]) = outside := by
  have start : inside quote = within quote false := rfl
  obtain ⟨nothing, last, runEq, escapesEq⟩ := run_within closes.none_before index
  have closing := closes.closing
  rw [Text.HasUnescaped, escapesEq, List.mem_append] at closing
  have plain : last = false := by
    rcases closing with before | atEnd
    · exact absurd before closes.none_before
    · simpa using atEnd
  subst plain
  constructor
  · rw [start, outsideFrom_append, nothing, runEq]
    rfl
  · rw [start, run_append, runEq]
    simp [within, run, next, different]

theorem run_unclosed {quote : Char} {body : Text} (unclosed : ¬ Text.HasUnescaped quote body)
    (index : Nat) :
    outsideFrom index (inside quote) body = [] ∧ (inside quote).run body ≠ outside := by
  have start : inside quote = within quote false := rfl
  obtain ⟨nothing, last, runEq, _⟩ := run_within unclosed index
  rw [start, runEq]
  exact ⟨nothing, within_ne_outside quote last⟩

theorem next_quote {quote : Char} (isQuote : IsQuote quote) : outside.next quote = inside quote :=
  if_pos isQuote

end Quotation

def marks : List (Char × TokenKind) :=
  [('(', .parenthesisOpen), (')', .parenthesisClose), (',', .comma), ('=', .equals)]

def TokenKind.IsMark (kind : TokenKind) : Prop := kind ∈ marks.map Prod.snd

instance (kind : TokenKind) : Decidable kind.IsMark :=
  inferInstanceAs (Decidable (kind ∈ marks.map Prod.snd))

def markAt? : Char × Nat → Option Token
  | (char, index) => (marks.lookup char).map fun kind => ⟨kind, [char], index⟩

theorem punctuation?_eq_lookup (char : Char) : punctuation? char = marks.lookup char := by
  unfold punctuation?
  split
  case h_5 notOpen notClose notComma notEquals =>
    simp only [marks, List.lookup_cons, beq_eq_false_iff_ne.mpr notOpen,
      beq_eq_false_iff_ne.mpr notClose, beq_eq_false_iff_ne.mpr notComma,
      beq_eq_false_iff_ne.mpr notEquals, List.lookup_nil]
  all_goals rfl

theorem isMark_of_punctuation? {char : Char} {kind : TokenKind}
    (known : punctuation? char = some kind) : kind.IsMark := by
  unfold punctuation? at known
  split at known <;> cases known <;> decide

theorem not_isMark_wordKind {word : Text} (isWord : Text.IsWord word) (after : Text) :
    ¬ (wordKind word after).IsMark := by
  intro isMark
  obtain ⟨first, more, rfl, start, _⟩ := isWord
  have spelled := Token.spells_wordKind ⟨first, more, rfl, start, ‹_›⟩ after
  generalize wordKind (first :: more) after = kind at isMark spelled
  simp only [TokenKind.IsMark, marks, List.map_cons, List.map_nil, List.mem_cons,
    List.not_mem_nil, or_false] at isMark
  rcases isMark with rfl | rfl | rfl | rfl
  all_goals
    cases spelled
    exact absurd start (by decide)

def IsPlain (char : Char) : Prop := ¬ IsQuote char ∧ punctuation? char = none

theorem isPlain_of_isBlank {char : Char} (blank : Text.isBlank char = true) : IsPlain char := by
  constructor
  · intro isQuote
    rw [isQuote.isBlank] at blank
    contradiction
  · unfold punctuation?
    split
    case h_5 => rfl
    all_goals contradiction

theorem isPlain_of_isWordChar {char : Char} (isChar : Text.isWordChar char = true) :
    IsPlain char := by
  have inRun := (Text.isWordChar_iff char).mp isChar
  exact ⟨TokenForm.not_isQuote inRun, TokenForm.punctuation?_eq_none inRun⟩

namespace Quotation

def marksFrom (index : Nat) (state : Quotation) (text : Text) : List Token :=
  (outsideFrom index state text).filterMap markAt?

theorem marksFrom_append (index : Nat) (state : Quotation) (front back : Text) :
    marksFrom index state (front ++ back) =
      marksFrom index state front ++ marksFrom (index + front.length) (state.run front) back := by
  rw [marksFrom, outsideFrom_append, List.filterMap_append]
  rfl

theorem run_plain {text : Text} (plain : ∀ char ∈ text, IsPlain char) (index : Nat) :
    outside.run text = outside ∧ marksFrom index outside text = [] := by
  induction text generalizing index with
  | nil => exact ⟨rfl, rfl⟩
  | cons char rest ih =>
      obtain ⟨⟨notQuote, noMark⟩, restPlain⟩ := List.forall_mem_cons.mp plain
      obtain ⟨runEq, nothing⟩ := ih restPlain (index + 1)
      have nextEq : outside.next char = outside := if_neg notQuote
      constructor
      · rw [run, List.foldl_cons, nextEq]
        exact runEq
      · rw [punctuation?_eq_lookup] at noMark
        rw [marksFrom] at nothing
        simp [marksFrom, outsideFrom, nextEq, markAt?, noMark, nothing]

theorem run_blank {gap : Text} (blank : ∀ char ∈ gap, Text.isBlank char = true) (index : Nat) :
    outside.run gap = outside ∧ marksFrom index outside gap = [] :=
  run_plain (fun char member => isPlain_of_isBlank (blank char member)) index

theorem run_word {word : Text} (chars : ∀ char ∈ word, Text.isWordChar char = true) (index : Nat) :
    outside.run word = outside ∧ marksFrom index outside word = [] :=
  run_plain (fun char member => isPlain_of_isWordChar (chars char member)) index

theorem run_quote {quote : Char} (isQuote : IsQuote quote) (body : Text) :
    outside.run (quote :: body) = (inside quote).run body := by
  rw [run, List.foldl_cons, next_quote isQuote]
  rfl

theorem marksFrom_quote {quote : Char} (isQuote : IsQuote quote) (index : Nat) (body : Text) :
    marksFrom index outside (quote :: body) =
      (outsideFrom (index + 1) (inside quote) body).filterMap markAt? := by
  have noMark := TokenForm.punctuation?_of_isQuote isQuote
  rw [punctuation?_eq_lookup] at noMark
  simp [marksFrom, outsideFrom, next_quote isQuote, markAt?, noMark]

end Quotation

def IsUnclosed (source : Text) : Prop :=
  ∃ quote body, source = quote :: body ∧ IsQuote quote ∧ ¬ Text.HasUnescaped quote body

theorem IsUnclosed.run_ne_outside {source : Text} (unclosed : IsUnclosed source) :
    Quotation.outside.run source ≠ .outside := by
  obtain ⟨quote, body, rfl, isQuote, none⟩ := unclosed
  rw [Quotation.run_quote isQuote]
  exact (Quotation.run_unclosed none 0).2

namespace TokenForm

variable {kind : TokenKind} {value source after : Text}

theorem quotation (form : TokenForm kind value source after) (index : Nat) :
    Quotation.marksFrom index .outside source =
      (if kind.IsMark then [⟨kind, value, index⟩] else []) ∧
    (Quotation.outside.run source = .outside ∨ after = [] ∧ IsUnclosed source) := by
  cases form with
  | @punctuation char _ _ known =>
      have isMark := isMark_of_punctuation? known
      have nextEq : Quotation.outside.next char = .outside := if_neg (punctuation?_eq_some known).1
      rw [punctuation?_eq_lookup] at known
      refine ⟨?_, Or.inl nextEq⟩
      simp [Quotation.marksFrom, Quotation.outsideFrom, markAt?, known, isMark]
  | @closed quote body _ isQuote closes =>
      obtain ⟨nothing, runEq⟩ := Quotation.run_closed isQuote.ne_backslash closes (index + 1)
      refine ⟨?_, Or.inl ?_⟩
      · rw [Quotation.marksFrom_quote isQuote, nothing]
        rfl
      · rw [Quotation.run_quote isQuote, runEq]
  | @unclosed quote body isQuote unclosed =>
      have nothing := (Quotation.run_unclosed unclosed (index + 1)).1
      refine ⟨?_, Or.inr ⟨rfl, quote, body, rfl, isQuote, unclosed⟩⟩
      rw [Quotation.marksFrom_quote isQuote, nothing]
      rfl
  | @word first more _ start chars =>
      have isChar := (Text.isWordChar_iff first).mpr (Or.inl start)
      obtain ⟨runEq, nothing⟩ := Quotation.run_word (List.forall_mem_cons.mpr ⟨isChar, chars⟩) index
      rw [nothing, if_neg (not_isMark_wordKind ⟨first, more, rfl, start, chars⟩ after)]
      exact ⟨rfl, Or.inl runEq⟩
  | @number first more _ digit digits =>
      have isChar : ∀ char ∈ first :: more, Text.isWordChar char = true := by
        intro char member
        rw [Text.isWordChar_iff]
        rcases List.mem_cons.mp member with rfl | inMore
        · exact Or.inr digit
        · exact Or.inr (digits char inMore)
      obtain ⟨runEq, nothing⟩ := Quotation.run_word isChar index
      exact ⟨nothing, Or.inl runEq⟩
  | @unknown char _ notPunctuation notQuote =>
      obtain ⟨runEq, nothing⟩ := Quotation.run_plain
        (List.forall_mem_singleton.mpr ⟨notQuote, notPunctuation⟩) index
      exact ⟨nothing, Or.inl runEq⟩

theorem run_source_eq_outside_iff (form : TokenForm kind value source after) :
    Quotation.outside.run source = .outside ↔ ¬ IsUnclosed source := by
  constructor
  · intro atOutside unclosed
    exact unclosed.run_ne_outside atOutside
  · intro closed
    rcases (form.quotation 0).2 with atOutside | ⟨_, unclosed⟩
    · exact atOutside
    · contradiction

end TokenForm

namespace Tiles

variable {position : Nat} {text : Text} {lexemes : List Lexeme}

theorem marks (tiles : Tiles position text lexemes) :
    Quotation.marksFrom position .outside text =
      (lexemes.map Lexeme.toToken).filter fun token => token.kind.IsMark := by
  induction tiles with
  | gap blank => exact (Quotation.run_blank blank _).2
  | @token position text gap lexeme after later textEq blank placed form tiles ih =>
      obtain ⟨gapRun, gapMarks⟩ := Quotation.run_blank blank position
      obtain ⟨sourceMarks, ends⟩ := form.quotation lexeme.position
      have afterMarks : Quotation.marksFrom lexeme.stop (Quotation.outside.run lexeme.source) after =
          (later.map Lexeme.toToken).filter fun token => token.kind.IsMark := by
        rcases ends with atOutside | ⟨rfl, _⟩
        · rw [atOutside, ih]
        · rw [← ih]
          rfl
      rw [textEq, Quotation.marksFrom_append, gapMarks, gapRun, ← placed, List.nil_append,
        Quotation.marksFrom_append, sourceMarks]
      have stopEq : lexeme.position + lexeme.source.length = lexeme.stop := rfl
      rw [stopEq, afterMarks]
      by_cases isMark : lexeme.kind.IsMark
      · simp [isMark]
      · simp [isMark]

theorem run_eq_outside_iff (tiles : Tiles position text lexemes) :
    Quotation.outside.run text = .outside ↔ ∀ lexeme ∈ lexemes, ¬ IsUnclosed lexeme.source := by
  induction tiles with
  | gap blank => simp [(Quotation.run_blank blank 0).1]
  | @token position text gap lexeme after later textEq blank placed form tiles ih =>
      rw [List.forall_mem_cons, ← ih, ← form.run_source_eq_outside_iff, textEq,
        Quotation.run_append, (Quotation.run_blank blank 0).1, Quotation.run_append]
      rcases (form.quotation 0).2 with atOutside | ⟨rfl, unclosed⟩
      · simp [atOutside]
      · have within := unclosed.run_ne_outside
        exact iff_of_false within fun both => within both.1

end Tiles

namespace QueryWarning

def isAboutParenthesis : QueryWarning → Bool
  | unsupportedOperator token _ => token == ['('] || token == [')']
  | _ => false

def atPlace? : Char × Nat → Option QueryWarning
  | (char, index) => if char = '(' ∨ char = ')' then some (unsupportedOperator [char] index) else none

def ofMark? (token : Token) : Option QueryWarning :=
  if token.kind = .parenthesisOpen ∨ token.kind = .parenthesisClose then
    some (unsupportedOperator token.value token.position)
  else none

theorem filter_ofSegments (segments : List Text) :
    (ofSegments [] segments).filter isAboutParenthesis = [] := by
  obtain ⟨warnings, account, ownEq⟩ := ofSegments_account segments agrees_empty
  rw [ownEq, List.filter_eq_nil_iff]
  intro warning member
  have about := account.about warning member
  cases warning with
  | unsupportedOperator => contradiction
  | missingEquals | emptyKey | duplicateKey => exact Bool.false_ne_true

theorem filter_ofTokens {tokens : List Token}
    (spelled : ∀ token ∈ tokens, Token.Spells token.kind token.value) :
    (ofTokens tokens).filter isAboutParenthesis =
      (tokens.filter fun token => token.kind.IsMark).filterMap ofMark? := by
  induction tokens with
  | nil => rfl
  | cons token rest ih =>
      obtain ⟨here, later⟩ := List.forall_mem_cons.mp spelled
      have restEq := ih later
      obtain ⟨kind, value, position⟩ := token
      cases kind with
      | parenthesisOpen | parenthesisClose =>
          cases here
          exact congrArg (unsupportedOperator _ position :: ·) restEq
      | and | or =>
          have lowered : Text.asciiLower value = _ := here
          have different : isAboutParenthesis (unsupportedOperator value position) = false := by
            rw [isAboutParenthesis, Bool.or_eq_false_iff, beq_eq_false_iff_ne, beq_eq_false_iff_ne]
            constructor
            · rintro rfl
              exact absurd lowered (by decide)
            · rintro rfl
              exact absurd lowered (by decide)
          simp only [ofTokens, List.filter_cons, TokenKind.isBoolean, if_true, List.map_cons,
            different, Bool.false_eq_true, if_false]
          exact restEq
      | comma | equals | propertyName | propertyValue | null | endOfQuery | unknown => exact restEq

theorem ofMark?_markAt? (place : Char × Nat) : (markAt? place).bind ofMark? = atPlace? place := by
  obtain ⟨char, index⟩ := place
  rw [markAt?, ← punctuation?_eq_lookup]
  unfold punctuation?
  split <;> simp_all [ofMark?, atPlace?]

end QueryWarning

/-- The punctuation of a query is what stands outside quoted strings, in order and each with its
place, and so are the parentheses that are reported. -/
theorem marks_outside (query : Text) :
    ((tokenize query).filter fun token => token.kind.IsMark) =
      (Quotation.outsideFrom 0 .outside query).filterMap markAt? ∧
    (QueryWarning.ofQuery query).filter QueryWarning.isAboutParenthesis =
      (Quotation.outsideFrom 0 .outside query).filterMap QueryWarning.atPlace? := by
  obtain ⟨lexemes, tokensEq, tiles⟩ := tokenize_tiles query
  have marksEq : ((tokenize query).filter fun token => token.kind.IsMark) =
      (Quotation.outsideFrom 0 .outside query).filterMap markAt? := by
    rw [tokensEq, List.filter_append, ← tiles.marks]
    exact List.append_nil _
  refine ⟨marksEq, ?_⟩
  have spelled := (Token.isSentence_tokenize query).spelled
  rw [QueryWarning.ofQuery, List.filter_append, QueryWarning.filter_ofSegments, List.nil_append,
    QueryWarning.filter_ofTokens spelled, marksEq, List.filterMap_filterMap]
  exact List.filterMap_congr fun place _ => QueryWarning.ofMark?_markAt? place

example : (Quotation.outsideFrom 0 .outside "(\\'=\"\\')',\"=)").filterMap markAt? =
    [⟨.parenthesisOpen, "(", 0⟩, ⟨.comma, ",", 9⟩] := by
  decide

end TopicSieve
