import TopicSieve.Proofs.Query.TokenForm

/-!
Nothing of a query is lost or read twice. Every token has a span of characters of its own, and what
lies outside all spans is white space. Main statement: the spans of a query's tokens, with the value
that each gives, and the end of the query behind them.
-/

namespace TopicSieve

/-- What a span with a given first character looks like between the characters before and after it,
and what value it gives. A run is the longest one that starts there; no word start stands in front
of a word, and no digit in front of a number. -/
structure Lexeme.IsReadBetween (before after : Text) (lexeme : Lexeme) (first : Char)
    (more : Text) : Prop where
  source_eq : lexeme.source = first :: more
  plain : ¬ IsQuote first → lexeme.value = lexeme.source
  quoted : IsQuote first → ∃ body, lexeme.value = Text.unescape body ∧
    (more = body ++ [first] ∧ QuotedString.ClosesAfter first body ∨
      more = body ∧ after = [] ∧ ¬ Text.HasUnescaped first body)
  word : Text.isWordStart first = true →
    (∀ char ∈ more, Text.isWordChar char = true) ∧
    (∀ next, after.head? = some next → Text.isWordChar next = false) ∧
    ∀ previous, before.getLast? = some previous → Text.isWordStart previous = false
  number : Text.isDecimalDigit first = true →
    (∀ char ∈ more, Text.isDecimalDigit char = true) ∧
    (∀ next, after.head? = some next → Text.isDecimalDigit next = false) ∧
    ∀ previous, before.getLast? = some previous → Text.isDecimalDigit previous = false
  single : ¬ IsQuote first → Text.isWordStart first = false →
    Text.isDecimalDigit first = false → more = []

def Lexeme.Covers (lexeme : Lexeme) (index : Nat) : Prop :=
  lexeme.position ≤ index ∧ index < lexeme.stop

/-- The lexemes share out a query among them: their spans are disjoint and in order, and leave only
white space. -/
structure Tiling (query : Text) (lexemes : List Lexeme) : Prop where
  disjoint : lexemes.Pairwise fun earlier later => earlier.stop ≤ later.position
  blank_outside : ∀ index char, query[index]? = some char →
    (∀ lexeme ∈ lexemes, ¬ lexeme.Covers index) → Text.isBlank char = true
  read : ∀ lexeme ∈ lexemes, ∃ before after first more,
    query = before ++ (lexeme.source ++ after) ∧ before.length = lexeme.position ∧
    lexeme.IsReadBetween before after first more

def RunsEnd (before after : Text) : Prop :=
  ∀ previous next, before.getLast? = some previous → after.head? = some next →
    (Text.isWordStart previous = true → Text.isWordChar next = false) ∧
    (Text.isDecimalDigit previous = true → Text.isDecimalDigit next = false)

theorem isWordStart_quote {quote : Char} (isQuote : IsQuote quote) :
    Text.isWordStart quote = false := by
  rcases isQuote with rfl | rfl <;> decide

theorem isDecimalDigit_quote {quote : Char} (isQuote : IsQuote quote) :
    Text.isDecimalDigit quote = false := by
  rcases isQuote with rfl | rfl <;> decide

theorem punctuation?_eq_some {char : Char} {kind : TokenKind} (known : punctuation? char = some kind) :
    ¬ IsQuote char ∧ Text.isWordStart char = false ∧ Text.isDecimalDigit char = false := by
  unfold punctuation? at known
  split at known
  case h_5 => contradiction
  all_goals exact ⟨by simp [IsQuote], by decide, by decide⟩

theorem runsEnd_of_last {before after : Text} {last : Char}
    (notStart : Text.isWordStart last = false) (notDigit : Text.isDecimalDigit last = false) :
    RunsEnd (before ++ [last]) after := by
  intro previous next found _
  rw [List.getLast?_concat, Option.some.injEq] at found
  subst found
  exact ⟨fun start => absurd start (by simp [notStart]),
    fun digit => absurd digit (by simp [notDigit])⟩

theorem RunsEnd.gap {before gap after : Text} (ended : RunsEnd before (gap ++ after))
    (gapBlank : ∀ char ∈ gap, Text.isBlank char = true) : RunsEnd (before ++ gap) after := by
  rcases List.eq_nil_or_concat gap with empty | ⟨front, last, gapEq⟩
  · subst empty
    simpa using ended
  · have lastBlank := gapBlank last (by simp [gapEq])
    rw [gapEq, List.concat_eq_append, ← List.append_assoc]
    exact runsEnd_of_last (Text.isWordStart_of_isBlank lastBlank)
      (Text.isDecimalDigit_of_isBlank lastBlank)

theorem isDecimalDigit_of_not_isWordChar {char : Char} (notWord : Text.isWordChar char = false) :
    Text.isDecimalDigit char = false := by
  rw [Bool.eq_false_iff] at *
  exact fun digit => notWord ((Text.isWordChar_iff char).mpr (Or.inr digit))

theorem TokenForm.runsEnd {kind : TokenKind} {value source after : Text}
    (form : TokenForm kind value source after) (before : Text) :
    RunsEnd (before ++ source) after := by
  cases form with
  | punctuation known =>
      obtain ⟨_, notStart, notDigit⟩ := punctuation?_eq_some known
      exact runsEnd_of_last notStart notDigit
  | @closed quote body after isQuote closes =>
      have apart : before ++ quote :: (body ++ [quote]) = before ++ quote :: body ++ [quote] := by
        simp
      rw [apart]
      exact runsEnd_of_last (isWordStart_quote isQuote) (isDecimalDigit_quote isQuote)
  | unclosed =>
      intro previous next _ found
      simp at found
  | word start chars ended =>
      intro previous next _ found
      have notWord := ended next found
      exact ⟨fun _ => notWord, fun _ => isDecimalDigit_of_not_isWordChar notWord⟩
  | @number first more after digit digits ended =>
      intro previous next lastEq found
      have member : previous ∈ first :: more := by
        rw [List.getLast?_append, List.getLast?_cons, Option.some_or, ← List.getLast?_cons] at lastEq
        exact List.mem_of_getLast? lastEq
      have previousDigit : Text.isDecimalDigit previous = true := by
        rcases List.mem_cons.mp member with same | inMore
        · exact same ▸ digit
        · exact digits previous inMore
      exact ⟨fun start => absurd start (by simp [Text.isWordStart_of_isDecimalDigit previousDigit]),
        fun _ => ended next found⟩
  | unknown _ _ notStart notDigit _ => exact runsEnd_of_last notStart notDigit

theorem isReadBetween_single {before after : Text} {lexeme : Lexeme} {char : Char}
    (sourceEq : lexeme.source = [char]) (valueEq : lexeme.value = [char])
    (notQuote : ¬ IsQuote char) (notStart : Text.isWordStart char = false)
    (notDigit : Text.isDecimalDigit char = false) :
    lexeme.IsReadBetween before after char [] where
  source_eq := sourceEq
  plain _ := valueEq.trans sourceEq.symm
  quoted isQuote := absurd isQuote notQuote
  word start := absurd start (by simp [notStart])
  number digit := absurd digit (by simp [notDigit])
  single _ _ _ := rfl

theorem isReadBetween_quoted {before after : Text} {lexeme : Lexeme} {quote : Char}
    {body more : Text} (isQuote : IsQuote quote) (sourceEq : lexeme.source = quote :: more)
    (valueEq : lexeme.value = Text.unescape body)
    (ends : more = body ++ [quote] ∧ QuotedString.ClosesAfter quote body ∨
      more = body ∧ after = [] ∧ ¬ Text.HasUnescaped quote body) :
    lexeme.IsReadBetween before after quote more where
  source_eq := sourceEq
  plain notQuote := absurd isQuote notQuote
  quoted _ := ⟨body, valueEq, ends⟩
  word start := absurd start (by simp [isWordStart_quote isQuote])
  number digit := absurd digit (by simp [isDecimalDigit_quote isQuote])
  single notQuote := absurd isQuote notQuote

theorem isReadBetween_word {before after : Text} {lexeme : Lexeme} {first : Char} {more : Text}
    (sourceEq : lexeme.source = first :: more) (valueEq : lexeme.value = first :: more)
    (start : Text.isWordStart first = true)
    (chars : ∀ char ∈ more, Text.isWordChar char = true)
    (ended : ∀ next, after.head? = some next → Text.isWordChar next = false)
    (apart : RunsEnd before (first :: more ++ after)) :
    lexeme.IsReadBetween before after first more where
  source_eq := sourceEq
  plain _ := valueEq.trans sourceEq.symm
  quoted isQuote := absurd start (by simp [isWordStart_quote isQuote])
  word _ := by
    refine ⟨chars, ended, ?_⟩
    intro previous lastEq
    rw [Bool.eq_false_iff]
    intro previousStart
    have cut := (apart previous first lastEq rfl).1 previousStart
    have isChar := (Text.isWordChar_iff first).mpr (Or.inl start)
    exact absurd isChar (by simp [cut])
  number digit := absurd start (by simp [Text.isWordStart_of_isDecimalDigit digit])
  single _ notStart := absurd start (by simp [notStart])

theorem isReadBetween_number {before after : Text} {lexeme : Lexeme} {first : Char} {more : Text}
    (sourceEq : lexeme.source = first :: more) (valueEq : lexeme.value = first :: more)
    (digit : Text.isDecimalDigit first = true)
    (digits : ∀ char ∈ more, Text.isDecimalDigit char = true)
    (ended : ∀ next, after.head? = some next → Text.isDecimalDigit next = false)
    (apart : RunsEnd before (first :: more ++ after)) :
    lexeme.IsReadBetween before after first more where
  source_eq := sourceEq
  plain _ := valueEq.trans sourceEq.symm
  quoted isQuote := absurd digit (by simp [isDecimalDigit_quote isQuote])
  word start := absurd start (by simp [Text.isWordStart_of_isDecimalDigit digit])
  number _ := by
    refine ⟨digits, ended, ?_⟩
    intro previous lastEq
    rw [Bool.eq_false_iff]
    intro previousDigit
    have cut := (apart previous first lastEq rfl).2 previousDigit
    exact absurd digit (by simp [cut])
  single _ _ notDigit := absurd digit (by simp [notDigit])

theorem TokenForm.isReadBetween {lexeme : Lexeme} {before after : Text}
    (form : TokenForm lexeme.kind lexeme.value lexeme.source after)
    (apart : RunsEnd before (lexeme.source ++ after)) :
    ∃ first more, lexeme.IsReadBetween before after first more := by
  generalize kindEq : lexeme.kind = kind at form
  generalize valueEq : lexeme.value = value at form
  generalize sourceEq : lexeme.source = source at form apart
  cases form with
  | @punctuation char _ _ known =>
      obtain ⟨notQuote, notStart, notDigit⟩ := punctuation?_eq_some known
      exact ⟨char, [], isReadBetween_single sourceEq valueEq notQuote notStart notDigit⟩
  | closed isQuote closes =>
      exact ⟨_, _, isReadBetween_quoted isQuote sourceEq valueEq (Or.inl ⟨rfl, closes⟩)⟩
  | unclosed isQuote unclosed =>
      exact ⟨_, _, isReadBetween_quoted isQuote sourceEq valueEq (Or.inr ⟨rfl, rfl, unclosed⟩)⟩
  | word start chars ended =>
      exact ⟨_, _, isReadBetween_word sourceEq valueEq start chars ended apart⟩
  | number digit digits ended =>
      exact ⟨_, _, isReadBetween_number sourceEq valueEq digit digits ended apart⟩
  | @unknown char _ _ notQuote notStart notDigit _ =>
      exact ⟨char, [], isReadBetween_single sourceEq valueEq notQuote notStart notDigit⟩

namespace Tiles

variable {position : Nat} {text : Text} {lexemes : List Lexeme}

theorem position_le (tiles : Tiles position text lexemes) :
    ∀ lexeme ∈ lexemes, position ≤ lexeme.position := by
  induction tiles with
  | gap _ => simp
  | token _ _ positionEq _ _ ih =>
      intro other member
      rcases List.mem_cons.mp member with rfl | later
      · omega
      · have bound := ih other later
        simp only [Lexeme.stop] at bound
        omega

theorem stop_le (tiles : Tiles position text lexemes) :
    ∀ lexeme ∈ lexemes, lexeme.stop ≤ position + text.length := by
  induction tiles with
  | gap _ => simp
  | token textEq _ positionEq _ _ ih =>
      have total := congrArg List.length textEq
      simp only [List.length_append] at total
      intro other member
      rcases List.mem_cons.mp member with rfl | later
      · simp only [Lexeme.stop]
        omega
      · have bound := ih other later
        simp only [Lexeme.stop] at *
        omega

theorem disjoint (tiles : Tiles position text lexemes) :
    lexemes.Pairwise fun earlier later => earlier.stop ≤ later.position := by
  induction tiles with
  | gap _ => exact List.Pairwise.nil
  | token _ _ _ _ tiles ih => exact List.pairwise_cons.mpr ⟨tiles.position_le, ih⟩

theorem blank_outside (tiles : Tiles position text lexemes) :
    ∀ index char, text[index]? = some char →
      (∀ lexeme ∈ lexemes, ¬ lexeme.Covers (position + index)) → Text.isBlank char = true := by
  induction tiles with
  | gap blank =>
      intro index char found _
      exact blank char (List.mem_of_getElem? found)
  | @token position text gap lexeme after later textEq gapBlank positionEq _ _ ih =>
      intro index char found outside
      have notHere := outside lexeme List.mem_cons_self
      simp only [Lexeme.Covers, Lexeme.stop, positionEq] at notHere
      by_cases inGap : index < gap.length
      · rw [textEq, List.getElem?_append_left inGap] at found
        exact gapBlank char (List.mem_of_getElem? found)
      · have beyond : gap.length + lexeme.source.length ≤ index := by omega
        rw [textEq, List.getElem?_append_right (by omega),
          List.getElem?_append_right (by omega)] at found
        refine ih (index - gap.length - lexeme.source.length) char found ?_
        intro other member
        have notThere := outside other (List.mem_cons_of_mem _ member)
        have same : lexeme.stop + (index - gap.length - lexeme.source.length) =
            position + index := by
          simp only [Lexeme.stop, positionEq]
          omega
        rwa [same]

theorem read (tiles : Tiles position text lexemes) (before : Text)
    (lengthEq : before.length = position) (apart : RunsEnd before text) :
    ∀ lexeme ∈ lexemes, ∃ front back first more,
      before ++ text = front ++ (lexeme.source ++ back) ∧ front.length = lexeme.position ∧
      lexeme.IsReadBetween front back first more := by
  -- `before` grows by each span, so that the next one is seen between all that surrounds it.
  induction tiles generalizing before with
  | gap _ => simp
  | @token position text gap lexeme after later textEq gapBlank positionEq form _ ih =>
      rw [textEq] at apart
      have apartHere : RunsEnd (before ++ gap) (lexeme.source ++ after) := apart.gap gapBlank
      have frontLength : (before ++ gap).length = lexeme.position := by
        rw [List.length_append, positionEq, lengthEq]
      intro other member
      rcases List.mem_cons.mp member with rfl | inLater
      · obtain ⟨first, more, isRead⟩ := form.isReadBetween apartHere
        exact ⟨before ++ gap, after, first, more, by simp [textEq], frontLength, isRead⟩
      · have beforeLength : (before ++ gap ++ lexeme.source).length = lexeme.stop := by
          rw [List.length_append, frontLength, Lexeme.stop]
        obtain ⟨front, back, first, more, split, rest⟩ :=
          ih (before ++ gap ++ lexeme.source) beforeLength (form.runsEnd _) other inLater
        refine ⟨front, back, first, more, ?_, rest⟩
        rw [← split, textEq]
        simp

theorem tiling {query : Text} (tiles : Tiles 0 query lexemes) : Tiling query lexemes where
  disjoint := tiles.disjoint
  blank_outside := by
    intro index char found outside
    refine tiles.blank_outside index char found ?_
    rwa [Nat.zero_add]
  read := tiles.read [] rfl (by simp [RunsEnd])

theorem kind_ne_endOfQuery (tiles : Tiles position text lexemes) :
    ∀ lexeme ∈ lexemes, lexeme.kind ≠ .endOfQuery := by
  induction tiles with
  | gap _ => simp
  | token _ _ _ form _ ih =>
      intro other member
      rcases List.mem_cons.mp member with rfl | later
      · exact form.kind_ne_endOfQuery
      · exact ih other later

theorem position_lt_stop (tiles : Tiles position text lexemes) :
    ∀ lexeme ∈ lexemes, lexeme.position < lexeme.stop := by
  induction tiles with
  | gap _ => simp
  | token _ _ _ form _ ih =>
      intro other member
      rcases List.mem_cons.mp member with rfl | later
      · have sourcePositive := List.length_pos_iff.mpr form.source_ne_nil
        simp only [Lexeme.stop]
        omega
      · exact ih other later

end Tiles

/-- The tokens of a query tile it, and one more stands at its end. -/
theorem tokenize_tiling (query : Text) :
    ∃ lexemes : List Lexeme,
      tokenize query = lexemes.map Lexeme.toToken ++ [⟨.endOfQuery, [], query.length⟩] ∧
      (∀ lexeme ∈ lexemes, lexeme.kind ≠ .endOfQuery) ∧
      (tokenize query).Pairwise (fun earlier later => earlier.position < later.position) ∧
      Tiling query lexemes := by
  obtain ⟨lexemes, tokensEq, tiles⟩ := tokenize_tiles query
  refine ⟨lexemes, tokensEq, tiles.kind_ne_endOfQuery, ?_, tiles.tiling⟩
  rw [tokensEq, List.pairwise_append, List.pairwise_map]
  refine ⟨?_, List.pairwise_singleton _ _, ?_⟩
  · refine tiles.disjoint.imp_of_mem ?_
    intro earlier later earlierMember _ before
    exact Nat.lt_of_lt_of_le (tiles.position_lt_stop earlier earlierMember) before
  · intro token tokenMember last lastMember
    obtain ⟨lexeme, member, rfl⟩ := List.mem_map.mp tokenMember
    rw [List.mem_singleton.mp lastMember]
    have bound := tiles.stop_le lexeme member
    have nonempty := tiles.position_lt_stop lexeme member
    simp only [Nat.zero_add] at bound
    exact Nat.lt_of_lt_of_le nonempty bound

end TopicSieve
