import TopicSieve.Proofs.Query.Tiling

/-!
Tokens are determined by the text they tile. The form of a token leaves the reader one way to go on,
so a text that was put together from tokens is read as these tokens. Main statement: any tiling of a
query gives the tokens of the query.
-/

namespace TopicSieve

namespace TokenForm

variable {kind : TokenKind} {value source after : Text}

theorem head_not_blank (form : TokenForm kind value source after) {first : Char}
    (isFirst : (source ++ after).head? = some first) : Text.isBlank first = false := by
  rw [Bool.eq_false_iff]
  intro blank
  have notStart := Text.isWordStart_of_isBlank blank
  have notDigit := Text.isDecimalDigit_of_isBlank blank
  cases form with
  | punctuation known =>
      cases isFirst
      unfold punctuation? at known
      split at known <;> contradiction
  | closed isQuote | unclosed isQuote =>
      cases isFirst
      rw [isQuote.isBlank] at blank
      contradiction
  | word start =>
      cases isFirst
      rw [notStart] at start
      contradiction
  | number digit =>
      cases isFirst
      rw [notDigit] at digit
      contradiction
  | unknown _ _ _ _ notBlank =>
      cases isFirst
      rw [notBlank] at blank
      contradiction

theorem punctuation?_of_isQuote {quote : Char} (isQuote : IsQuote quote) :
    punctuation? quote = none := by
  rcases isQuote with rfl | rfl <;> rfl

theorem punctuation?_eq_none {char : Char}
    (inRun : Text.isWordStart char = true ∨ Text.isDecimalDigit char = true) :
    punctuation? char = none := by
  cases known : punctuation? char with
  | none => rfl
  | some kind =>
      obtain ⟨_, notStart, notDigit⟩ := punctuation?_eq_some known
      simp [notStart, notDigit] at inRun

theorem not_isQuote {char : Char}
    (inRun : Text.isWordStart char = true ∨ Text.isDecimalDigit char = true) : ¬ IsQuote char := by
  intro isQuote
  simp [isWordStart_quote isQuote, isDecimalDigit_quote isQuote] at inRun

theorem lexemeFrom_eq {cursor : Cursor} (form : TokenForm kind value source after)
    (restEq : cursor.rest = source ++ after) :
    Lexer.lexemeFrom cursor = Lexer.emit cursor kind value source := by
  cases form with
  | punctuation known =>
      simp only [Lexer.lexemeFrom, restEq, List.cons_append, Lexer.lexemeAt, known]
  | @closed quote body after isQuote closes =>
      have either : quote = '"' ∨ quote = '\'' := isQuote
      have readEq := QuotedString.read_of_closesAfter isQuote.ne_backslash closes after
      rw [List.cons_append, List.append_assoc, List.singleton_append] at restEq
      simp only [Lexer.lexemeFrom, restEq, Lexer.lexemeAt, punctuation?_of_isQuote isQuote]
      rw [if_pos either, readEq]
  | @unclosed quote body isQuote unclosed =>
      have either : quote = '"' ∨ quote = '\'' := isQuote
      have readEq := QuotedString.read_of_unclosed isQuote.ne_backslash unclosed
      rw [List.append_nil] at restEq
      simp only [Lexer.lexemeFrom, restEq, Lexer.lexemeAt, punctuation?_of_isQuote isQuote]
      rw [if_pos either, readEq]
  | @word first more after start chars ended =>
      have isChar : Text.isWordChar first = true := (Text.isWordChar_iff first).mpr (Or.inl start)
      have neither : ¬ (first = '"' ∨ first = '\'') := not_isQuote (Or.inl start)
      have run : (first :: (more ++ after)).takeWhile Text.isWordChar = first :: more := by
        rw [List.takeWhile_cons_of_pos isChar, Text.takeWhile_run chars ended]
      have behind : (cursor.drop (first :: more).length).rest = after := by
        rw [Cursor.rest_drop, restEq, List.drop_left]
      rw [List.cons_append] at restEq
      simp only [Lexer.lexemeFrom, restEq, Lexer.lexemeAt, punctuation?_eq_none (Or.inl start), run,
        behind]
      rw [if_neg neither, if_pos start]
  | @number first more after digit digits ended =>
      have neither : ¬ (first = '"' ∨ first = '\'') := not_isQuote (Or.inr digit)
      have notStart := Text.isWordStart_of_isDecimalDigit digit
      have run : (first :: (more ++ after)).takeWhile Text.isDecimalDigit = first :: more := by
        rw [List.takeWhile_cons_of_pos digit, Text.takeWhile_run digits ended]
      simp only [Lexer.lexemeFrom, restEq, List.cons_append, Lexer.lexemeAt,
        punctuation?_eq_none (Or.inr digit), run]
      rw [if_neg neither, notStart, if_neg Bool.false_ne_true, if_pos digit]
  | @unknown char after notPunctuation notQuote notStart notDigit _ =>
      have neither : ¬ (char = '"' ∨ char = '\'') := notQuote
      simp only [Lexer.lexemeFrom, restEq, List.cons_append, Lexer.lexemeAt, notPunctuation]
      rw [if_neg neither, notStart, if_neg Bool.false_ne_true, notDigit,
        if_neg Bool.false_ne_true]

end TokenForm

namespace Lexer

theorem lexemes_of_tiles {position : Nat} {text : Text} {tokens : List Lexeme}
    (tiles : Tiles position text tokens) {cursor : Cursor} (positionEq : cursor.position = position)
    (restEq : cursor.rest = text) :
    (lexemes ⟨cursor, false⟩).map Lexeme.toToken =
      tokens.map Lexeme.toToken ++ [⟨.endOfQuery, [], position + text.length⟩] := by
  induction tiles generalizing cursor with
  | @gap position text blank =>
      have nothing : text.dropWhile Text.isBlank = [] :=
        (Text.dropWhile_eq_nil_iff Text.isBlank text).mpr blank
      have whole : text.takeWhile Text.isBlank = text := by
        have split := List.takeWhile_append_dropWhile (p := Text.isBlank) (l := text)
        rwa [nothing, List.append_nil] at split
      have skippedRest : (cursor.dropWhile Text.isBlank).rest = [] := by
        rw [cursor.rest_dropWhile, restEq, nothing]
      have skippedPosition : (cursor.dropWhile Text.isBlank).position = position + text.length := by
        rw [cursor.position_dropWhile, positionEq, restEq, whole]
      rw [lexemes_unfinished]
      simp only [lexemeFrom, skippedRest, lexemes_finished, skippedPosition]
      rfl
  | @token position text gap lexeme after later textEq blank placed form _ ih =>
      have stops (next : Char) (isNext : (lexeme.source ++ after).head? = some next) :
          Text.isBlank next = false := form.head_not_blank isNext
      have skippedRest : (cursor.dropWhile Text.isBlank).rest = lexeme.source ++ after := by
        rw [cursor.rest_dropWhile, restEq, textEq, Text.dropWhile_run blank stops]
      have skippedPosition : (cursor.dropWhile Text.isBlank).position = lexeme.position := by
        rw [cursor.position_dropWhile, positionEq, restEq, textEq, Text.takeWhile_run blank stops,
          placed]
      rw [lexemes_unfinished, form.lexemeFrom_eq skippedRest]
      generalize cursor.dropWhile Text.isBlank = skipped at *
      have restAfter : (skipped.drop lexeme.source.length).rest = after := by
        rw [Cursor.rest_drop, skippedRest, List.drop_left]
      have positionAfter : (skipped.drop lexeme.source.length).position = lexeme.stop := by
        rw [Cursor.position_drop skippedRest, skippedPosition, Lexeme.stop]
      have total : lexeme.stop + after.length = position + text.length := by
        rw [textEq, Lexeme.stop, placed, List.length_append, List.length_append]
        omega
      simp only [emit, List.map_cons, ih positionAfter restAfter, total, skippedPosition]
      rfl

end Lexer

theorem tokenize_of_tiles {query : Text} {lexemes : List Lexeme} (tiles : Tiles 0 query lexemes) :
    tokenize query = lexemes.map Lexeme.toToken ++ [⟨.endOfQuery, [], query.length⟩] := by
  have started : Lexer.start query = ⟨Cursor.start query, false⟩ := rfl
  rw [tokenize, started, Lexer.lexemes_of_tiles tiles rfl rfl, Nat.zero_add]

def Token.content (token : Token) : TokenKind × Text := (token.kind, token.value)

/-- Wherever the text begins, it is tiled by tokens that say this. -/
def ReadsAs (text : Text) (contents : List (TokenKind × Text)) : Prop :=
  ∀ position, ∃ lexemes, Tiles position text lexemes ∧
    (lexemes.map Lexeme.toToken).map Token.content = contents

theorem readsAs_of_blank {gap : Text} (blank : ∀ char ∈ gap, Text.isBlank char = true) :
    ReadsAs gap [] :=
  fun _ => ⟨[], .gap blank, rfl⟩

theorem ReadsAs.token {gap source after value : Text} {kind : TokenKind}
    {contents : List (TokenKind × Text)} (reads : ReadsAs after contents)
    (form : TokenForm kind value source after) (blank : ∀ char ∈ gap, Text.isBlank char = true) :
    ReadsAs (gap ++ (source ++ after)) ((kind, value) :: contents) := by
  intro position
  obtain ⟨later, tiles, rfl⟩ := reads (position + gap.length + source.length)
  let lexeme : Lexeme := ⟨⟨kind, value, position + gap.length⟩, 0, source⟩
  have tilesAll : Tiles position (gap ++ (source ++ after)) (lexeme :: later) :=
    .token rfl blank rfl form tiles
  exact ⟨lexeme :: later, tilesAll, rfl⟩

theorem ReadsAs.tokenize {query : Text} {contents : List (TokenKind × Text)}
    (reads : ReadsAs query contents) :
    (tokenize query).map Token.content = contents ++ [(.endOfQuery, [])] := by
  obtain ⟨lexemes, tiles, rfl⟩ := reads 0
  rw [tokenize_of_tiles tiles, List.map_append]
  rfl

end TopicSieve
