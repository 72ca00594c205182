import TopicSieve.Proofs.Query.Escape
import TopicSieve.Proofs.Text.Classes
import TopicSieve.Proofs.Text.Cursors

/-!
How a query is made of tokens. Every kind of token has a form: the characters it is read from, what
may follow them, and the value they give. Main statement: a query is the sources of its lexemes in
order, with nothing but white space before, between and behind them.
-/

namespace TopicSieve

def IsQuote (char : Char) : Prop := char = '"' ∨ char = '\''

theorem isQuote_double : IsQuote '"' := Or.inl rfl

theorem isQuote_single : IsQuote '\'' := Or.inr rfl

theorem IsQuote.ne_backslash {quote : Char} (isQuote : IsQuote quote) : quote ≠ '\\' := by
  rcases isQuote with rfl | rfl <;> decide

theorem IsQuote.isBlank {quote : Char} (isQuote : IsQuote quote) :
    Text.isBlank quote = false := by
  rcases isQuote with rfl | rfl <;> decide

theorem IsQuote.ne_comma {quote : Char} (isQuote : IsQuote quote) : quote ≠ ',' := by
  rcases isQuote with rfl | rfl <;> decide

/-- `TokenForm kind value source after`: in front of `after`, the characters `source` are a token of
this kind with this value. -/
inductive TokenForm : TokenKind → Text → Text → Text → Prop
  | punctuation {char kind after} : punctuation? char = some kind →
      TokenForm kind [char] [char] after
  | closed {quote body after} : IsQuote quote → QuotedString.ClosesAfter quote body →
      TokenForm .propertyValue (Text.unescape body) (quote :: (body ++ [quote])) after
  | unclosed {quote body} : IsQuote quote → ¬ Text.HasUnescaped quote body →
      TokenForm .propertyValue (Text.unescape body) (quote :: body) []
  | word {first more after} : Text.isWordStart first = true →
      (∀ char ∈ more, Text.isWordChar char = true) →
      (∀ next, after.head? = some next → Text.isWordChar next = false) →
      TokenForm (wordKind (first :: more) after) (first :: more) (first :: more) after
  | number {first more after} : Text.isDecimalDigit first = true →
      (∀ char ∈ more, Text.isDecimalDigit char = true) →
      (∀ next, after.head? = some next → Text.isDecimalDigit next = false) →
      TokenForm .propertyValue (first :: more) (first :: more) after
  | unknown {char after} : punctuation? char = none → ¬ IsQuote char →
      Text.isWordStart char = false → Text.isDecimalDigit char = false →
      Text.isBlank char = false → TokenForm .unknown [char] [char] after

namespace TokenForm

theorem source_ne_nil {kind : TokenKind} {value source after : Text}
    (form : TokenForm kind value source after) : source ≠ [] := by
  cases form <;> simp

theorem wordKind_ne_endOfQuery (word after : Text) : wordKind word after ≠ .endOfQuery := by
  unfold wordKind keyword?
  split
  · next kind found =>
      intro same
      subst same
      split at found
      · contradiction
      · split at found
        · contradiction
        · split at found <;> contradiction
  · split <;> simp

theorem punctuation?_ne_endOfQuery (char : Char) : punctuation? char ≠ some .endOfQuery := by
  unfold punctuation?
  split <;> simp

theorem kind_ne_endOfQuery {kind : TokenKind} {value source after : Text}
    (form : TokenForm kind value source after) : kind ≠ .endOfQuery := by
  cases form with
  | @punctuation char kind after known =>
      intro same
      subst same
      exact punctuation?_ne_endOfQuery char known
  | closed | unclosed | number | unknown => simp
  | word => exact wordKind_ne_endOfQuery _ _

theorem ofWordRun {first : Char} (start : Text.isWordStart first = true) (rest : Text) :
    TokenForm
      (wordKind (first :: rest.takeWhile Text.isWordChar) (rest.dropWhile Text.isWordChar))
      (first :: rest.takeWhile Text.isWordChar) (first :: rest.takeWhile Text.isWordChar)
      (rest.dropWhile Text.isWordChar) :=
  .word start (fun _ => Text.of_mem_takeWhile) (fun _ => Text.of_head?_dropWhile)

theorem ofDigitRun {first : Char} (digit : Text.isDecimalDigit first = true) (rest : Text) :
    TokenForm .propertyValue (first :: rest.takeWhile Text.isDecimalDigit)
      (first :: rest.takeWhile Text.isDecimalDigit) (rest.dropWhile Text.isDecimalDigit) :=
  .number digit (fun _ => Text.of_mem_takeWhile) (fun _ => Text.of_head?_dropWhile)

end TokenForm

namespace Lexer

theorem lexemeAt_form (cursor : Cursor) (char : Char) (rest : Text)
    (restEq : cursor.rest = char :: rest) (notBlank : Text.isBlank char = false) :
    ∃ kind value source after, char :: rest = source ++ after ∧
      TokenForm kind value source after ∧
      lexemeAt cursor char rest = emit cursor kind value source := by
  unfold lexemeAt
  split
  · next kind known => exact ⟨kind, [char], [char], rest, rfl, .punctuation known, rfl⟩
  · next notPunctuation =>
      split
      · next isQuote =>
          have different := IsQuote.ne_backslash isQuote
          rcases QuotedString.read_cases different rest with
            ⟨body, after, split, closes, readEq⟩ | ⟨unclosed, readEq⟩
          · refine ⟨_, _, _, after, ?_, .closed isQuote closes, ?_⟩
            · simp [split]
            · simp only [readEq]
          · refine ⟨_, _, _, [], ?_, .unclosed isQuote unclosed, ?_⟩
            · simp
            · simp only [readEq]
      · next notQuote =>
          split
          · next start =>
              have isChar : Text.isWordChar char = true :=
                (Text.isWordChar_iff char).mpr (Or.inl start)
              have after : (cursor.drop (char :: rest.takeWhile Text.isWordChar).length).rest =
                  rest.dropWhile Text.isWordChar := by
                rw [Cursor.rest_drop, restEq, List.length_cons, List.drop_succ_cons,
                  Text.drop_length_takeWhile]
              refine ⟨_, _, _, _, ?_, .ofWordRun start rest, ?_⟩
              · simp
              · simp only [List.takeWhile_cons_of_pos isChar, after]
          · next notStart =>
              split
              · next digit =>
                  refine ⟨_, _, _, _, ?_, .ofDigitRun digit rest, ?_⟩
                  · simp
                  · simp only [List.takeWhile_cons_of_pos digit]
              · next notDigit =>
                  exact ⟨_, _, _, rest, rfl, .unknown notPunctuation notQuote
                    (Bool.eq_false_iff.mpr notStart) (Bool.eq_false_iff.mpr notDigit) notBlank, rfl⟩

theorem lexemes_of_next? {lexer after : Lexer} {lexeme : Lexeme}
    (step : lexer.next? = some (lexeme, after)) : lexer.lexemes = lexeme :: after.lexemes := by
  rw [lexemes]
  split
  · next ended => rw [ended] at step; contradiction
  · next other later found =>
      rw [found] at step
      obtain ⟨rfl, rfl⟩ := Prod.mk.inj (Option.some.inj step)
      rfl

theorem lexemes_finished (cursor : Cursor) : lexemes ⟨cursor, true⟩ = [] := by
  rw [lexemes]
  split
  · rfl
  · next found => simp [next?] at found

theorem lexemes_unfinished (cursor : Cursor) :
    lexemes ⟨cursor, false⟩ =
      (lexemeFrom (cursor.dropWhile Text.isBlank)).1 ::
        lexemes (lexemeFrom (cursor.dropWhile Text.isBlank)).2 :=
  lexemes_of_next? rfl

end Lexer

def Lexeme.stop (lexeme : Lexeme) : Nat := lexeme.position + lexeme.source.length

/-- `Tiles position text lexemes`: the text, whose first character has this position, consists of
the sources of the lexemes in order and of white space. -/
inductive Tiles : Nat → Text → List Lexeme → Prop
  | gap {position text} : (∀ char ∈ text, Text.isBlank char = true) → Tiles position text []
  | token {position text gap lexeme after later} : text = gap ++ (lexeme.source ++ after) →
      (∀ char ∈ gap, Text.isBlank char = true) →
      lexeme.position = position + gap.length →
      TokenForm lexeme.kind lexeme.value lexeme.source after →
      Tiles lexeme.stop after later → Tiles position text (lexeme :: later)

namespace Lexer

def endLexeme (position offset : Nat) : Lexeme := ⟨⟨.endOfQuery, [], position⟩, offset, []⟩

theorem tiles_lexemes (cursor : Cursor) :
    ∃ tokens offset,
      lexemes ⟨cursor, false⟩ =
        tokens ++ [endLexeme (cursor.position + cursor.rest.length) offset] ∧
      Tiles cursor.position cursor.rest tokens := by
  generalize lengthEq : cursor.rest.length = length
  induction length using Nat.strongRecOn generalizing cursor with
  | ind length ih =>
      let gap := cursor.rest.takeWhile Text.isBlank
      have gapBlank : ∀ char ∈ gap, Text.isBlank char = true := fun _ => Text.of_mem_takeWhile
      have skippedRest := cursor.rest_dropWhile Text.isBlank
      have skippedPosition := cursor.position_dropWhile Text.isBlank
      have parts : cursor.rest = gap ++ (cursor.dropWhile Text.isBlank).rest := by
        rw [skippedRest]
        exact List.takeWhile_append_dropWhile.symm
      rw [lexemes_unfinished]
      generalize cursor.dropWhile Text.isBlank = skipped at *
      cases restEq : skipped.rest with
      | nil =>
          have onlyGap : cursor.rest = gap := by rw [parts, restEq, List.append_nil]
          have atEnd : skipped.position = cursor.position + length := by
            rw [skippedPosition, ← lengthEq]
            exact congrArg (cursor.position + ·) (congrArg List.length onlyGap).symm
          refine ⟨[], skipped.offset, ?_, .gap (onlyGap ▸ gapBlank)⟩
          simp only [lexemeFrom, restEq, lexemes_finished, atEnd, endLexeme, List.nil_append]
      | cons char rest =>
          have firstEq : (cursor.rest.dropWhile Text.isBlank).head? = some char := by
            rw [← skippedRest, restEq]
            rfl
          have notBlank := Text.of_head?_dropWhile firstEq
          obtain ⟨kind, value, source, after, restSplit, form, stepEq⟩ :=
            lexemeAt_form skipped char rest restEq notBlank
          have skippedSplit : skipped.rest = source ++ after := restEq.trans restSplit
          rw [skippedSplit] at parts
          have total := congrArg List.length parts
          rw [List.length_append, List.length_append] at total
          have sourcePositive := List.length_pos_iff.mpr form.source_ne_nil
          have afterRest : (skipped.drop source.length).rest = after := by
            rw [Cursor.rest_drop, skippedSplit, List.drop_left]
          obtain ⟨tokens, offset, tokensEq, tiles⟩ :=
            ih after.length (by omega) (skipped.drop source.length) (by rw [afterRest])
          rw [Cursor.position_drop skippedSplit] at tokensEq tiles
          rw [afterRest] at tiles
          let lexeme : Lexeme := ⟨⟨kind, value, skipped.position⟩, skipped.offset, source⟩
          have tilesAll : Tiles cursor.position cursor.rest (lexeme :: tokens) :=
            .token parts gapBlank skippedPosition form tiles
          refine ⟨lexeme :: tokens, offset, ?_, tilesAll⟩
          have atEnd : skipped.position + source.length + after.length =
              cursor.position + length := by
            have gapLength : gap.length = (cursor.rest.takeWhile Text.isBlank).length := rfl
            omega
          simp only [lexemeFrom, restEq, stepEq, emit, tokensEq, atEnd, List.cons_append, lexeme]

end Lexer

theorem tokenize_tiles (query : Text) :
    ∃ lexemes : List Lexeme,
      tokenize query = lexemes.map Lexeme.toToken ++ [⟨.endOfQuery, [], query.length⟩] ∧
      Tiles 0 query lexemes := by
  obtain ⟨lexemes, offset, lexemesEq, tiles⟩ := Lexer.tiles_lexemes (Cursor.start query)
  refine ⟨lexemes, ?_, tiles⟩
  have started : Lexer.start query = ⟨Cursor.start query, false⟩ := rfl
  rw [tokenize, started, lexemesEq, List.map_append]
  simp [Lexer.endLexeme, Cursor.start]

end TopicSieve
