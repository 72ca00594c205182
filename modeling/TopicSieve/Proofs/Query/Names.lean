import TopicSieve.Proofs.Query.Spelling

/-!
Which words are property names. The reader decides this by a look at the text behind a word, before
the next token is read. Main statement: a token is a property name if and only if it is a word, no
keyword, and the next token is an equals sign.
-/

namespace TopicSieve

theorem wordKind_eq_propertyName_iff (word after : Text) :
    wordKind word after = .propertyName ↔
      Text.asciiLower word ∉ (["and", "or", "null"] : List Text) ∧
      (Text.trimStart after).head? = some '=' := by
  rw [← Token.keyword?_eq_none_iff]
  constructor
  · intro isName
    unfold wordKind at isName
    split at isName
    · next kind found =>
        rw [isName, Token.keyword?_eq_some_iff] at found
        simp [Token.keywords] at found
    · next notKeyword =>
        split at isName
        · next equals => exact ⟨notKeyword, equals⟩
        · contradiction
  · rintro ⟨notKeyword, equals⟩
    rw [wordKind, notKeyword]
    exact if_pos equals

namespace TokenForm

variable {kind : TokenKind} {value source after : Text}

theorem isName_iff (form : TokenForm kind value source after) {first : Char}
    (isFirst : source.head? = some first) :
    kind = .propertyName ↔ Text.isWordStart first = true ∧
      Text.asciiLower value ∉ (["and", "or", "null"] : List Text) ∧
      (Text.trimStart after).head? = some '=' := by
  cases form with
  | punctuation known =>
      cases isFirst
      have notStart := (punctuation?_eq_some known).2.1
      unfold punctuation? at known
      split at known <;> cases known <;> simp [notStart]
  | closed isQuote | unclosed isQuote =>
      cases isFirst
      simp [isWordStart_quote isQuote]
  | word start =>
      cases isFirst
      rw [wordKind_eq_propertyName_iff]
      simp [start]
  | number digit =>
      cases isFirst
      simp [Text.isWordStart_of_isDecimalDigit digit]
  | unknown _ _ notStart =>
      cases isFirst
      simp [notStart]

theorem source_eq_value (form : TokenForm kind value source after)
    (notValue : kind ≠ .propertyValue) : source = value := by
  cases form with
  | punctuation | word | unknown => rfl
  | closed | unclosed | number => contradiction

end TokenForm

namespace Tiles

variable {position : Nat} {text : Text} {lexemes front back : List Lexeme} {lexeme : Lexeme}

theorem head_equals_iff (tiles : Tiles position text lexemes) :
    (Text.trimStart text).head? = some '=' ↔
      ∃ first, lexemes.head? = some first ∧ first.kind = .equals := by
  constructor
  · intro equals
    obtain ⟨first, later, rfl, isEquals⟩ := tiles.head_equals equals
    exact ⟨first, rfl, isEquals⟩
  · rintro ⟨first, isFirst, isEquals⟩
    cases tiles with
    | gap => contradiction
    | token textEq blank _ form =>
        cases isFirst
        have spelled := Token.spells_of_form form
        rw [isEquals] at spelled
        have sourceEq : first.source = ['='] := by
          rw [form.source_eq_value (by simp [isEquals])]
          exact spelled
        rw [textEq, Text.trimStart, Text.dropWhile_run blank fun _ => form.head_not_blank, sourceEq]
        rfl

theorem at_lexeme (tiles : Tiles position text (front ++ lexeme :: back)) :
    ∃ before after, text = before ++ (lexeme.source ++ after) ∧
      position + before.length = lexeme.position ∧
      TokenForm lexeme.kind lexeme.value lexeme.source after ∧
      Tiles lexeme.stop after back := by
  induction front generalizing position text with
  | nil =>
      cases tiles with
      | token textEq _ placed form later => exact ⟨_, _, textEq, placed.symm, form, later⟩
  | cons first rest ih =>
      cases tiles with
      | @token _ _ gap _ after _ textEq _ placed _ later =>
          obtain ⟨before, behind, afterEq, there, form, tilesBehind⟩ := ih later
          refine ⟨gap ++ (first.source ++ before), behind, ?_, ?_, form, tilesBehind⟩
          · rw [textEq, afterEq]
            simp
          · simp only [List.length_append]
            simp only [Lexeme.stop] at there
            omega

theorem getElem?_position {query : Text} (tiles : Tiles 0 query (front ++ lexeme :: back)) :
    query[lexeme.position]? = lexeme.source.head? := by
  obtain ⟨before, after, queryEq, there, form, _⟩ := tiles.at_lexeme
  rw [Nat.zero_add] at there
  rw [queryEq, ← there, List.getElem?_append_right (Nat.le_refl _), Nat.sub_self,
    ← List.head?_eq_getElem?, List.head?_append_of_ne_nil _ form.source_ne_nil]

end Tiles

theorem exists_lexeme {lexemes : List Lexeme} {last token : Token} {front back : List Token}
    (tokensEq : lexemes.map Lexeme.toToken ++ [last] = front ++ token :: back)
    (notLast : token ≠ last) :
    ∃ earlier lexeme later, lexemes = earlier ++ lexeme :: later ∧ lexeme.toToken = token ∧
      back = later.map Lexeme.toToken ++ [last] := by
  rcases List.eq_nil_or_concat back with rfl | ⟨middle, final, rfl⟩
  · obtain ⟨_, sameLast⟩ := List.append_inj' tokensEq rfl
    cases sameLast
    contradiction
  · rw [List.concat_eq_append, ← List.cons_append, ← List.append_assoc] at tokensEq
    obtain ⟨mapEq, sameLast⟩ := List.append_inj' tokensEq rfl
    obtain ⟨earlier, rest, rfl, _, restEq⟩ := List.map_eq_append_iff.mp mapEq
    obtain ⟨lexeme, later, rfl, tokenEq, rfl⟩ := List.map_eq_cons_iff.mp restEq
    cases sameLast
    exact ⟨earlier, lexeme, later, rfl, tokenEq, List.concat_eq_append⟩

theorem next_isEquals_iff (later : List Lexeme) {last : Token} (isEnd : last.kind = .endOfQuery) :
    (∃ next, (later.map Lexeme.toToken ++ [last]).head? = some next ∧ next.kind = .equals) ↔
      ∃ first, later.head? = some first ∧ first.kind = .equals := by
  cases later with
  | nil => simp [isEnd]
  | cons first rest => simp

/-- Every token but the end begins with a character of the query. It is a name if that character
begins a word, the word is no keyword and the next token is an equals sign. -/
theorem isName_iff_next_equals {query : Text} {front back : List Token} {token : Token}
    (tokensEq : tokenize query = front ++ token :: back) (notEnd : token.kind ≠ .endOfQuery) :
    ∃ first, query[token.position]? = some first ∧
      (token.kind = .propertyName ↔
        (Text.isLetter first = true ∨ first = '_') ∧
        Text.asciiLower token.value ∉ (["and", "or", "null"] : List Text) ∧
        ∃ next, back.head? = some next ∧ next.kind = .equals) ∧
      (IsQuote first ∨ Text.isDecimalDigit first = true → token.kind ≠ .propertyName) := by
  obtain ⟨lexemes, allEq, tiles⟩ := tokenize_tiles query
  rw [allEq] at tokensEq
  have notLast : token ≠ ⟨.endOfQuery, [], query.length⟩ := by
    rintro rfl
    contradiction
  obtain ⟨earlier, lexeme, later, rfl, rfl, rfl⟩ := exists_lexeme tokensEq notLast
  obtain ⟨_, _, _, _, form, behind⟩ := tiles.at_lexeme
  obtain ⟨first, more, sourceEq⟩ := List.exists_cons_of_ne_nil form.source_ne_nil
  have isFirst : lexeme.source.head? = some first := by rw [sourceEq, List.head?_cons]
  have isName := form.isName_iff isFirst
  refine ⟨first, ?_, ?_, ?_⟩
  · exact tiles.getElem?_position.trans isFirst
  · rw [next_isEquals_iff later rfl, ← behind.head_equals_iff, isName]
    simp [Text.isWordStart]
  · intro quoteOrDigit isNameToo
    obtain ⟨start, _⟩ := isName.mp isNameToo
    rcases quoteOrDigit with isQuote | digit
    · exact TokenForm.not_isQuote (Or.inl start) isQuote
    · simp [Text.isWordStart_of_isDecimalDigit digit] at start

theorem tokenize_of_stream {query : Text} {tokens : List Token}
    (streamEq : (Lexer.stream (tokens.length + 1) (Lexer.start query)).map (Option.map Lexeme.toToken) =
      tokens.map some ++ [none]) : tokenize query = tokens := by
  rw [tokenize]
  generalize Lexer.start query = lexer at streamEq
  induction tokens generalizing lexer with
  | nil =>
      rw [Lexer.lexemes]
      split
      · rfl
      · next found => simp [Lexer.stream, found] at streamEq
  | cons token rest ih =>
      rw [List.length_cons, Lexer.stream] at streamEq
      split at streamEq
      · simp at streamEq
      · next lexeme after found =>
          rw [List.map_cons, List.map_cons, List.cons_append, List.cons.injEq] at streamEq
          obtain ⟨same, later⟩ := streamEq
          rw [Lexer.lexemes_of_next? found, List.map_cons, ih after later, Option.some.inj same]

def namesQuery : Text := "ü_1\u00a0= nUll='a'=b"

theorem isName_iff_next_equals_namesQuery :
    ∃ back, tokenize namesQuery = [] ++ ⟨.propertyName, "ü_1", 0⟩ :: back ∧
      TokenKind.propertyName ≠ .endOfQuery ∧
      ∃ first, namesQuery[0]? = some first ∧
        (TokenKind.propertyName = .propertyName ↔
          (Text.isLetter first = true ∨ first = '_') ∧
          Text.asciiLower "ü_1" ∉ (["and", "or", "null"] : List Text) ∧
          ∃ next, back.head? = some next ∧ next.kind = .equals) ∧
        (IsQuote first ∨ Text.isDecimalDigit first = true →
          TokenKind.propertyName ≠ .propertyName) := by
  have tokensEq : tokenize namesQuery =
      [] ++ ⟨.propertyName, "ü_1", 0⟩ ::
        [⟨.equals, "=", 4⟩, ⟨.null, "nUll", 6⟩, ⟨.equals, "=", 10⟩, ⟨.propertyValue, "a", 11⟩,
          ⟨.equals, "=", 14⟩, ⟨.propertyValue, "b", 15⟩, ⟨.endOfQuery, "", 16⟩] :=
    tokenize_of_stream (by decide)
  exact ⟨_, tokensEq, by decide, isName_iff_next_equals tokensEq (by decide)⟩

end TopicSieve
