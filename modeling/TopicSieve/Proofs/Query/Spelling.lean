import Mathlib.Data.List.Chain
import TopicSieve.Proofs.Query.Reading

/-!
Tokens written out as text. A value is put between double quotes, with its quotes and backslashes
escaped, every other token stands as it is, and a space parts two tokens. Main statement: the written
form of tokens is read as these tokens again, whether a query gave them or they were put together in
another way that a query could give.
-/

namespace TopicSieve

namespace Text

def escape (text : Text) : Text :=
  text.flatMap fun char => if char = '"' ∨ char = '\\' then ['\\', char] else [char]

theorem escape_cons_of_special {char : Char} (special : char = '"' ∨ char = '\\') (rest : Text) :
    escape (char :: rest) = '\\' :: char :: escape rest := by
  simp [escape, special]

theorem escape_cons_of_plain {char : Char} (plain : ¬ (char = '"' ∨ char = '\\')) (rest : Text) :
    escape (char :: rest) = char :: escape rest := by
  simp [escape, plain]

theorem unescape_escape (text : Text) : unescape (escape text) = text := by
  induction text with
  | nil => rfl
  | cons char rest ih =>
      by_cases special : char = '"' ∨ char = '\\'
      · rw [escape_cons_of_special special, unescape_escaped, ih]
      · rw [escape_cons_of_plain special, unescape_cons (not_or.mp special).2, ih]

theorem closesAfter_escape (text : Text) : QuotedString.ClosesAfter '"' (escape text) := by
  have different : '"' ≠ '\\' := by decide
  induction text with
  | nil => exact QuotedString.closesAfter_nil different
  | cons char rest ih =>
      by_cases special : char = '"' ∨ char = '\\'
      · rw [escape_cons_of_special special]
        exact ih.escaped different char
      · rw [escape_cons_of_plain special]
        exact ih.cons (not_or.mp special).2 (not_or.mp special).1

def IsWord (text : Text) : Prop :=
  ∃ first more, text = first :: more ∧ isWordStart first = true ∧
    ∀ char ∈ more, isWordChar char = true

theorem isLetter_of_upper {char : Char} (first : 'A' ≤ char) (last : char ≤ 'Z') :
    isLetter char = true := by
  have ranges : letterRanges = (0x41, 0x5A) :: letterRanges.tail := rfl
  have above : ¬ char.toNat < 0x41 := Nat.not_lt.mpr first
  have below : char.toNat ≤ 0x5A := last
  rw [isLetter, ranges, Ranges.has, if_neg above, if_pos below]

theorem isWordStart_of_toLower {char : Char} (lower : isWordStart char.toLower = true) :
    isWordStart char = true := by
  by_cases upper : char.val ≥ 'A'.val ∧ char.val ≤ 'Z'.val
  · rw [isWordStart, isLetter_of_upper upper.1 upper.2, Bool.true_or]
  · have unchanged : char.toLower = char := dif_neg upper
    rwa [unchanged] at lower

theorem isWord_of_asciiLower {text : Text} (nonempty : text ≠ [])
    (lower : ∀ char ∈ asciiLower text, isWordStart char = true) : IsWord text := by
  have starts : ∀ char ∈ text, isWordStart char = true := by
    intro char member
    exact isWordStart_of_toLower (lower _ (List.mem_map_of_mem member))
  cases text with
  | nil => contradiction
  | cons first more =>
      refine ⟨first, more, rfl, starts first List.mem_cons_self, ?_⟩
      intro char member
      exact (isWordChar_iff char).mpr (Or.inl (starts char (List.mem_cons_of_mem _ member)))

end Text

namespace Token

def written (token : Token) : Text :=
  if token.kind = .propertyValue then '"' :: (Text.escape token.value ++ ['"']) else token.value

def printed (tokens : List Token) : Text :=
  Text.join [' '] ((tokens.filter fun token => token.kind ≠ .endOfQuery).map written)

def Spells : TokenKind → Text → Prop
  | .propertyName, value =>
      Text.IsWord value ∧ Text.asciiLower value ∉ (["and", "or", "null"] : List Text)
  | .propertyValue, _ => True
  | .parenthesisOpen, value => value = ['(']
  | .parenthesisClose, value => value = [')']
  | .comma, value => value = [',']
  | .and, value => Text.asciiLower value = "and"
  | .or, value => Text.asciiLower value = "or"
  | .equals, value => value = ['=']
  | .null, value => Text.asciiLower value = "null"
  | .endOfQuery, value => value = []
  | .unknown, value => ∃ char, value = [char] ∧ char ∉ ['(', ')', ',', '='] ∧ ¬ IsQuote char ∧
      Text.isWordStart char = false ∧ Text.isDecimalDigit char = false ∧ Text.isBlank char = false

/-- Tokens that a query could give: each has a value of its kind, an equals sign stands behind every
property name, and the end stands behind all others and nowhere else. -/
structure IsSentence (tokens : List Token) : Prop where
  spelled : ∀ token ∈ tokens, Spells token.kind token.value
  named : tokens.IsChain fun token next => token.kind = .propertyName → next.kind = .equals
  ended : ∃ front last, tokens = front ++ [last] ∧ last.kind = .endOfQuery ∧
    ∀ token ∈ front, token.kind ≠ .endOfQuery

/-! Written tokens have the form of tokens. -/

def keywords : List (Text × TokenKind) := [("and", .and), ("or", .or), ("null", .null)]

theorem keyword?_eq_some_iff (word : Text) (kind : TokenKind) :
    keyword? word = some kind ↔ (Text.asciiLower word, kind) ∈ keywords := by
  constructor
  · intro found
    unfold keyword? at found
    split at found
    · next isAnd =>
        cases found
        rw [eq_of_beq isAnd]
        decide
    · split at found
      · next isOr =>
          cases found
          rw [eq_of_beq isOr]
          decide
      · split at found
        · next isNull =>
            cases found
            rw [eq_of_beq isNull]
            decide
        · contradiction
  · intro known
    simp only [keywords, List.mem_cons, Prod.mk.injEq, List.not_mem_nil, or_false] at known
    rcases known with ⟨lowered, rfl⟩ | ⟨lowered, rfl⟩ | ⟨lowered, rfl⟩
    all_goals
      rw [keyword?, Text.sameAscii, Text.sameAscii, Text.sameAscii, lowered]
      decide

theorem keyword?_eq_none_iff (word : Text) :
    keyword? word = none ↔ Text.asciiLower word ∉ (["and", "or", "null"] : List Text) := by
  have listed (lowered : Text) :
      lowered ∈ (["and", "or", "null"] : List Text) ↔ ∃ kind, (lowered, kind) ∈ keywords := by
    simp [keywords, exists_or]
  simp only [listed, Option.eq_none_iff_forall_ne_some, ne_eq, keyword?_eq_some_iff, not_exists]

theorem punctuation?_eq_none_iff (char : Char) :
    punctuation? char = none ↔ char ∉ ['(', ')', ',', '='] := by
  unfold punctuation?
  split <;> simp_all

theorem spells_wordKind {word : Text} (isWord : Text.IsWord word) (after : Text) :
    Spells (wordKind word after) word := by
  unfold wordKind
  split
  · next kind found =>
      have known := (keyword?_eq_some_iff word kind).mp found
      simp only [keywords, List.mem_cons, Prod.mk.injEq, List.not_mem_nil, or_false] at known
      rcases known with ⟨lowered, rfl⟩ | ⟨lowered, rfl⟩ | ⟨lowered, rfl⟩ <;> exact lowered
  · next notKeyword =>
      split
      · exact ⟨isWord, (keyword?_eq_none_iff word).mp notKeyword⟩
      · trivial

theorem spells_of_form {kind : TokenKind} {value source after : Text}
    (form : TokenForm kind value source after) : Spells kind value := by
  cases form with
  | punctuation known =>
      unfold punctuation? at known
      split at known <;> cases known <;> rfl
  | closed | unclosed | number => trivial
  | word start chars => exact spells_wordKind ⟨_, _, rfl, start, chars⟩ _
  | unknown notPunctuation notQuote notStart notDigit notBlank =>
      exact ⟨_, rfl, (punctuation?_eq_none_iff _).mp notPunctuation, notQuote, notStart, notDigit,
        notBlank⟩

theorem wordForm {word after : Text} (isWord : Text.IsWord word)
    (parted : ∀ next, after.head? = some next → Text.isBlank next = true) :
    TokenForm (wordKind word after) word word after := by
  obtain ⟨first, more, rfl, start, chars⟩ := isWord
  exact .word start chars fun next isNext => Text.isWordChar_of_isBlank (parted next isNext)

theorem keywordForm {word after : Text} {kind : TokenKind}
    (known : (Text.asciiLower word, kind) ∈ keywords)
    (parted : ∀ next, after.head? = some next → Text.isBlank next = true) :
    TokenForm kind word word after := by
  have kindEq : wordKind word after = kind := by
    rw [wordKind, (keyword?_eq_some_iff word kind).mpr known]
  have isWord : Text.IsWord word := by
    apply Text.isWord_of_asciiLower
    · rintro rfl
      revert known
      simp [keywords, Text.asciiLower]
    · simp only [keywords, List.mem_cons, Prod.mk.injEq, List.not_mem_nil, or_false] at known
      rcases known with ⟨lowered, _⟩ | ⟨lowered, _⟩ | ⟨lowered, _⟩
      all_goals
        rw [lowered]
        exact List.all_eq_true.mp (by decide)
  rw [← kindEq]
  exact wordForm isWord parted

theorem form_written {token : Token} {after : Text} (spells : Spells token.kind token.value)
    (notEnd : token.kind ≠ .endOfQuery)
    (parted : ∀ next, after.head? = some next → Text.isBlank next = true)
    (named : token.kind = .propertyName → (Text.trimStart after).head? = some '=') :
    TokenForm token.kind token.value token.written after := by
  obtain ⟨kind, value, position⟩ := token
  cases kind with
  | propertyName =>
      obtain ⟨isWord, notKeyword⟩ := spells
      have kindEq : wordKind value after = .propertyName := by
        rw [wordKind, (keyword?_eq_none_iff value).mpr notKeyword]
        exact if_pos (named rfl)
      have form := wordForm isWord parted
      rwa [kindEq] at form
  | propertyValue =>
      have form : TokenForm .propertyValue (Text.unescape (Text.escape value))
          ('"' :: (Text.escape value ++ ['"'])) after :=
        .closed isQuote_double (Text.closesAfter_escape value)
      rwa [Text.unescape_escape] at form
  | parenthesisOpen | parenthesisClose | comma | equals =>
      cases spells
      exact .punctuation rfl
  | and | or | null =>
      have lowered : Text.asciiLower value = _ := spells
      exact keywordForm (by simp [keywords, lowered]) parted
  | endOfQuery => contradiction
  | unknown =>
      obtain ⟨char, rfl, notPunctuation, notQuote, notStart, notDigit, notBlank⟩ := spells
      exact .unknown ((punctuation?_eq_none_iff char).mpr notPunctuation) notQuote notStart notDigit
        notBlank

end Token

/-! What a query gives is a sentence. -/

namespace TokenForm

variable {kind : TokenKind} {value source after : Text}

theorem next_of_name (form : TokenForm kind value source after) (isName : kind = .propertyName) :
    (Text.trimStart after).head? = some '=' := by
  cases form with
  | punctuation known =>
      rw [isName] at known
      unfold punctuation? at known
      split at known <;> contradiction
  | word =>
      unfold wordKind at isName
      split at isName
      · next kind found =>
          rw [isName, Token.keyword?_eq_some_iff] at found
          simp [Token.keywords] at found
      · split at isName
        · next equals => exact equals
        · contradiction
  | closed | unclosed | number | unknown => contradiction

theorem kind_of_equals (form : TokenForm kind value source after)
    (equals : (source ++ after).head? = some '=') : kind = .equals := by
  cases form with
  | punctuation known =>
      cases equals
      exact (Option.some.inj known).symm
  | closed isQuote | unclosed isQuote =>
      cases equals
      revert isQuote
      simp [IsQuote]
  | word start =>
      cases equals
      exact absurd start (by decide)
  | number digit =>
      cases equals
      exact absurd digit (by decide)
  | unknown notPunctuation =>
      cases equals
      contradiction

end TokenForm

namespace Tiles

variable {position : Nat} {text : Text} {lexemes : List Lexeme}

theorem head_equals (tiles : Tiles position text lexemes)
    (equals : (Text.trimStart text).head? = some '=') :
    ∃ first later, lexemes = first :: later ∧ first.kind = .equals := by
  cases tiles with
  | gap blank =>
      rw [Text.trimStart, (Text.dropWhile_eq_nil_iff _ _).mpr blank] at equals
      contradiction
  | @token _ _ gap lexeme after later textEq blank _ form =>
      have notBlank : ∀ next, (lexeme.source ++ after).head? = some next →
          Text.isBlank next = false := fun _ => form.head_not_blank
      rw [textEq, Text.trimStart, Text.dropWhile_run blank notBlank] at equals
      exact ⟨lexeme, later, rfl, form.kind_of_equals equals⟩

theorem spelled (tiles : Tiles position text lexemes) :
    ∀ lexeme ∈ lexemes, Token.Spells lexeme.kind lexeme.value := by
  induction tiles with
  | gap _ => simp
  | token _ _ _ form _ ih => exact List.forall_mem_cons.mpr ⟨Token.spells_of_form form, ih⟩

theorem named (tiles : Tiles position text lexemes) (last : Token) :
    (lexemes.map Lexeme.toToken ++ [last]).IsChain fun token next =>
      token.kind = .propertyName → next.kind = .equals := by
  induction tiles with
  | gap _ => exact List.isChain_singleton last
  | token _ _ _ form tiles ih =>
      rw [List.map_cons, List.cons_append, List.isChain_cons]
      refine ⟨?_, ih⟩
      intro next isNext isName
      obtain ⟨first, later, rfl, isEquals⟩ := tiles.head_equals (form.next_of_name isName)
      cases isNext
      exact isEquals

end Tiles

namespace Token

theorem isSentence_tokenize (query : Text) : IsSentence (tokenize query) := by
  obtain ⟨lexemes, tokensEq, tiles⟩ := tokenize_tiles query
  rw [tokensEq]
  constructor
  · rw [List.forall_mem_append, List.forall_mem_map, List.forall_mem_singleton]
    exact ⟨tiles.spelled, rfl⟩
  · exact tiles.named _
  · refine ⟨lexemes.map Lexeme.toToken, _, rfl, rfl, ?_⟩
    rw [List.forall_mem_map]
    exact tiles.kind_ne_endOfQuery

/-! A sentence is read as it was written. -/

theorem exists_join_cons (separator first : Text) (rest : List Text) :
    ∃ back, Text.join separator (first :: rest) = first ++ back := by
  cases rest with
  | nil => exact ⟨[], (List.append_nil first).symm⟩
  | cons next more => exact ⟨_, List.append_assoc _ _ _⟩

theorem readsAs_join {front : List Token} {last : Token} (isEnd : last.kind = .endOfQuery)
    (spelled : ∀ token ∈ front, Spells token.kind token.value)
    (notEnd : ∀ token ∈ front, token.kind ≠ .endOfQuery)
    (named : (front ++ [last]).IsChain fun token next =>
      token.kind = .propertyName → next.kind = .equals)
    {gap : Text} (blank : ∀ char ∈ gap, Text.isBlank char = true) :
    ReadsAs (gap ++ Text.join [' '] (front.map written)) (front.map content) := by
  -- `gap` is the white space that the token before has left.
  induction front generalizing gap with
  | nil =>
      rw [List.map_nil, Text.join, List.append_nil]
      exact readsAs_of_blank blank
  | cons token rest ih =>
      obtain ⟨tokenSpells, restSpelled⟩ := List.forall_mem_cons.mp spelled
      obtain ⟨tokenNotEnd, restNotEnd⟩ := List.forall_mem_cons.mp notEnd
      rw [List.cons_append, List.isChain_cons] at named
      obtain ⟨tokenNamed, restNamed⟩ := named
      cases rest with
      | nil =>
          have form : TokenForm token.kind token.value token.written [] := by
            apply form_written tokenSpells tokenNotEnd (by simp)
            intro isName
            have isEquals := tokenNamed last rfl isName
            rw [isEnd] at isEquals
            contradiction
          have atEnd : ReadsAs [] [] := readsAs_of_blank (by simp)
          have reads := atEnd.token form blank
          rwa [List.append_nil] at reads
      | cons next more =>
          have space : ∀ char ∈ [' '], Text.isBlank char = true := by
            rw [List.forall_mem_singleton]
            decide
          have later := ih restSpelled restNotEnd restNamed space
          have form : TokenForm token.kind token.value token.written
              ([' '] ++ Text.join [' '] ((next :: more).map written)) := by
            apply form_written tokenSpells tokenNotEnd
            · rintro _ ⟨⟩
              exact space ' ' List.mem_cons_self
            · intro isName
              have isEquals := tokenNamed next rfl isName
              have nextSpells := restSpelled next List.mem_cons_self
              rw [isEquals] at nextSpells
              have nextWritten : next.written = ['='] := by
                rw [written, isEquals, if_neg (by decide)]
                exact nextSpells
              obtain ⟨back, joined⟩ := exists_join_cons [' '] ['='] (more.map written)
              rw [List.map_cons, nextWritten, joined]
              rfl
          have reads := later.token form blank
          rwa [List.map_cons, List.map_cons, Text.join, List.append_assoc]

theorem IsSentence.tokenize_eq {tokens : List Token} (sentence : IsSentence tokens) :
    (tokenize (printed tokens)).map content = tokens.map content := by
  obtain ⟨spelled, named, front, last, rfl, isEnd, notEnd⟩ := sentence
  obtain ⟨frontSpelled, lastSpelled⟩ := List.forall_mem_append.mp spelled
  have lastSpells := lastSpelled last (List.mem_singleton_self last)
  rw [isEnd] at lastSpells
  have kept : (front ++ [last]).filter (fun token => token.kind ≠ .endOfQuery) = front := by
    rw [List.filter_append, List.filter_eq_self.mpr (by simpa using notEnd)]
    simp [isEnd]
  have nothing : ∀ char ∈ ([] : Text), Text.isBlank char = true := by simp
  have reads := readsAs_join isEnd frontSpelled notEnd named nothing
  rw [List.nil_append] at reads
  have lastContent : last.content = (.endOfQuery, []) := Prod.ext isEnd lastSpells
  rw [printed, kept, reads.tokenize, List.map_append, List.map_singleton, lastContent]

/-- Writing tokens and reading them again loses nothing but their places. -/
theorem tokenize_printed :
    (∀ query, (tokenize (printed (tokenize query))).map content = (tokenize query).map content) ∧
    ∀ tokens, IsSentence tokens → (tokenize (printed tokens)).map content = tokens.map content :=
  ⟨fun query => (isSentence_tokenize query).tokenize_eq, fun _ sentence => sentence.tokenize_eq⟩

def mixedTokens : List Token :=
  [⟨.unknown, "\\", 0⟩, ⟨.or, "oR", 0⟩, ⟨.propertyName, "größe_1", 0⟩, ⟨.equals, "=", 0⟩,
    ⟨.propertyValue, "\\ AND \"'\n", 0⟩, ⟨.propertyValue, "", 0⟩, ⟨.endOfQuery, "", 0⟩]

theorem tokenize_printed_mixedTokens :
    IsSentence mixedTokens ∧
    printed mixedTokens = "\\ oR größe_1 = \"\\\\ AND \\\"'\n\" \"\"" ∧
    (tokenize (printed mixedTokens)).map content = mixedTokens.map content := by
  have word : Text.IsWord "größe_1" :=
    ⟨'g', "röße_1", rfl, by decide, List.all_eq_true.mp (by decide)⟩
  have unknown : ∃ char, ("\\" : Text) = [char] ∧ char ∉ ['(', ')', ',', '='] ∧ ¬ IsQuote char ∧
      Text.isWordStart char = false ∧ Text.isDecimalDigit char = false ∧
      Text.isBlank char = false :=
    ⟨'\\', rfl, by decide, by simp [IsQuote], by decide, by decide, by decide⟩
  have sentence : IsSentence mixedTokens := by
    constructor
    · simp only [mixedTokens, List.forall_mem_cons]
      exact ⟨unknown, rfl, ⟨word, by decide⟩, rfl, trivial, trivial, rfl, by simp⟩
    · simp [mixedTokens]
    · exact ⟨mixedTokens.dropLast, ⟨.endOfQuery, "", 0⟩, rfl, rfl, by decide⟩
  exact ⟨sentence, by decide, tokenize_printed.2 mixedTokens sentence⟩

end Token

end TopicSieve
