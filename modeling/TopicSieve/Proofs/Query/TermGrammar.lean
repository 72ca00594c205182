import TopicSieve.Proofs.Query.Reading
import TopicSieve.Proofs.Query.Written
import TopicSieve.Query.Warning

/-!
The grammar of terms: a word, an equals sign and a quoted value, with commas between the terms and
white space anywhere around the parts. Tokens are read character by character, and pairs are cut out
of the query at commas and equals signs. Main statement: on the grammar both find the same keys and
values, and the warnings are about repeated keys alone.
-/

namespace TopicSieve

namespace WrittenTerm

/-- The key is a word and no keyword, and the value has nothing that ends or escapes it. -/
structure Grammatical (term : WrittenTerm) : Prop where
  key_word : ∃ first more, term.key = first :: more ∧ Text.isWordStart first = true ∧
    ∀ char ∈ more, Text.isWordChar char = true
  key_notKeyword : Text.asciiLower term.key ∉ (["and", "or", "null"] : List Text)
  value_comma : ',' ∉ term.value
  value_backslash : '\\' ∉ term.value
  value_quote : term.quote ∉ term.value

variable {term : WrittenTerm}

theorem Grammatical.isWordChar (grammatical : term.Grammatical) :
    ∀ char ∈ term.key, Text.isWordChar char = true := by
  obtain ⟨first, more, keyEq, start, chars⟩ := grammatical.key_word
  rw [keyEq, List.forall_mem_cons]
  exact ⟨(Text.isWordChar_iff first).mpr (Or.inl start), chars⟩

theorem Grammatical.not_mem_key (grammatical : term.Grammatical) {char : Char}
    (notWord : Text.isWordChar char = false) : char ∉ term.key := by
  intro member
  rw [grammatical.isWordChar char member] at notWord
  contradiction

theorem Grammatical.plainPair (grammatical : term.Grammatical) : PlainPair term.pair where
  key_ne_nil := by
    obtain ⟨first, more, keyEq, _⟩ := grammatical.key_word
    rw [pair, keyEq]
    exact List.cons_ne_nil first more
  key_trimmed := by
    constructor
    · intro first isFirst
      exact Text.isBlank_of_isWordChar (grammatical.isWordChar first (List.mem_of_head? isFirst))
    · intro final isFinal
      exact Text.isBlank_of_isWordChar (grammatical.isWordChar final (List.mem_of_getLast? isFinal))
  key_comma := grammatical.not_mem_key (by decide)
  key_equals := grammatical.not_mem_key (by decide)
  value_comma := grammatical.value_comma

theorem keyword?_eq_none {word : Text}
    (notKeyword : Text.asciiLower word ∉ (["and", "or", "null"] : List Text)) :
    keyword? word = none := by
  have lower : Text.asciiLower "and" = "and" ∧ Text.asciiLower "or" = "or" ∧
      Text.asciiLower "null" = "null" := by decide
  simp only [List.mem_cons, List.not_mem_nil, or_false, not_or] at notKeyword
  obtain ⟨notAnd, notOr, notNull⟩ := notKeyword
  simp only [keyword?, Text.sameAscii, lower, beq_iff_eq, notAnd, notOr, notNull, if_false]

theorem Grammatical.wordKind_key (grammatical : term.Grammatical) (after : Text) :
    wordKind term.key (term.afterKey.text ++ '=' :: after) = .propertyName := by
  have stops : ∀ next, ('=' :: after).head? = some next → Text.isBlank next = false := by
    rintro _ ⟨⟩
    decide
  have next : Text.trimStart (term.afterKey.text ++ '=' :: after) = '=' :: after :=
    Text.dropWhile_run term.afterKey.blank stops
  simp [wordKind, keyword?_eq_none grammatical.key_notKeyword, next]

theorem Grammatical.nameForm (grammatical : term.Grammatical) (after : Text) :
    TokenForm .propertyName term.key term.key (term.afterKey.text ++ '=' :: after) := by
  rw [← grammatical.wordKind_key after]
  obtain ⟨first, more, keyEq, start, chars⟩ := grammatical.key_word
  rw [keyEq]
  refine .word start chars ?_
  intro next isNext
  cases gapEq : term.afterKey.text with
  | nil =>
      rw [gapEq] at isNext
      cases isNext
      decide
  | cons blank gap =>
      rw [gapEq] at isNext
      cases isNext
      have isBlank := term.afterKey.blank next (by rw [gapEq]; exact List.mem_cons_self)
      exact Text.isWordChar_of_isBlank isBlank

theorem Grammatical.literalForm (grammatical : term.Grammatical) (after : Text) :
    TokenForm .propertyValue term.value term.literal after := by
  have closes := QuotedString.closesAfter_of_not_mem term.isQuote.ne_backslash
    grammatical.value_backslash grammatical.value_quote
  have form : TokenForm .propertyValue (Text.unescape term.value) term.literal after :=
    .closed term.isQuote closes
  rwa [Text.unescape_of_not_mem grammatical.value_backslash] at form

def contents (term : WrittenTerm) : List (TokenKind × Text) :=
  [(.propertyName, term.key), (.equals, ['=']), (.propertyValue, term.value)]

theorem Grammatical.readsAs (grammatical : term.Grammatical) {after : Text}
    {later : List (TokenKind × Text)} (reads : ReadsAs (term.afterValue.text ++ after) later) :
    ReadsAs (term.text ++ after) (term.contents ++ later) := by
  have value := reads.token (grammatical.literalForm _) term.beforeValue.blank
  have equalsForm (rest : Text) : TokenForm .equals ['='] ['='] rest := .punctuation rfl
  have equals := value.token (equalsForm _) term.afterKey.blank
  have name := equals.token (grammatical.nameForm _) term.beforeKey.blank
  have textEq : term.text ++ after =
      term.beforeKey.text ++ (term.key ++ (term.afterKey.text ++ (['='] ++
        (term.beforeValue.text ++ (term.literal ++ (term.afterValue.text ++ after)))))) := by
    simp [text, core]
  rw [textEq]
  exact name

variable {terms : List WrittenTerm}

theorem readsAs_query (grammatical : ∀ term ∈ terms, term.Grammatical) :
    ReadsAs (query terms) (List.intercalate [(.comma, [','])] (terms.map contents)) := by
  induction terms with
  | nil => exact readsAs_of_blank Gap.empty.blank
  | cons first rest ih =>
      obtain ⟨firstGrammatical, restGrammatical⟩ := List.forall_mem_cons.mp grammatical
      cases rest with
      | nil =>
          have gap : ReadsAs (first.afterValue.text ++ []) [] := by
            rw [List.append_nil]
            exact readsAs_of_blank first.afterValue.blank
          have reads := firstGrammatical.readsAs gap
          rwa [List.append_nil] at reads
      | cons next more =>
          have commaForm : TokenForm .comma [','] [','] (query (next :: more)) := .punctuation rfl
          have comma := (ih restGrammatical).token commaForm first.afterValue.blank
          have reads := firstGrammatical.readsAs comma
          have queryEq : query (first :: next :: more) =
              first.text ++ ([','] ++ query (next :: more)) := by
            simp [query, Text.join]
          rw [queryEq, List.map_cons, List.map_cons, List.intercalate_cons_cons, List.append_assoc]
          exact reads

theorem isBoolean_contents (terms : List WrittenTerm) :
    ∀ content ∈ List.intercalate [(.comma, [','])] (terms.map contents),
      content.1.isBoolean = false := by
  have own (term : WrittenTerm) : ∀ content ∈ term.contents, content.1.isBoolean = false := by
    simp [contents, TokenKind.isBoolean]
  induction terms with
  | nil => simp
  | cons first rest ih =>
      cases rest with
      | nil => simpa using own first
      | cons next more =>
          rw [List.map_cons, List.map_cons, List.intercalate_cons_cons, List.forall_mem_append,
            List.forall_mem_append]
          exact ⟨⟨own first, by simp [TokenKind.isBoolean]⟩, ih⟩

end WrittenTerm

namespace QueryWarning

theorem ofSegments_cons_of_key {segment key value : Text}
    (split : splitTerm? segment = some (key, value)) (keyed : key ≠ []) (seen rest : List Text) :
    ofSegments seen (segment :: rest) =
      if Text.fold key ∈ seen then duplicateKey key :: ofSegments seen rest
      else ofSegments (Text.fold key :: seen) rest := by
  cases key with
  | nil => contradiction
  | cons first more => simp [ofSegments, split]

theorem ofTokens_eq_nil {tokens : List Token}
    (plain : ∀ content ∈ tokens.map Token.content, content.1.isBoolean = false) :
    ofTokens tokens = [] := by
  rw [List.forall_mem_map] at plain
  rw [ofTokens, List.map_eq_nil_iff, List.filter_eq_nil_iff]
  intro token member
  rw [Bool.not_eq_true]
  exact plain token member

end QueryWarning

namespace WrittenTerm

def repeatsIn (terms : List WrittenTerm) (placed : WrittenTerm × Nat) : Bool :=
  (terms.take placed.2).any fun earlier => Text.fold earlier.key == Text.fold placed.1.key

def repeated (terms : List WrittenTerm) : List WrittenTerm :=
  (terms.zipIdx.filter (repeatsIn terms)).map Prod.fst

def Seen (front : List WrittenTerm) (seen : List Text) : Prop :=
  ∀ folded, folded ∈ seen ↔ ∃ earlier ∈ front, Text.fold earlier.key = folded

theorem Seen.first {front : List WrittenTerm} {seen : List Text} (known : Seen front seen)
    (term : WrittenTerm) : Seen (front ++ [term]) (Text.fold term.key :: seen) := by
  intro folded
  rw [List.mem_cons, known]
  constructor
  · rintro (rfl | ⟨earlier, member, same⟩)
    · exact ⟨term, List.mem_concat_self, rfl⟩
    · exact ⟨earlier, List.mem_append_left [term] member, same⟩
  · rintro ⟨earlier, member, rfl⟩
    rcases List.mem_append.mp member with inFront | isTerm
    · exact Or.inr ⟨earlier, inFront, rfl⟩
    · exact Or.inl (congrArg (Text.fold ·.key) (List.mem_singleton.mp isTerm))

theorem Seen.again {front : List WrittenTerm} {seen : List Text} (known : Seen front seen)
    {term : WrittenTerm} (present : Text.fold term.key ∈ seen) : Seen (front ++ [term]) seen := by
  intro folded
  rw [← known.first term folded, List.mem_cons]
  constructor
  · exact Or.inr
  · rintro (rfl | member)
    · exact present
    · exact member

theorem ofSegments_core {front rest : List WrittenTerm}
    (plain : ∀ term ∈ rest, PlainPair term.pair) {seen : List Text} (known : Seen front seen) :
    QueryWarning.ofSegments seen (rest.map core) =
      ((rest.zipIdx front.length).filter (repeatsIn (front ++ rest))).map
        fun placed => .duplicateKey placed.1.key := by
  -- The folded keys that were seen are always those of the terms in front.
  induction rest generalizing front seen with
  | nil => rfl
  | cons term rest ih =>
      obtain ⟨termPlain, restPlain⟩ := List.forall_mem_cons.mp plain
      have repeats : repeatsIn (front ++ term :: rest) (term, front.length) = true ↔
          Text.fold term.key ∈ seen := by
        simp [repeatsIn, known (Text.fold term.key)]
      have later {seenBehind : List Text} (knownBehind : Seen (front ++ [term]) seenBehind) :
          QueryWarning.ofSegments seenBehind (rest.map core) =
            ((rest.zipIdx (front.length + 1)).filter (repeatsIn (front ++ term :: rest))).map
              fun placed => .duplicateKey placed.1.key := by
        rw [ih restPlain knownBehind, List.append_assoc, List.singleton_append,
          List.length_append, List.length_singleton]
      rw [List.map_cons, List.zipIdx_cons, QueryWarning.ofSegments_cons_of_key
        (splitTerm?_core termPlain) termPlain.key_ne_nil]
      by_cases present : Text.fold term.key ∈ seen
      · rw [if_pos present, List.filter_cons_of_pos (repeats.mpr present), List.map_cons,
          later (known.again present)]
      · rw [if_neg present, List.filter_cons_of_neg (fun found => present (repeats.mp found)),
          later (known.first term)]

/-- A query of grammatical terms gives the same keys and values as tokens and as pairs, and the only
warnings about it are those about keys that are given again. -/
theorem tokens_and_pairs_agree (terms : List WrittenTerm)
    (grammatical : ∀ term ∈ terms, term.Grammatical) :
    (tokenize (query terms)).map Token.content =
      List.intercalate [(.comma, [','])] (terms.map contents) ++ [(.endOfQuery, [])] ∧
    FilterMap.parse (query terms) = FilterMap.ofList (terms.map pair) ∧
    QueryWarning.ofQuery (query terms) =
      (repeated terms).map fun term => .duplicateKey term.key := by
  have plain : ∀ term ∈ terms, PlainPair term.pair :=
    fun term member => (grammatical term member).plainPair
  have tokensEq := (readsAs_query grammatical).tokenize
  refine ⟨tokensEq, parse_query plain, ?_⟩
  have noOperators : QueryWarning.ofTokens (tokenize (query terms)) = [] := by
    apply QueryWarning.ofTokens_eq_nil
    rw [tokensEq, List.forall_mem_append]
    exact ⟨isBoolean_contents terms, by simp [TokenKind.isBoolean]⟩
  have nothingSeen : Seen [] [] := by simp [Seen]
  have duplicates := ofSegments_core plain nothingSeen
  rw [QueryWarning.ofQuery, noOperators, List.append_nil, segments_query plain, duplicates,
    repeated, List.map_map]
  rfl

def sizeTerms : List WrittenTerm :=
  [⟨"Größe", "a=(b) AND 'c", '"', isQuote_double, .ofText " " rfl, .ofText "\t" rfl, .empty,
      .ofText "\u2003" rfl⟩,
    ⟨"GRÖßE", "\"", '\'', isQuote_single, .empty, .empty, .ofText "\n" rfl, .empty⟩]

theorem tokens_and_pairs_agree_sizeTerms :
    query sizeTerms = " Größe\t=\"a=(b) AND 'c\"\u2003,GRÖßE=\n'\"'" ∧
    (∀ term ∈ sizeTerms, term.Grammatical) ∧
    FilterMap.parse (query sizeTerms) = FilterMap.ofList [("GRÖßE", "\"")] ∧
    QueryWarning.ofQuery (query sizeTerms) = [.duplicateKey "GRÖßE"] := by
  have grammatical : ∀ term ∈ sizeTerms, term.Grammatical := by
    refine List.forall_mem_cons.mpr ⟨?_, List.forall_mem_singleton.mpr ?_⟩
    · have word : ∀ char ∈ "röße".toList, Text.isWordChar char = true :=
        List.all_eq_true.mp (by decide)
      exact ⟨⟨'G', "röße", rfl, by decide, word⟩, by decide, by decide, by decide, by decide⟩
    · have word : ∀ char ∈ "RÖßE".toList, Text.isWordChar char = true :=
        List.all_eq_true.mp (by decide)
      exact ⟨⟨'G', "RÖßE", rfl, by decide, word⟩, by decide, by decide, by decide, by decide⟩
  obtain ⟨_, pairsEq, warningsEq⟩ := tokens_and_pairs_agree sizeTerms grammatical
  exact ⟨by decide, grammatical, pairsEq.trans (by decide), warningsEq.trans (by decide)⟩

end WrittenTerm

end TopicSieve
