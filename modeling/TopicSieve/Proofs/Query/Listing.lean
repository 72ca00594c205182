import TopicSieve.Proofs.Query.Quotation
import TopicSieve.Proofs.Text.Digits

/-!
How many lines the listing of a query's tokens has. A value is shown as it is, so a line feed in a
quoted string goes on in the listing. Main statement: the listing has one line for each token and
one more for each line feed inside quoted strings.
-/

namespace TopicSieve

/-! Line feeds of a query and of its values -/

namespace Quotation

def feedsWithin (state : Quotation) : Text → Nat
  | [] => 0
  | char :: rest =>
      (if char = '\n' ∧ state ≠ outside then 1 else 0) + feedsWithin (state.next char) rest

theorem feedsWithin_append (state : Quotation) (front back : Text) :
    feedsWithin state (front ++ back) =
      feedsWithin state front + feedsWithin (state.run front) back := by
  induction front generalizing state with
  | nil => simp [feedsWithin, run]
  | cons char rest ih =>
      have runEq : state.run (char :: rest) = (state.next char).run rest := rfl
      rw [List.cons_append, feedsWithin, feedsWithin, ih, runEq]
      omega

theorem feedsWithin_eq_count {state : Quotation} {text : Text} {index : Nat}
    (nothing : outsideFrom index state text = []) : feedsWithin state text = text.count '\n' := by
  induction text generalizing index state with
  | nil => rfl
  | cons char rest ih =>
      rw [outsideFrom] at nothing
      by_cases atOutside : state = outside
      · rw [if_pos atOutside] at nothing
        contradiction
      · rw [if_neg atOutside] at nothing
        rw [feedsWithin, ih nothing, List.count_cons]
        by_cases feed : char = '\n'
        · simp [feed, atOutside, Nat.add_comm]
        · simp [feed]

theorem feedsWithin_plain {text : Text} (plain : ∀ char ∈ text, ¬ IsQuote char) :
    feedsWithin outside text = 0 := by
  induction text with
  | nil => rfl
  | cons char rest ih =>
      obtain ⟨notQuote, restPlain⟩ := List.forall_mem_cons.mp plain
      have nextEq : outside.next char = outside := if_neg notQuote
      simp [feedsWithin, nextEq, ih restPlain]

theorem feedsWithin_quote {quote : Char} (isQuote : IsQuote quote) (body : Text) :
    feedsWithin outside (quote :: body) = feedsWithin (inside quote) body := by
  simp [feedsWithin, next_quote isQuote]

end Quotation

theorem IsQuote.ne_feed {quote : Char} (isQuote : IsQuote quote) : quote ≠ '\n' := by
  rcases isQuote with rfl | rfl <;> decide

theorem isWordChar_feed : Text.isWordChar '\n' = false := by decide

theorem feed_not_mem_run {run : Text} (chars : ∀ char ∈ run, Text.isWordChar char = true) :
    '\n' ∉ run := by
  intro member
  have isChar := chars '\n' member
  rw [isWordChar_feed] at isChar
  contradiction

namespace TokenForm

variable {kind : TokenKind} {value source after : Text}

theorem feeds_of_plain (plain : ∀ char ∈ source, ¬ IsQuote char) (oneLine : '\n' ∉ source) :
    Quotation.feedsWithin .outside source = source.count '\n' := by
  rw [Quotation.feedsWithin_plain plain, List.count_eq_zero_of_not_mem oneLine]

theorem feeds_of_run (chars : ∀ char ∈ source, Text.isWordChar char = true) :
    Quotation.feedsWithin .outside source = source.count '\n' := by
  apply feeds_of_plain
  · intro char member
    exact (isPlain_of_isWordChar (chars char member)).1
  · exact feed_not_mem_run chars

theorem feedsWithin_source (form : TokenForm kind value source after) :
    Quotation.feedsWithin .outside source = value.count '\n' := by
  cases form with
  | @punctuation char _ _ known =>
      apply feeds_of_plain
      · exact List.forall_mem_singleton.mpr (punctuation?_eq_some known).1
      · intro member
        rw [← List.mem_singleton.mp member] at known
        contradiction
  | @closed quote body _ isQuote closes =>
      have nothing := (Quotation.run_closed isQuote.ne_backslash closes 0).1
      rw [Quotation.feedsWithin_quote isQuote, Quotation.feedsWithin_eq_count nothing,
        List.count_append, Text.count_unescape (by decide), List.count_singleton]
      simp [isQuote.ne_feed]
  | @unclosed quote body isQuote unclosed =>
      have nothing := (Quotation.run_unclosed unclosed 0).1
      rw [Quotation.feedsWithin_quote isQuote, Quotation.feedsWithin_eq_count nothing,
        Text.count_unescape (by decide)]
  | @word first more _ start chars =>
      apply feeds_of_run
      exact List.forall_mem_cons.mpr ⟨(Text.isWordChar_iff first).mpr (Or.inl start), chars⟩
  | @number first more _ digit digits =>
      apply feeds_of_run
      intro char member
      rw [Text.isWordChar_iff]
      rcases List.mem_cons.mp member with rfl | inMore
      · exact Or.inr digit
      · exact Or.inr (digits char inMore)
  | @unknown char _ _ notQuote _ _ notBlank =>
      apply feeds_of_plain
      · exact List.forall_mem_singleton.mpr notQuote
      · intro member
        rw [← List.mem_singleton.mp member] at notBlank
        contradiction

end TokenForm

theorem Tiles.feedsWithin {position : Nat} {text : Text} {lexemes : List Lexeme}
    (tiles : Tiles position text lexemes) :
    Quotation.feedsWithin .outside text =
      (lexemes.flatMap fun lexeme => lexeme.value).count '\n' := by
  induction tiles with
  | gap blank =>
      exact Quotation.feedsWithin_plain fun char member =>
        (isPlain_of_isBlank (blank char member)).1
  | @token position text gap lexeme after later textEq blank placed form tiles ih =>
      have gapFeeds : Quotation.feedsWithin .outside gap = 0 :=
        Quotation.feedsWithin_plain fun char member => (isPlain_of_isBlank (blank char member)).1
      have afterFeeds : Quotation.feedsWithin (Quotation.outside.run lexeme.source) after =
          (later.flatMap fun lexeme => lexeme.value).count '\n' := by
        rcases (form.quotation 0).2 with atOutside | ⟨rfl, _⟩
        · rw [atOutside, ih]
        · rw [← ih]
          rfl
      rw [textEq, Quotation.feedsWithin_append, gapFeeds, (Quotation.run_blank blank 0).1,
        Quotation.feedsWithin_append, form.feedsWithin_source, afterFeeds, List.flatMap_cons,
        List.count_append, Nat.zero_add]

/-! The form in which a token is shown -/

namespace TokenKind

def all : List TokenKind :=
  [propertyName, propertyValue, parenthesisOpen, parenthesisClose, comma, and, or, equals, null,
    endOfQuery, unknown]

theorem find?_name (kind : TokenKind) : (all.find? fun other => other.name == kind.name) = some kind := by
  cases kind <;> rfl

theorem name_injective {kind other : TokenKind} (same : kind.name = other.name) : kind = other := by
  have found := find?_name kind
  rw [same, find?_name] at found
  exact (Option.some.inj found).symm

theorem not_mem_name (kind : TokenKind) : '\n' ∉ kind.name ∧ '(' ∉ kind.name := by
  cases kind <;> decide

end TokenKind

namespace Token

theorem describe_eq (token : Token) : token.describe = token.kind.name ++ '(' ::
    ('\'' :: token.value ++ "')".toList ++ '@' :: Text.ofNat token.position) := by
  simp [describe]

theorem count_describe (token : Token) : token.describe.count '\n' = token.value.count '\n' := by
  have nameCount := List.count_eq_zero_of_not_mem token.kind.not_mem_name.1
  have digitsCount := List.count_eq_zero_of_not_mem
    (@Text.not_mem_ofNat '\n' (by decide) token.position)
  simp [describe, List.count_append, nameCount, digitsCount]

theorem describe_injective {token other : Token} (same : token.describe = other.describe) :
    token = other := by
  have split (token : Token) : Text.splitFirst '(' token.describe = some (token.kind.name,
      '\'' :: token.value ++ "')".toList ++ '@' :: Text.ofNat token.position) := by
    rw [Text.splitFirst_eq_some_iff]
    exact ⟨describe_eq token, token.kind.not_mem_name.2⟩
  have splitBack (token : Token) : Text.splitFirst '@'
      ('\'' :: token.value ++ "')".toList ++ '@' :: Text.ofNat token.position).reverse =
        some ((Text.ofNat token.position).reverse,
          ('\'' :: token.value ++ "')".toList).reverse) := by
    rw [Text.splitFirst_eq_some_iff]
    constructor
    · simp
    · rw [List.mem_reverse]
      exact Text.not_mem_ofNat (by decide) token.position
  have sameSplit := split token
  rw [same, split other, Option.some.injEq, Prod.mk.injEq] at sameSplit
  obtain ⟨sameName, sameRest⟩ := sameSplit
  have sameBack := splitBack token
  rw [← sameRest, splitBack other, Option.some.injEq, Prod.mk.injEq, List.reverse_inj,
    List.reverse_inj] at sameBack
  obtain ⟨samePosition, sameQuoted⟩ := sameBack
  have positionEq := congrArg Text.decimalValue samePosition
  rw [Text.decimalValue_ofNat, Text.decimalValue_ofNat] at positionEq
  have valueEq := (List.cons.inj (List.append_cancel_right sameQuoted)).2
  cases token
  cases other
  simp only [mk.injEq]
  exact ⟨(TokenKind.name_injective sameName).symm, valueEq.symm, positionEq.symm⟩

/-! The listing -/

def line (token : Token) : Text := "  " ++ token.describe

theorem count_listing (tokens : List Token) :
    (listing tokens).count '\n' = tokens.length + (tokens.flatMap Token.value).count '\n' := by
  induction tokens with
  | nil => rfl
  | cons token rest ih =>
      have restEq : (rest.flatMap fun token => "  ".toList ++ token.describe ++ "\n".toList).count
          '\n' = rest.length + (rest.flatMap Token.value).count '\n' := ih
      have spaces : "  ".toList.count '\n' = 0 := rfl
      have feed : "\n".toList.count '\n' = 1 := rfl
      rw [listing, List.flatMap_cons, List.count_append, List.count_append, List.count_append,
        restEq, spaces, feed, count_describe, List.length_cons, List.flatMap_cons,
        List.count_append]
      omega

theorem splitOn_listing (tokens : List Token) :
    Text.splitOn '\n' (listing tokens) =
      (tokens.flatMap fun token => Text.splitOn '\n' token.line) ++ [[]] := by
  induction tokens with
  | nil => rfl
  | cons token rest ih =>
      have consEq : listing (token :: rest) = token.line ++ '\n' :: listing rest := by
        simp [listing, line]
      rw [consEq, Text.splitOn_append, ih, List.flatMap_cons, List.append_assoc]

theorem splitOn_listing_of_oneLine {tokens : List Token}
    (oneLine : ∀ token ∈ tokens, token.value.count '\n' = 0) :
    Text.splitOn '\n' (listing tokens) = tokens.map line ++ [[]] := by
  have lineEq : ∀ token ∈ tokens, Text.splitOn '\n' token.line = [token.line] := by
    intro token member
    apply Text.splitOn_of_not_mem
    have noFeed := oneLine token member
    rw [← count_describe, List.count_eq_zero] at noFeed
    simp [line, noFeed]
  rw [splitOn_listing, List.flatMap_congr lineEq, ← List.map_eq_flatMap]

theorem count_listing_tokenize (query : Text) : (listing (tokenize query)).count '\n' =
    (tokenize query).length + Quotation.feedsWithin .outside query := by
  obtain ⟨lexemes, tokensEq, tiles⟩ := tokenize_tiles query
  have valuesEq : (tokenize query).flatMap Token.value =
      lexemes.flatMap fun lexeme => lexeme.value := by
    rw [tokensEq, List.flatMap_append, List.flatMap_map]
    exact List.append_nil _
  rw [count_listing, valuesEq, tiles.feedsWithin]

/-- Each token begins on a line of its own, and its value takes as many more as it has line feeds.
So the listing has one line for each token if and only if no line feed of the query stands inside a
quoted string, and then the lines tell the tokens. -/
theorem listing_lines (query : Text) :
    (listing (tokenize query)).count '\n' =
      (tokenize query).length + Quotation.feedsWithin .outside query ∧
    Text.splitOn '\n' (listing (tokenize query)) =
      ((tokenize query).flatMap fun token => Text.splitOn '\n' token.line) ++ [[]] ∧
    (Text.splitOn '\n' (listing (tokenize query)) = (tokenize query).map line ++ [[]] ↔
      Quotation.feedsWithin .outside query = 0) ∧
    ∀ other, Quotation.feedsWithin .outside query = 0 → Quotation.feedsWithin .outside other = 0 →
      listing (tokenize query) = listing (tokenize other) → tokenize query = tokenize other := by
  have oneLineEach {query : Text} (noFeed : Quotation.feedsWithin .outside query = 0) :
      Text.splitOn '\n' (listing (tokenize query)) = (tokenize query).map line ++ [[]] := by
    have countEq := count_listing_tokenize query
    rw [count_listing, noFeed] at countEq
    have valuesEq : ((tokenize query).flatMap Token.value).count '\n' = 0 := by omega
    rw [List.count_eq_zero] at valuesEq
    apply splitOn_listing_of_oneLine
    intro token member
    rw [List.count_eq_zero]
    intro feed
    exact valuesEq (List.mem_flatMap.mpr ⟨token, member, feed⟩)
  refine ⟨count_listing_tokenize query, splitOn_listing _, ?_, ?_⟩
  · constructor
    · intro linesEq
      have lengthEq := congrArg List.length linesEq
      rw [Text.length_splitOn, count_listing_tokenize, List.length_append, List.length_map,
        List.length_singleton] at lengthEq
      omega
    · exact oneLineEach
  · intro other noFeed noOtherFeed same
    have linesEq := oneLineEach noFeed
    rw [same, oneLineEach noOtherFeed] at linesEq
    have line_injective : Function.Injective line := by
      intro token other sameLine
      exact describe_injective (List.append_cancel_left sameLine)
    exact (List.map_injective_iff.mpr line_injective (List.append_cancel_right linesEq)).symm

theorem listing_lines_feedBetween :
    let query : Text := "a=\n'b'"
    let other : Text := "a=\t\"b\""
    (Quotation.feedsWithin .outside query = 0 ∧ Quotation.feedsWithin .outside other = 0 ∧
        listing (tokenize query) = listing (tokenize other)) ∧
      tokenize query = tokenize other := by
  intro query other
  let tokens : List Token := [⟨.propertyName, "a", 0⟩, ⟨.equals, "=", 1⟩, ⟨.propertyValue, "b", 3⟩,
    ⟨.endOfQuery, "", 6⟩]
  have queryTokens : tokenize query = tokens := tokenize_of_stream (by decide)
  have otherTokens : tokenize other = tokens := tokenize_of_stream (by decide)
  have noFeed : Quotation.feedsWithin .outside query = 0 := by decide
  have noOtherFeed : Quotation.feedsWithin .outside other = 0 := by decide
  have same : listing (tokenize query) = listing (tokenize other) := by
    rw [queryTokens, otherTokens]
  exact ⟨⟨noFeed, noOtherFeed, same⟩, (listing_lines query).2.2.2 other noFeed noOtherFeed same⟩

/-- A quoted string with a line feed takes two lines. What it holds can make them look like the
lines of two tokens, so that another query has the same listing. -/
theorem not_listing_oneLineEach :
    let query : Text := " \"1')@0\n  PropertyValue('b\""
    let other : Text := "1b                         "
    Text.splitOn '\n' (listing (tokenize query)) ≠ (tokenize query).map line ++ [[]] ∧
      (listing (tokenize query) = listing (tokenize other) ∧
        (tokenize query).length ≠ (tokenize other).length) := by
  intro query other
  have queryTokens : tokenize query =
      [⟨.propertyValue, "1')@0\n  PropertyValue('b", 1⟩, ⟨.endOfQuery, "", 27⟩] :=
    tokenize_of_stream (by decide)
  have otherTokens : tokenize other =
      [⟨.propertyValue, "1", 0⟩, ⟨.propertyValue, "b", 1⟩, ⟨.endOfQuery, "", 27⟩] :=
    tokenize_of_stream (by decide)
  rw [queryTokens, otherTokens]
  decide

end Token

end TopicSieve
