import TopicSieve.Proofs.Query.Quotation

/-!
Two queries with white space between them. What stands behind can change one token only: a word at
the end of the first query is a name if the second one begins with an equals sign. Main statement:
apart from this, the tokens of both are the tokens of the one followed by those of the other.
-/

namespace TopicSieve

def Token.shift (count : Nat) (token : Token) : Token :=
  { token with position := token.position + count }

def Lexeme.shift (count : Nat) (lexeme : Lexeme) : Lexeme :=
  { lexeme with position := lexeme.position + count }

def Token.IsBareWord (query : Text) (token : Token) : Prop :=
  (query[token.position]?).any Text.isWordStart = true ∧
  Text.asciiLower token.value ∉ (["and", "or", "null"] : List Text)

def IsBare (source value : Text) : Prop :=
  source.head?.any Text.isWordStart = true ∧
  Text.asciiLower value ∉ (["and", "or", "null"] : List Text)

def Lexeme.IsBareWord (lexeme : Lexeme) : Prop := IsBare lexeme.source lexeme.value

instance (lexeme : Lexeme) : Decidable lexeme.IsBareWord :=
  inferInstanceAs (Decidable (_ ∧ _))

theorem wordKind_congr {word after other : Text}
    (same : Text.asciiLower word ∉ (["and", "or", "null"] : List Text) →
      ((Text.trimStart after).head? = some '=' ↔ (Text.trimStart other).head? = some '=')) :
    wordKind word after = wordKind word other := by
  unfold wordKind
  split
  · rfl
  · next notKeyword =>
      have sameNext := same ((Token.keyword?_eq_none_iff word).mp notKeyword)
      simp only [sameNext]

namespace TokenForm

variable {kind : TokenKind} {value source after other : Text}

theorem run_ends {runs : Char → Bool}
    (ends : ∀ next, other.head? = some next →
      after.head? = some next ∨ Text.isBlank next = true)
    (noBlank : ∀ next, Text.isBlank next = true → runs next = false)
    (ended : ∀ next, after.head? = some next → runs next = false) :
    ∀ next, other.head? = some next → runs next = false := by
  intro next isNext
  rcases ends next isNext with asBefore | blank
  · exact ended next asBefore
  · exact noBlank next blank

theorem in_front_of (form : TokenForm kind value source after)
    (closed : ¬ IsUnclosed source)
    (ends : ∀ next, other.head? = some next →
      after.head? = some next ∨ Text.isBlank next = true)
    (same : IsBare source value →
      ((Text.trimStart after).head? = some '=' ↔ (Text.trimStart other).head? = some '=')) :
    TokenForm kind value source other := by
  cases form with
  | punctuation known => exact .punctuation known
  | closed isQuote closes => exact .closed isQuote closes
  | unclosed isQuote unclosed => exact absurd ⟨_, _, rfl, isQuote, unclosed⟩ closed
  | @word first more _ start chars ended =>
      rw [wordKind_congr fun notKeyword => same ⟨start, notKeyword⟩]
      exact .word start chars (run_ends ends (fun _ => Text.isWordChar_of_isBlank) ended)
  | number digit digits ended =>
      exact .number digit digits (run_ends ends (fun _ => Text.isDecimalDigit_of_isBlank) ended)
  | unknown notPunctuation notQuote notStart notDigit notBlank =>
      exact .unknown notPunctuation notQuote notStart notDigit notBlank

theorem kind_of_bareWord (form : TokenForm kind value source after)
    (bare : IsBare source value)
    (noEquals : (Text.trimStart after).head? ≠ some '=') : kind = .propertyValue := by
  obtain ⟨start, notKeyword⟩ := bare
  cases form with
  | punctuation known => simp [(punctuation?_eq_some known).2.1] at start
  | closed | unclosed | number => rfl
  | unknown _ _ notStart => simp [notStart] at start
  | word =>
      rw [wordKind, (Token.keyword?_eq_none_iff _).mpr notKeyword]
      exact if_neg noEquals

theorem named_in_front_of (form : TokenForm kind value source after)
    (bare : IsBare source value)
    (ends : ∀ next, other.head? = some next →
      after.head? = some next ∨ Text.isBlank next = true)
    (equals : (Text.trimStart other).head? = some '=') :
    TokenForm .propertyName value source other := by
  obtain ⟨start, notKeyword⟩ := bare
  cases form with
  | punctuation known => simp [(punctuation?_eq_some known).2.1] at start
  | closed isQuote | unclosed isQuote => simp [isWordStart_quote isQuote] at start
  | number digit => simp [Text.isWordStart_of_isDecimalDigit digit] at start
  | unknown _ _ notStart => simp [notStart] at start
  | @word first more _ isStart chars ended =>
      rw [← (wordKind_eq_propertyName_iff _ _).mpr ⟨notKeyword, equals⟩]
      exact .word isStart chars (run_ends ends (fun _ => Text.isWordChar_of_isBlank) ended)

end TokenForm

/-- The lexemes in front of a text whose first character that is no white space is `next`: a bare
word that stands last is a name if this is an equals sign. -/
def nameLast (next : Option Char) : List Lexeme → List Lexeme
  | [] => []
  | [last] =>
      if last.IsBareWord ∧ next = some '=' then [{ last with kind := .propertyName }] else [last]
  | first :: second :: rest => first :: nameLast next (second :: rest)

namespace Tiles

variable {position : Nat} {text back gap : Text} {lexemes later : List Lexeme}

theorem shift (tiles : Tiles position text lexemes) (count : Nat) :
    Tiles (position + count) text (lexemes.map (Lexeme.shift count)) := by
  induction tiles with
  | gap blank => exact .gap blank
  | @token position text gap lexeme after later textEq blank placed form _ ih =>
      have stopEq : (lexeme.shift count).stop = lexeme.stop + count := by
        simp only [Lexeme.stop, Lexeme.shift]
        omega
      refine .token textEq blank ?_ form ?_
      · simp only [Lexeme.shift, placed]
        omega
      · rw [stopEq]
        exact ih

theorem behind_gap (tiles : Tiles (position + gap.length) text lexemes)
    (blank : ∀ char ∈ gap, Text.isBlank char = true) : Tiles position (gap ++ text) lexemes := by
  cases tiles with
  | gap textBlank => exact .gap (List.forall_mem_append.mpr ⟨blank, textBlank⟩)
  | @token _ _ inner lexeme after later textEq innerBlank placed form tiles =>
      refine .token ?_ (List.forall_mem_append.mpr ⟨blank, innerBlank⟩) ?_ form tiles
      · rw [textEq, List.append_assoc]
      · rw [placed, List.length_append]
        omega

theorem next_append (tiles : Tiles position text lexemes) (back : Text) :
    (Text.trimStart (text ++ back)).head? =
      if lexemes = [] then (Text.trimStart back).head? else (Text.trimStart text).head? := by
  cases tiles with
  | gap blank => rw [if_pos rfl, Text.trimStart, List.dropWhile_append_of_pos blank, Text.trimStart]
  | @token _ _ inner lexeme after later textEq blank _ form =>
      have notBlank (behind : Text) : ∀ next, (lexeme.source ++ behind).head? = some next →
          Text.isBlank next = false := by
        intro next isNext
        apply form.head_not_blank
        rwa [List.head?_append_of_ne_nil _ form.source_ne_nil] at isNext ⊢
      rw [if_neg (List.cons_ne_nil _ _), textEq, List.append_assoc, List.append_assoc,
        Text.trimStart, Text.dropWhile_run blank (notBlank _), Text.trimStart,
        Text.dropWhile_run blank (notBlank _), List.head?_append_of_ne_nil _ form.source_ne_nil,
        List.head?_append_of_ne_nil _ form.source_ne_nil]

theorem append (tiles : Tiles position text lexemes)
    (closed : ∀ lexeme ∈ lexemes, ¬ IsUnclosed lexeme.source)
    (parted : ∀ next, back.head? = some next → Text.isBlank next = true)
    (behind : Tiles (position + text.length) back later) :
    Tiles position (text ++ back) (nameLast (Text.trimStart back).head? lexemes ++ later) := by
  -- Only the last token of the first text can change.
  induction tiles with
  | gap blank => exact behind.behind_gap blank
  | @token position text gap lexeme after rest textEq blank placed form tiles ih =>
      obtain ⟨closedHere, closedLater⟩ := List.forall_mem_cons.mp closed
      have ends : ∀ next, (after ++ back).head? = some next →
          after.head? = some next ∨ Text.isBlank next = true := by
        intro next isNext
        cases after with
        | nil => exact Or.inr (parted next isNext)
        | cons first more => exact Or.inl isNext
      have behindAfter : Tiles (lexeme.stop + after.length) back later := by
        have total := congrArg List.length textEq
        rw [List.length_append, List.length_append] at total
        have stopEq : lexeme.stop + after.length = position + text.length := by
          rw [Lexeme.stop, placed, total]
          omega
        rwa [stopEq]
      have nextEq := tiles.next_append back
      have whole : text ++ back = gap ++ (lexeme.source ++ (after ++ back)) := by simp [textEq]
      have tilesBack := ih closedLater behindAfter
      cases rest with
      | nil =>
          rw [if_pos rfl] at nextEq
          have noEquals : (Text.trimStart after).head? ≠ some '=' := by
            intro equals
            obtain ⟨_, _, noTokens, _⟩ := tiles.head_equals equals
            contradiction
          by_cases named : lexeme.IsBareWord ∧ (Text.trimStart back).head? = some '='
          · have isName := form.named_in_front_of named.1 ends (nextEq ▸ named.2)
            rw [nameLast, if_pos named]
            exact .token whole blank placed isName tilesBack
          · have same := form.in_front_of closedHere ends fun bare =>
              iff_of_false noEquals fun equals => named ⟨bare, nextEq ▸ equals⟩
            rw [nameLast, if_neg named]
            exact .token whole blank placed same tilesBack
      | cons second more =>
          rw [if_neg (List.cons_ne_nil second more)] at nextEq
          have same := form.in_front_of closedHere ends fun _ => by rw [nextEq]
          exact .token whole blank placed same tilesBack

theorem kind_of_last {front : List Lexeme} {last : Lexeme}
    (tiles : Tiles position text (front ++ [last])) (bare : last.IsBareWord) :
    last.kind = .propertyValue := by
  obtain ⟨_, after, _, _, form, behind⟩ := tiles.at_lexeme
  apply form.kind_of_bareWord bare
  intro equals
  obtain ⟨_, _, noTokens, _⟩ := behind.head_equals equals
  contradiction

theorem isBareWord_iff {query : Text} {front : List Lexeme} {lexeme : Lexeme}
    (tiles : Tiles 0 query (front ++ lexeme :: later)) :
    lexeme.toToken.IsBareWord query ↔ lexeme.IsBareWord := by
  rw [Token.IsBareWord, tiles.getElem?_position]
  exact Iff.rfl

end Tiles

theorem nameLast_concat (next : Option Char) (front : List Lexeme) (last : Lexeme) :
    nameLast next (front ++ [last]) = front ++ nameLast next [last] := by
  induction front with
  | nil => rfl
  | cons first rest ih =>
      cases rest with
      | nil => rfl
      | cons second more => exact congrArg (first :: ·) ih

theorem nameLast_of_not {next : Option Char} {lexemes : List Lexeme}
    (unnamed : ¬ ∃ front last, lexemes = front ++ [last] ∧ last.IsBareWord ∧ next = some '=') :
    nameLast next lexemes = lexemes := by
  rcases List.eq_nil_or_concat lexemes with rfl | ⟨front, last, rfl⟩
  · rfl
  · rw [List.concat_eq_append] at *
    have notHere : ¬ (last.IsBareWord ∧ next = some '=') :=
      fun ⟨bare, equals⟩ => unnamed ⟨front, last, rfl, bare, equals⟩
    rw [nameLast_concat, nameLast, if_neg notHere]

theorem tokenize_of_gap {first gap : Text} {lexemes : List Lexeme} (tiles : Tiles 0 first lexemes)
    (closed : ∀ lexeme ∈ lexemes, ¬ IsUnclosed lexeme.source) (nonempty : gap ≠ [])
    (blank : ∀ char ∈ gap, Text.isBlank char = true) (second : Text) :
    tokenize (first ++ gap ++ second) =
      (nameLast (Text.trimStart second).head? lexemes).map Lexeme.toToken ++
        (tokenize second).map (Token.shift (first ++ gap).length) := by
  obtain ⟨later, secondEq, tilesSecond⟩ := tokenize_tiles second
  have behind : Tiles (0 + first.length) (gap ++ second)
      (later.map (Lexeme.shift (first ++ gap).length)) := by
    have shifted := tilesSecond.shift (first ++ gap).length
    apply Tiles.behind_gap _ blank
    rwa [Nat.add_assoc, ← List.length_append]
  have parted : ∀ next, (gap ++ second).head? = some next → Text.isBlank next = true := by
    intro next isNext
    rw [List.head?_append_of_ne_nil _ nonempty] at isNext
    exact blank next (List.mem_of_head? isNext)
  have skipped : Text.trimStart (gap ++ second) = Text.trimStart second :=
    List.dropWhile_append_of_pos blank
  have tilesBoth := tiles.append closed parted behind
  rw [skipped, ← List.append_assoc] at tilesBoth
  have shiftedTokens : (later.map (Lexeme.shift (first ++ gap).length)).map Lexeme.toToken =
      (later.map Lexeme.toToken).map (Token.shift (first ++ gap).length) := by
    rw [List.map_map, List.map_map]
    rfl
  have shiftedEnd : Token.shift (first ++ gap).length ⟨.endOfQuery, [], second.length⟩ =
      ⟨.endOfQuery, [], (first ++ gap ++ second).length⟩ := by
    have total : (first ++ gap ++ second).length = second.length + (first ++ gap).length := by
      rw [List.length_append, Nat.add_comm]
    rw [Token.shift, total]
  rw [tokenize_of_tiles tilesBoth, secondEq, List.map_append, List.map_append, List.map_singleton,
    shiftedTokens, shiftedEnd, List.append_assoc]

/-- White space between two queries parts them: unless a string at the end of the first one is open,
no token goes across, and only a bare word in front of an equals sign changes its kind. -/
theorem tokenize_append_blank {first gap second : Text}
    (closed : Quotation.outside.run first = .outside) (nonempty : gap ≠ [])
    (blank : ∀ char ∈ gap, Text.isBlank char = true) :
    ∃ front, tokenize first = front ++ [⟨.endOfQuery, [], first.length⟩] ∧
      (∀ earlier word, front = earlier ++ [word] → word.IsBareWord first →
        (Text.trimStart second).head? = some '=' →
        word.kind = .propertyValue ∧
        tokenize (first ++ gap ++ second) =
          earlier ++ { word with kind := .propertyName } ::
            (tokenize second).map (Token.shift (first ++ gap).length)) ∧
      ((¬ ∃ earlier word, front = earlier ++ [word] ∧ word.IsBareWord first ∧
          (Text.trimStart second).head? = some '=') →
        tokenize (first ++ gap ++ second) =
          front ++ (tokenize second).map (Token.shift (first ++ gap).length)) := by
  obtain ⟨lexemes, firstEq, tiles⟩ := tokenize_tiles first
  have noneUnclosed := tiles.run_eq_outside_iff.mp closed
  have joined := tokenize_of_gap tiles noneUnclosed nonempty blank second
  refine ⟨lexemes.map Lexeme.toToken, firstEq, ?_, ?_⟩
  · intro earlier word frontEq bare equals
    obtain ⟨front, _, rfl, rfl, lastEq⟩ := List.map_eq_append_iff.mp frontEq
    obtain ⟨last, rfl, rfl⟩ := List.map_eq_singleton_iff.mp lastEq
    have bareLast := tiles.isBareWord_iff.mp bare
    refine ⟨tiles.kind_of_last bareLast, ?_⟩
    rw [joined, nameLast_concat, nameLast, if_pos ⟨bareLast, equals⟩, List.map_append,
      List.append_assoc]
    rfl
  · intro unnamed
    rw [joined, nameLast_of_not]
    rintro ⟨front, last, rfl, bare, equals⟩
    refine unnamed ⟨front.map Lexeme.toToken, last.toToken, ?_, tiles.isBareWord_iff.mpr bare, equals⟩
    rw [List.map_append, List.map_singleton]

theorem tokenize_append_blank_size :
    Quotation.outside.run "k='\\'' Size" = .outside ∧ ([' ', '\t'] : Text) ≠ [] ∧
    (∀ char ∈ [' ', '\t'], Text.isBlank char = true) ∧
    tokenize ("k='\\'' Size" ++ [' ', '\t'] ++ "= (") =
      [⟨.propertyName, "k", 0⟩, ⟨.equals, "=", 1⟩, ⟨.propertyValue, "'", 2⟩,
        ⟨.propertyName, "Size", 7⟩, ⟨.equals, "=", 13⟩, ⟨.parenthesisOpen, "(", 15⟩,
        ⟨.endOfQuery, "", 16⟩] := by
  have firstEq : tokenize "k='\\'' Size" =
      [⟨.propertyName, "k", 0⟩, ⟨.equals, "=", 1⟩, ⟨.propertyValue, "'", 2⟩] ++
        [⟨.propertyValue, "Size", 7⟩] ++ [⟨.endOfQuery, "", 11⟩] :=
    tokenize_of_stream (by decide)
  have secondEq : tokenize "= (" =
      [⟨.equals, "=", 0⟩, ⟨.parenthesisOpen, "(", 2⟩, ⟨.endOfQuery, "", 3⟩] :=
    tokenize_of_stream (by decide)
  have closed : Quotation.outside.run "k='\\'' Size" = .outside := by decide
  have nonempty : ([' ', '\t'] : Text) ≠ [] := by simp
  have blank : ∀ char ∈ [' ', '\t'], Text.isBlank char = true := List.all_eq_true.mp rfl
  refine ⟨closed, nonempty, blank, ?_⟩
  obtain ⟨front, frontEq, named, _⟩ := tokenize_append_blank closed nonempty blank
  rw [firstEq] at frontEq
  have sameFront := (List.append_inj' frontEq rfl).1
  have bare : Token.IsBareWord "k='\\'' Size" ⟨.propertyValue, "Size", 7⟩ :=
    ⟨by decide, by decide⟩
  rw [(named _ _ sameFront.symm bare rfl).2, secondEq]
  rfl

end TopicSieve
