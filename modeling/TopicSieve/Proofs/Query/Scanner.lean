import Mathlib.Data.List.TakeWhile
import TopicSieve.Proofs.Query.Reading
import TopicSieve.Proofs.Text.Cursors
import TopicSieve.Proofs.Text.Slices

/-!
The tokens of a query read by byte offsets. A scanner takes the characters one at a time, each with
its byte offset, counts them, and cuts words and numbers out of the text by their offsets, which
fails where a cut is no boundary. Main statement: the offset and the count of characters stay in
step, so no cut ever fails, and the scanner reads what the lexer reads.
-/

namespace TopicSieve

def Text.charsFrom (offset : Nat) : Text → List (Nat × Char)
  | [] => []
  | char :: rest => (offset, char) :: charsFrom (offset + char.utf8Size) rest

/-- The state of a scanner: the whole text, the unread characters with their offsets, the number of
characters that were read, and whether the end was already reported. -/
structure Scanner where
  text : Text
  chars : List (Nat × Char)
  position : Nat
  finished : Bool

namespace Scanner

def start (query : Text) : Scanner := ⟨query, query.charsFrom 0, 0, false⟩

def bump? (scanner : Scanner) : Option (Char × Scanner) :=
  match scanner.chars with
  | [] => none
  | (_, char) :: rest =>
      some (char, { scanner with chars := rest, position := scanner.position + 1 })

def bump (scanner : Scanner) : Scanner := (scanner.bump?.map Prod.snd).getD scanner

def offset (scanner : Scanner) : Nat :=
  match scanner.chars with
  | [] => Text.byteLength scanner.text
  | (offset, _) :: _ => offset

theorem length_bump? {scanner after : Scanner} {char : Char}
    (bumped : scanner.bump? = some (char, after)) : after.chars.length < scanner.chars.length := by
  unfold bump? at bumped
  split at bumped
  · contradiction
  · next charsEq =>
      obtain ⟨_, rfl⟩ := Prod.mk.inj (Option.some.inj bumped)
      rw [charsEq]
      exact Nat.lt_succ_self _

def bumpWhile (test : Char → Bool) (scanner : Scanner) : Scanner :=
  match _ : scanner.bump? with
  | none => scanner
  | some (char, after) => if test char then bumpWhile test after else scanner
termination_by scanner.chars.length
decreasing_by exact length_bump? ‹_›

def readWhile (first : Nat) (test : Char → Bool) (scanner : Scanner) :
    Except BadSlice (Text × Scanner) := do
  let after := scanner.bumpWhile test
  let run ← scanner.text.slice first after.offset
  .ok (run, after)

def readQuoted (quote : Char) (scanner : Scanner) : Text × Scanner :=
  match _ : scanner.bump? with
  | none => ([], scanner)
  | some (char, after) =>
      if char = '\\' then
        match _ : after.bump? with
        | none => ([], after)
        | some (escaped, behind) =>
            let (value, final) := readQuoted quote behind
            (escaped :: value, final)
      else if char = quote then ([], after)
      else
        let (value, final) := readQuoted quote after
        (char :: value, final)
termination_by scanner.chars.length
decreasing_by
  · exact Nat.lt_trans (length_bump? ‹after.bump? = _›) (length_bump? ‹scanner.bump? = _›)
  · exact length_bump? ‹_›

def nextVisible? (scanner : Scanner) : Except BadSlice (Option Char) := do
  let unread ← scanner.text.slice scanner.offset (Text.byteLength scanner.text)
  .ok (unread.find? fun char => !Text.isBlank char)

def readWord (first position : Nat) (scanner : Scanner) : Except BadSlice (Token × Scanner) := do
  let (word, after) ← scanner.readWhile first Text.isWordChar
  match keyword? word with
  | some kind => .ok (⟨kind, word, position⟩, after)
  | none =>
      let next ← after.nextVisible?
      .ok (⟨if next = some '=' then .propertyName else .propertyValue, word, position⟩, after)

def readToken (first : Nat) (char : Char) (scanner : Scanner) :
    Except BadSlice (Token × Scanner) :=
  let position := scanner.position
  let after := scanner.bump
  match punctuation? char with
  | some kind => .ok (⟨kind, [char], position⟩, after)
  | none =>
      if char = '"' ∨ char = '\'' then
        let (value, final) := after.readQuoted char
        .ok (⟨.propertyValue, value, position⟩, final)
      else if Text.isWordStart char then scanner.readWord first position
      else if Text.isDecimalDigit char then do
        let (digits, final) ← scanner.readWhile first Text.isDecimalDigit
        .ok (⟨.propertyValue, digits, position⟩, final)
      else .ok (⟨.unknown, [char], position⟩, after)

def next? (scanner : Scanner) : Except BadSlice (Option (Token × Scanner)) :=
  if scanner.finished then .ok none
  else
    let skipped := scanner.bumpWhile Text.isBlank
    match skipped.chars with
    | [] => .ok (some (⟨.endOfQuery, [], skipped.position⟩, { skipped with finished := true }))
    | (first, char) :: _ => do
        let result ← skipped.readToken first char
        .ok (some result)

def stream : Nat → Scanner → Except BadSlice (List (Option Token) × Scanner)
  | 0, scanner => .ok ([], scanner)
  | count + 1, scanner => do
      match ← scanner.next? with
      | none =>
          let (tokens, final) ← stream count scanner
          .ok (none :: tokens, final)
      | some (token, after) =>
          let (tokens, final) ← stream count after
          .ok (some token :: tokens, final)

def ofCursor (text : Text) (cursor : Cursor) (finished : Bool) : Scanner :=
  ⟨text, cursor.rest.charsFrom cursor.offset, cursor.position, finished⟩

theorem ofCursor_text (text : Text) (cursor : Cursor) (finished : Bool) :
    (ofCursor text cursor finished).text = text := rfl

section

variable {text rest : Text} {cursor : Cursor} {char : Char} {finished : Bool}

theorem charsFrom_drop_one (restEq : cursor.rest = char :: rest) :
    cursor.rest.charsFrom cursor.offset =
      (cursor.offset, char) :: (cursor.drop 1).rest.charsFrom (cursor.drop 1).offset := by
  have offsetEq : (cursor.drop 1).offset = cursor.offset + char.utf8Size := by
    simp [Cursor.drop, restEq, Text.byteLength]
  rw [Cursor.rest_drop_one restEq, offsetEq, restEq, Text.charsFrom]

theorem bump?_ofCursor (restEq : cursor.rest = char :: rest) :
    (ofCursor text cursor finished).bump? =
      some (char, ofCursor text (cursor.drop 1) finished) := by
  have positionEq : (cursor.drop 1).position = cursor.position + 1 := by
    simp [Cursor.drop, restEq]
  rw [bump?, ofCursor, charsFrom_drop_one restEq, ofCursor, positionEq]

theorem bump?_ofCursor_end (restEq : cursor.rest = []) :
    (ofCursor text cursor finished).bump? = none := by
  rw [bump?, ofCursor, restEq, Text.charsFrom]

theorem bump_ofCursor (restEq : cursor.rest = char :: rest) :
    (ofCursor text cursor finished).bump = ofCursor text (cursor.drop 1) finished := by
  rw [bump, bump?_ofCursor restEq]
  rfl

theorem offset_ofCursor (inText : cursor.IsIn text) :
    (ofCursor text cursor finished).offset = cursor.offset := by
  cases restEq : cursor.rest with
  | nil =>
      have atEnd : text.length ≤ cursor.position := by
        rw [← List.drop_eq_nil_iff, ← inText.rest_eq, restEq]
      rw [offset, ofCursor, restEq, Text.charsFrom, inText.offset_eq, List.take_of_length_le atEnd]
  | cons char rest => rw [offset, ofCursor, charsFrom_drop_one restEq]

theorem bumpWhile_ofCursor (test : Char → Bool) :
    (ofCursor text cursor finished).bumpWhile test =
      ofCursor text (cursor.dropWhile test) finished := by
  generalize restEq : cursor.rest = rest
  induction rest generalizing cursor with
  | nil =>
      rw [bumpWhile, Cursor.dropWhile_of_head (by simp [restEq])]
      split
      · rfl
      · next bumped =>
          rw [bump?_ofCursor_end restEq] at bumped
          contradiction
  | cons char rest ih =>
      rw [bumpWhile]
      split
      · next ended =>
          rw [bump?_ofCursor restEq] at ended
          contradiction
      · next next after bumped =>
          rw [bump?_ofCursor restEq] at bumped
          obtain ⟨rfl, rfl⟩ := Prod.mk.inj (Option.some.inj bumped)
          by_cases holds : test char = true
          · rw [if_pos holds, ih (Cursor.rest_drop_one restEq),
              Cursor.dropWhile_of_pos restEq holds]
          · have stops : ∀ next, cursor.rest.head? = some next → test next = false := by
              rw [restEq]
              rintro _ ⟨⟩
              exact Bool.eq_false_iff.mpr holds
            rw [if_neg holds, Cursor.dropWhile_of_head stops]

variable {quote : Char}

theorem readQuoted_eq (scanner : Scanner) : scanner.readQuoted quote =
    match scanner.bump? with
    | none => ([], scanner)
    | some (char, after) =>
        if char = '\\' then
          match after.bump? with
          | none => ([], after)
          | some (escaped, behind) =>
              (escaped :: (behind.readQuoted quote).1, (behind.readQuoted quote).2)
        else if char = quote then ([], after)
        else (char :: (after.readQuoted quote).1, (after.readQuoted quote).2) := by
  rw [readQuoted]
  split
  · next ended => rw [ended]
  · next char after bumped =>
      rw [bumped]
      by_cases escapes : char = '\\'
      · simp only [escapes, if_true]
        split
        · next ended => rw [ended]
        · next next => rw [next]
      · simp only [escapes, if_false]

theorem readQuoted_ofCursor (restEq : cursor.rest = rest) :
    (ofCursor text cursor finished).readQuoted quote =
      ((QuotedString.read quote rest).content,
        ofCursor text (cursor.drop (QuotedString.read quote rest).source.length) finished) := by
  induction rest using QuotedString.read.induct quote generalizing cursor with
  | case1 =>
      rw [readQuoted_eq, bump?_ofCursor_end restEq]
      simp [QuotedString.read, Cursor.drop, Text.byteLength]
  | case2 char special =>
      have ended : (ofCursor text (cursor.drop 1) finished).bump? = none :=
        bump?_ofCursor_end (Cursor.rest_drop_one restEq)
      rw [readQuoted_eq, bump?_ofCursor restEq, QuotedString.read, if_pos special]
      rcases special with rfl | rfl <;> simp [ended]
  | case3 char plain =>
      have ended : (ofCursor text (cursor.drop 1) finished).bump? = none :=
        bump?_ofCursor_end (Cursor.rest_drop_one restEq)
      have tailEq : (ofCursor text (cursor.drop 1) finished).readQuoted quote =
          ([], ofCursor text (cursor.drop 1) finished) := by
        rw [readQuoted_eq, ended]
      rw [readQuoted_eq, bump?_ofCursor restEq, QuotedString.read, if_neg plain]
      obtain ⟨notEscape, notQuote⟩ := not_or.mp plain
      simp [notEscape, notQuote, tailEq]
  | case4 next rest ih =>
      have nextEq := Cursor.rest_drop_one restEq
      have tailEq := ih (Cursor.rest_drop_one nextEq)
      rw [readQuoted_eq, bump?_ofCursor restEq]
      simp only [bump?_ofCursor nextEq, QuotedString.read, if_true, tailEq]
      simp only [Cursor.drop_drop, List.length_cons, Nat.add_comm, Nat.add_assoc]
  | case5 next rest notEscape =>
      rw [readQuoted_eq, bump?_ofCursor restEq]
      simp [QuotedString.read, notEscape]
  | case6 char next rest notEscape notQuote ih =>
      have tailEq := ih (Cursor.rest_drop_one restEq)
      rw [readQuoted_eq, bump?_ofCursor restEq]
      simp only [QuotedString.read, notEscape, notQuote, if_false, tailEq, Cursor.drop_drop,
        List.length_cons, Nat.add_comm]

/-! What is cut out: a run of characters from the cursor on, and all that is unread. -/

theorem readWhile_ofCursor (inText : cursor.IsIn text) (test : Char → Bool) :
    (ofCursor text cursor finished).readWhile cursor.offset test =
      .ok (cursor.rest.takeWhile test, ofCursor text (cursor.dropWhile test) finished) := by
  have later : (cursor.dropWhile test).IsIn text := inText.drop _
  simp only [readWhile, bumpWhile_ofCursor, offset_ofCursor later, ofCursor_text,
    inText.slice_dropWhile test, bind, Except.bind]

theorem nextVisible?_ofCursor (inText : cursor.IsIn text) :
    (ofCursor text cursor finished).nextVisible? = .ok (Text.trimStart cursor.rest).head? := by
  simp only [nextVisible?, offset_ofCursor inText, ofCursor_text, inText.slice_rest, bind,
    Except.bind, List.find?_not_eq_head?_dropWhile, Text.trimStart]

theorem readWord_ofCursor (inText : cursor.IsIn text) (position : Nat) :
    let word := cursor.rest.takeWhile Text.isWordChar
    let after := cursor.dropWhile Text.isWordChar
    (ofCursor text cursor finished).readWord cursor.offset position =
      .ok (⟨wordKind word after.rest, word, position⟩, ofCursor text after finished) := by
  have later : (cursor.dropWhile Text.isWordChar).IsIn text := inText.drop _
  simp only [readWord, readWhile_ofCursor inText, bind, Except.bind, wordKind]
  cases keyword? (cursor.rest.takeWhile Text.isWordChar) with
  | some kind => rfl
  | none => simp only [nextVisible?_ofCursor later]

end

/-! The scanner beside the lexer. -/

def ofLexer (text : Text) (lexer : Lexer) : Scanner := ofCursor text lexer.cursor lexer.finished

variable {text rest : Text} {cursor : Cursor} {char : Char}

theorem readToken_ofCursor (inText : cursor.IsIn text) (restEq : cursor.rest = char :: rest) :
    (ofCursor text cursor false).readToken cursor.offset char =
      .ok ((Lexer.lexemeAt cursor char rest).1.toToken,
        ofLexer text (Lexer.lexemeAt cursor char rest).2) := by
  have bumped : (ofCursor text cursor false).bump = ofCursor text (cursor.drop 1) false :=
    bump_ofCursor restEq
  rw [readToken, Lexer.lexemeAt, bumped]
  cases punctuation? char with
  | some kind => rfl
  | none =>
      by_cases isQuote : char = '"' ∨ char = '\''
      · simp only [if_pos isQuote, readQuoted_ofCursor (Cursor.rest_drop_one restEq),
          Cursor.drop_drop, Nat.add_comm 1]
        rfl
      simp only [if_neg isQuote]
      by_cases start : Text.isWordStart char = true
      · simp only [if_pos start, readWord_ofCursor inText, Cursor.dropWhile, Cursor.takeWhile,
          restEq]
        rfl
      simp only [if_neg start]
      by_cases digit : Text.isDecimalDigit char = true
      · simp only [if_pos digit, readWhile_ofCursor inText, Cursor.dropWhile, Cursor.takeWhile,
          restEq]
        rfl
      · simp only [if_neg digit]
        rfl

theorem next?_ofLexer {lexer : Lexer} (inText : lexer.cursor.IsIn text) :
    (ofLexer text lexer).next? =
      .ok (lexer.next?.map fun (lexeme, after) => (lexeme.toToken, ofLexer text after)) := by
  obtain ⟨cursor, finished⟩ := lexer
  cases finished with
  | true => rfl
  | false =>
      have skipped : (cursor.dropWhile Text.isBlank).IsIn text := inText.drop _
      have bumped : (ofLexer text ⟨cursor, false⟩).bumpWhile Text.isBlank =
          ofCursor text (cursor.dropWhile Text.isBlank) false := bumpWhile_ofCursor _
      have unfinished : (ofLexer text ⟨cursor, false⟩).finished = false := rfl
      simp only [next?, unfinished, bumped, Lexer.next?, Bool.false_eq_true, if_false]
      generalize cursor.dropWhile Text.isBlank = begun at skipped
      cases restEq : begun.rest with
      | nil =>
          simp only [Lexer.lexemeFrom, restEq, Option.map_some, ofLexer, ofCursor]
          rfl
      | cons char rest =>
          have charsEq : (ofCursor text begun false).chars = (begun.offset, char) ::
              (begun.drop 1).rest.charsFrom (begun.drop 1).offset := charsFrom_drop_one restEq
          simp only [charsEq, readToken_ofCursor skipped restEq, Lexer.lexemeFrom, restEq]
          rfl

/-! The two coordinates -/

/-- The byte offset belongs to the count of characters, and both to the unread characters. -/
structure IsInStep (scanner : Scanner) : Prop where
  position_le : scanner.position ≤ scanner.text.length
  offset_eq : scanner.offset = Text.byteLength (scanner.text.take scanner.position)
  isBoundary : (Utf8.encode scanner.text).isBoundary scanner.offset = true
  chars_eq : scanner.chars =
    Text.charsFrom scanner.offset (scanner.text.drop scanner.position)
  slice_rest : scanner.text.slice scanner.offset (Text.byteLength scanner.text) =
    .ok (scanner.text.drop scanner.position)

theorem isInStep_ofCursor {finished : Bool} (inText : cursor.IsIn text) :
    (ofCursor text cursor finished).IsInStep := by
  have offsetEq : (ofCursor text cursor finished).offset = cursor.offset := offset_ofCursor inText
  constructor
  · exact inText.position_le
  · exact offsetEq.trans inText.offset_eq
  · rw [offsetEq]
    exact inText.isBoundary
  · rw [offsetEq]
    exact congrArg (Text.charsFrom cursor.offset) inText.rest_eq
  · rw [offsetEq]
    exact inText.slice_rest.trans (congrArg Except.ok inText.rest_eq)

/-- Cuts from a byte offset, where the character with this position begins, come out as the
characters from there on, whatever run of characters is read. -/
structure CutsFrom (scanner : Scanner) (first position : Nat) : Prop where
  first_eq : first = Text.byteLength (scanner.text.take position)
  isBoundary : (Utf8.encode scanner.text).isBoundary first = true
  first_le : first ≤ scanner.offset
  readWhile : ∀ test, ∃ run after, scanner.readWhile first test = .ok (run, after) ∧
    after.IsInStep ∧ first ≤ after.offset ∧
    run = (scanner.text.drop position).take (after.position - position)

theorem cutsFrom_ofCursor {finished : Bool} (inText : cursor.IsIn text) :
    (ofCursor text cursor finished).CutsFrom cursor.offset cursor.position := by
  have offsetEq : (ofCursor text cursor finished).offset = cursor.offset := offset_ofCursor inText
  refine ⟨inText.offset_eq, inText.isBoundary, Nat.le_of_eq offsetEq.symm, fun test => ?_⟩
  have later : (cursor.dropWhile test).IsIn text := inText.drop _
  refine ⟨_, _, readWhile_ofCursor inText test, isInStep_ofCursor later, ?_, ?_⟩
  · rw [offset_ofCursor later]
    exact Nat.le_add_right _ _
  · have distance : (cursor.dropWhile test).position - cursor.position =
        (cursor.rest.takeWhile test).length := by
      rw [cursor.position_dropWhile, Nat.add_sub_cancel_left]
    have taken := List.prefix_iff_eq_take.mp (cursor.rest.takeWhile_prefix test)
    rw [ofCursor_text, ← inText.rest_eq, taken, ← distance]
    rfl

/-- What a call does that gives a token: it skips blanks, cuts from the first character behind them
only, and stays in step. A word or a number is what was cut out. -/
structure Gives (scanner : Scanner) (token : Token) (after : Scanner) : Prop where
  inStep : after.IsInStep
  position_eq : token.position = (scanner.bumpWhile Text.isBlank).position
  position_le : token.position ≤ after.position
  cuts : ∀ first char rest, (scanner.bumpWhile Text.isBlank).chars = (first, char) :: rest →
    scanner.text[token.position]? = some char ∧
    (scanner.bumpWhile Text.isBlank).CutsFrom first token.position ∧
    (Text.isWordStart char = true ∨ Text.isDecimalDigit char = true →
      scanner.text.slice first after.offset = .ok token.value ∧
      token.value = (scanner.text.drop token.position).take (after.position - token.position))

theorem value_eq_cut {kind : TokenKind} {value source after : Text} (inText : cursor.IsIn text)
    (form : TokenForm kind value source after) (restEq : cursor.rest = source ++ after)
    (isFirst : cursor.rest.head? = some char) (notQuote : ¬ IsQuote char) :
    text.slice cursor.offset (cursor.drop source.length).offset = .ok value ∧
      value = (text.drop cursor.position).take
        ((cursor.drop source.length).position - cursor.position) := by
  have valueEq : value = source := by
    rw [restEq] at isFirst
    cases form with
    | closed isQuote | unclosed isQuote =>
        cases isFirst
        exact absurd isQuote notQuote
    | punctuation | word | number | unknown => rfl
  have cut : cursor.rest.take source.length = source := by rw [restEq, List.take_left]
  constructor
  · rw [inText.slice_drop, cut, valueEq]
  · rw [Cursor.position_drop restEq, Nat.add_sub_cancel_left, ← inText.rest_eq, cut, valueEq]

theorem gives_lexemeAt {lexer : Lexer} (inText : cursor.IsIn text)
    (restEq : cursor.rest = char :: rest) (visible : Text.isBlank char = false)
    (skipped : (ofLexer text lexer).bumpWhile Text.isBlank = ofCursor text cursor false) :
    (ofLexer text lexer).Gives (Lexer.lexemeAt cursor char rest).1.toToken
      (ofLexer text (Lexer.lexemeAt cursor char rest).2) := by
  obtain ⟨kind, value, source, after, split, form, lexemeEq⟩ :=
    Lexer.lexemeAt_form cursor char rest restEq visible
  have later : (cursor.drop source.length).IsIn text := inText.drop _
  rw [lexemeEq]
  refine ⟨isInStep_ofCursor later, ?position, Nat.le_add_right _ _, ?cuts⟩
  case position =>
    rw [skipped]
    rfl
  intro first begun more found
  have charsEq : (ofCursor text cursor false).chars = (cursor.offset, char) :: _ :=
    charsFrom_drop_one restEq
  rw [skipped, charsEq] at found
  obtain ⟨beginEq, _⟩ := List.cons.inj found
  obtain ⟨rfl, rfl⟩ := Prod.mk.inj beginEq
  have isFirst : cursor.rest.head? = some char := by rw [restEq, List.head?_cons]
  refine ⟨?_, ?_, fun inRun => ?_⟩
  · rw [inText.rest_eq, List.head?_drop] at isFirst
    exact isFirst
  · rw [skipped]
    exact cutsFrom_ofCursor inText
  · have cut := value_eq_cut inText form (restEq.trans split) isFirst (TokenForm.not_isQuote inRun)
    rw [← offset_ofCursor later] at cut
    exact cut

theorem gives_next? {lexer after : Lexer} {lexeme : Lexeme} (inText : lexer.cursor.IsIn text)
    (step : lexer.next? = some (lexeme, after)) :
    (ofLexer text lexer).Gives lexeme.toToken (ofLexer text after) := by
  obtain ⟨cursor, finished⟩ := lexer
  cases finished with
  | true => contradiction
  | false =>
      have skipped : (ofLexer text ⟨cursor, false⟩).bumpWhile Text.isBlank =
          ofCursor text (cursor.dropWhile Text.isBlank) false := bumpWhile_ofCursor _
      have begunIn : (cursor.dropWhile Text.isBlank).IsIn text := inText.drop _
      have begunRest := cursor.rest_dropWhile Text.isBlank
      have stepEq : Lexer.lexemeFrom (cursor.dropWhile Text.isBlank) = (lexeme, after) :=
        Option.some.inj step
      generalize cursor.dropWhile Text.isBlank = begun at *
      cases restEq : begun.rest with
      | nil =>
          simp only [Lexer.lexemeFrom, restEq] at stepEq
          obtain ⟨rfl, rfl⟩ := Prod.mk.inj stepEq
          have noChars : (ofCursor text begun false).chars = [] := by
            rw [ofCursor, restEq, Text.charsFrom]
          refine ⟨isInStep_ofCursor begunIn, ?_, Nat.le_refl _, fun first char more found => ?_⟩
          · rw [skipped]
            rfl
          · rw [skipped, noChars] at found
            contradiction
      | cons char rest =>
          have isFirst : (cursor.rest.dropWhile Text.isBlank).head? = some char := by
            rw [← begunRest, restEq, List.head?_cons]
          have visible := Text.of_head?_dropWhile isFirst
          simp only [Lexer.lexemeFrom, restEq] at stepEq
          have given := gives_lexemeAt begunIn restEq visible skipped
          rwa [stepEq] at given

theorem isIn_next? {lexer after : Lexer} {lexeme : Lexeme} (inText : lexer.cursor.IsIn text)
    (step : lexer.next? = some (lexeme, after)) : after.cursor.IsIn text := by
  obtain ⟨cursor, finished⟩ := lexer
  cases finished with
  | true => contradiction
  | false =>
      obtain ⟨rfl⟩ : (Lexer.lexemeFrom (cursor.dropWhile Text.isBlank)).2 = after :=
        congrArg Prod.snd (Option.some.inj step)
      have begunIn : (cursor.dropWhile Text.isBlank).IsIn text := inText.drop _
      unfold Lexer.lexemeFrom
      split
      · exact begunIn
      · unfold Lexer.lexemeAt
        repeat' split
        all_goals exact begunIn.drop _

theorem stream_ofLexer (count : Nat) {lexer : Lexer} (inText : lexer.cursor.IsIn text) :
    ∃ later : Lexer, later.cursor.IsIn text ∧ (ofLexer text lexer).stream count =
      .ok ((lexer.stream count).map (Option.map Lexeme.toToken), ofLexer text later) := by
  -- Each call leaves the lexer at a place in the text.
  induction count generalizing lexer with
  | zero => exact ⟨lexer, inText, rfl⟩
  | succ count ih =>
      cases step : lexer.next? with
      | none =>
          obtain ⟨later, laterIn, streamEq⟩ := ih inText
          refine ⟨later, laterIn, ?_⟩
          simp only [stream, next?_ofLexer inText, Lexer.stream, step, Option.map_none, bind,
            Except.bind, streamEq, List.map_cons]
      | some found =>
          obtain ⟨lexeme, after⟩ := found
          obtain ⟨later, laterIn, streamEq⟩ := ih (isIn_next? inText step)
          refine ⟨later, laterIn, ?_⟩
          simp only [stream, next?_ofLexer inText, Lexer.stream, step, Option.map_some, bind,
            Except.bind, streamEq, List.map_cons]

/-- After any number of calls, which give what the lexer gives, the byte offset is that of the
characters counted so far, and the next call goes through with every slice it cuts. -/
theorem stream_isInStep (query : Text) (count : Nat) :
    ∃ scanner, (start query).stream count =
        .ok (((Lexer.start query).stream count).map (Option.map Lexeme.toToken), scanner) ∧
      scanner.text = query ∧ scanner.IsInStep ∧
      ∃ result, scanner.next? = .ok result ∧
        ∀ token after, result = some (token, after) → scanner.Gives token after := by
  have started : start query = ofLexer query (Lexer.start query) := rfl
  have begun : (Lexer.start query).cursor.IsIn query := Cursor.isIn_start query
  obtain ⟨lexer, inText, streamEq⟩ := stream_ofLexer count begun
  refine ⟨ofLexer query lexer, streamEq, rfl, isInStep_ofCursor inText, _, next?_ofLexer inText, ?_⟩
  intro token after given
  obtain ⟨⟨lexeme, behind⟩, step, pairEq⟩ := Option.map_eq_some_iff.mp given
  obtain ⟨rfl, rfl⟩ := Prod.mk.inj pairEq
  exact gives_next? inText step

end Scanner

end TopicSieve
