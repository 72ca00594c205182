import TopicSieve.Query.Token
import TopicSieve.Text.Blank
import TopicSieve.Text.Cursor
import TopicSieve.Text.Letter

/-!
Reading a query as tokens. The reader never fails: a character that starts no token becomes one of
its own, and a quoted string that is never closed runs to the end. Main statement: every step either
ends the reading or makes the unread text shorter, so a query has finitely many tokens.
-/

namespace TopicSieve

/-- A token with the characters it was read from and the number of bytes before them. -/
structure Lexeme extends Token where
  offset : Nat
  source : Text
deriving Repr, DecidableEq

/-- A quoted string behind its opening quote: the content without escapes, the characters read, and
what follows the closing quote. -/
structure QuotedString where
  content : Text
  source : Text
  rest : Text
deriving Repr, DecidableEq

namespace QuotedString

/-- Reads up to the closing quote. A backslash keeps the character after it from being a quote, and
is dropped; so is one that stands at the end. -/
def read (quote : Char) : Text → QuotedString
  | [] => ⟨[], [], []⟩
  | [char] =>
      if char = '\\' ∨ char = quote then ⟨[], [char], []⟩ else ⟨[char], [char], []⟩
  | char :: next :: rest =>
      if char = '\\' then
        let tail := read quote rest
        ⟨next :: tail.content, char :: next :: tail.source, tail.rest⟩
      else if char = quote then ⟨[], [char], next :: rest⟩
      else
        let tail := read quote (next :: rest)
        ⟨char :: tail.content, char :: tail.source, tail.rest⟩

end QuotedString

def keyword? (word : Text) : Option TokenKind :=
  if Text.sameAscii word "and" then some .and
  else if Text.sameAscii word "or" then some .or
  else if Text.sameAscii word "null" then some .null
  else none

def punctuation? : Char → Option TokenKind
  | '(' => some .parenthesisOpen
  | ')' => some .parenthesisClose
  | ',' => some .comma
  | '=' => some .equals
  | _ => none

def wordKind (word after : Text) : TokenKind :=
  match keyword? word with
  | some kind => kind
  | none => if (Text.trimStart after).head? = some '=' then .propertyName else .propertyValue

structure Lexer where
  cursor : Cursor
  finished : Bool
deriving Repr, DecidableEq

namespace Lexer

def start (query : Text) : Lexer := ⟨Cursor.start query, false⟩

def emit (cursor : Cursor) (kind : TokenKind) (value source : Text) : Lexeme × Lexer :=
  (⟨⟨kind, value, cursor.position⟩, cursor.offset, source⟩, ⟨cursor.drop source.length, false⟩)

def lexemeAt (cursor : Cursor) (char : Char) (rest : Text) : Lexeme × Lexer :=
  match punctuation? char with
  | some kind => emit cursor kind [char] [char]
  | none =>
      if char = '"' ∨ char = '\'' then
        let string := QuotedString.read char rest
        emit cursor .propertyValue string.content (char :: string.source)
      else if Text.isWordStart char then
        let word := (char :: rest).takeWhile Text.isWordChar
        emit cursor (wordKind word (cursor.drop word.length).rest) word word
      else if Text.isDecimalDigit char then
        let digits := (char :: rest).takeWhile Text.isDecimalDigit
        emit cursor .propertyValue digits digits
      else emit cursor .unknown [char] [char]

def lexemeFrom (cursor : Cursor) : Lexeme × Lexer :=
  match cursor.rest with
  | [] => (⟨⟨.endOfQuery, [], cursor.position⟩, cursor.offset, []⟩, ⟨cursor, true⟩)
  | char :: rest => lexemeAt cursor char rest

def next? (lexer : Lexer) : Option (Lexeme × Lexer) :=
  if lexer.finished then none
  else some (lexemeFrom (lexer.cursor.dropWhile Text.isBlank))

def remaining (lexer : Lexer) : Nat :=
  if lexer.finished then 0 else lexer.cursor.rest.length + 1

theorem remaining_emit (cursor : Cursor) (kind : TokenKind) (value source : Text)
    (nonempty : cursor.rest ≠ []) (sourceNonempty : source ≠ []) :
    (emit cursor kind value source).2.remaining < cursor.rest.length + 1 := by
  have restPositive := List.length_pos_iff.mpr nonempty
  have sourcePositive := List.length_pos_iff.mpr sourceNonempty
  simp only [emit, remaining, Cursor.length_drop, Bool.false_eq_true, if_false]
  omega

theorem takeWhile_ne_nil {test : Char → Bool} {char : Char} {rest : Text}
    (holds : test char = true) : (char :: rest).takeWhile test ≠ [] := by
  simp [holds]

theorem remaining_lexemeAt (cursor : Cursor) (char : Char) (rest : Text)
    (restEq : cursor.rest = char :: rest) :
    (lexemeAt cursor char rest).2.remaining < cursor.rest.length + 1 := by
  have nonempty : cursor.rest ≠ [] := by simp [restEq]
  unfold lexemeAt
  split
  · exact remaining_emit _ _ _ _ nonempty (by simp)
  · split
    · exact remaining_emit _ _ _ _ nonempty (by simp)
    · split
      · next start =>
          apply remaining_emit _ _ _ _ nonempty
          apply takeWhile_ne_nil
          simp only [Text.isWordStart, Bool.or_eq_true] at start
          simp only [Text.isWordChar, Bool.or_eq_true]
          rcases start with letter | line
          · exact Or.inl (Or.inl letter)
          · exact Or.inr line
      · split
        · next digit => exact remaining_emit _ _ _ _ nonempty (takeWhile_ne_nil digit)
        · exact remaining_emit _ _ _ _ nonempty (by simp)

theorem remaining_lexemeFrom (cursor : Cursor) :
    (lexemeFrom cursor).2.remaining < cursor.rest.length + 1 := by
  unfold lexemeFrom
  split
  · simp [remaining]
  · next char rest restEq => exact remaining_lexemeAt cursor char rest restEq

theorem remaining_next {lexer after : Lexer} {lexeme : Lexeme}
    (step : lexer.next? = some (lexeme, after)) : after.remaining < lexer.remaining := by
  unfold next? at step
  split at step
  · contradiction
  · next unfinished =>
      have shorter := remaining_lexemeFrom (lexer.cursor.dropWhile Text.isBlank)
      rw [Option.some.inj step] at shorter
      have skipped : (lexer.cursor.dropWhile Text.isBlank).rest.length ≤
          lexer.cursor.rest.length := by
        simp only [Cursor.dropWhile, Cursor.takeWhile, Cursor.length_drop]
        omega
      simp only [remaining, unfinished, Bool.false_eq_true, if_false] at *
      omega

def lexemes (lexer : Lexer) : List Lexeme :=
  match _ : lexer.next? with
  | none => []
  | some (lexeme, after) => lexeme :: lexemes after
termination_by lexer.remaining
decreasing_by exact remaining_next ‹_›

def stream : Nat → Lexer → List (Option Lexeme)
  | 0, _ => []
  | count + 1, lexer =>
      match lexer.next? with
      | none => none :: stream count lexer
      | some (lexeme, after) => some lexeme :: stream count after

end Lexer

/-- The tokens of a query. The last one, and no other, is the end of the query. -/
def tokenize (query : Text) : List Token := (Lexer.start query).lexemes.map Lexeme.toToken

end TopicSieve
