import TopicSieve.Toml.String

/-!
Writing strings for a TOML document in the plainest form that holds them: a basic string where no
escape is needed, else a literal one, else one on several lines, and a basic one with escapes where
nothing else will do.
-/

namespace TopicSieve.Toml

inductive StringStyle where
  | basic
  | literal
  | basicLines
  | literalLines
deriving Repr, DecidableEq

def needsEscape (char : Char) : Bool := isForbidden char && char != '\n'

def longestRunFrom (char : Char) (current : Nat) : Text → Nat
  | [] => current
  | head :: rest =>
      if head = char then longestRunFrom char (current + 1) rest
      else max current (longestRunFrom char 0 rest)

def longestRun (char : Char) (text : Text) : Nat := longestRunFrom char 0 text

def StringStyle.of (text : Text) : StringStyle :=
  let plain := !text.any needsEscape
  let oneLine := !text.contains '\n'
  if plain && !text.contains '\\' && !text.contains '"' && oneLine then .basic
  else if plain && !text.contains '\'' && oneLine then .literal
  else if plain && !text.contains '\\' && longestRun '"' text ≤ 2 then .basicLines
  else if plain && longestRun '\'' text ≤ 2 then .literalLines
  else if oneLine then .basic
  else .basicLines

def hexEscape (char : Char) : Text :=
  let digits := (Text.ofNatHex char.toNat).map Char.toUpper
  "\\u" ++ List.replicate (4 - digits.length) '0' ++ digits

def escapedChar (char : Char) : Text :=
  match char with
  | '\x08' => "\\b"
  | '\t' => "\\t"
  | '\n' => "\\n"
  | '\x0c' => "\\f"
  | '\r' => "\\r"
  | '"' => "\\\""
  | '\\' => "\\\\"
  | _ => if isForbidden char then hexEscape char else [char]

/-- The content of a basic string on several lines: line breaks stand for themselves, and so do up
to two quotes in a row. `quotes` counts the quotes just written. -/
def linesContent (quotes : Nat) : Text → Text
  | [] => []
  | char :: rest =>
      if char = '\n' then '\n' :: linesContent 0 rest
      else if char = '"' then
        if quotes < 2 then '"' :: linesContent (quotes + 1) rest
        else escapedChar '"' ++ linesContent 0 rest
      else escapedChar char ++ linesContent 0 rest

def openingBreak (text : Text) : Text := if text.contains '\n' then "\n" else []

def writeString (text : Text) : Text :=
  match StringStyle.of text with
  | .basic => "\"" ++ text.flatMap escapedChar ++ "\""
  | .literal => "'" ++ text ++ "'"
  | .basicLines => "\"\"\"" ++ openingBreak text ++ linesContent 0 text ++ "\"\"\""
  | .literalLines => "'''" ++ openingBreak text ++ text ++ "'''"

def writeAssignment (key text : Text) : Text := key ++ " = " ++ writeString text ++ "\n"

end TopicSieve.Toml
