import TopicSieve.Text.Cursor

/-!
Strings of a TOML document: basic ones with escapes and literal ones without, on one line or on
several. The readers start behind the opening quotes.
-/

namespace TopicSieve.Toml

def isSpace (char : Char) : Bool := char == ' ' || char == '\t'

def isForbidden (char : Char) : Bool :=
  (char.toNat < 0x20 && char != '\t') || char.toNat == 0x7F

def afterNewline? (cursor : Cursor) : Option Cursor :=
  match cursor.rest with
  | '\n' :: _ => some (cursor.drop 1)
  | '\r' :: '\n' :: _ => some (cursor.drop 2)
  | _ => none

def hexChar? (width : Nat) (cursor : Cursor) : Option (Char × Cursor) :=
  let digits := (cursor.rest.take width).filterMap Text.hexValue?
  let code := digits.foldl (fun value digit => value * 16 + digit) 0
  if digits.length = width ∧ code.isValidChar then some (Char.ofNat code, cursor.drop width)
  else none

def escape? (cursor : Cursor) : Option (Char × Cursor) :=
  match cursor.next? with
  | none => none
  | some (letter, after) =>
      match letter with
      | 'b' => some ('\x08', after)
      | 't' => some ('\t', after)
      | 'n' => some ('\n', after)
      | 'f' => some ('\x0c', after)
      | 'r' => some ('\r', after)
      | 'e' => some ('\x1b', after)
      | '"' => some ('"', after)
      | '\\' => some ('\\', after)
      | 'x' => hexChar? 2 after
      | 'u' => hexChar? 4 after
      | 'U' => hexChar? 8 after
      | _ => none

def basicFrom? : Nat → Cursor → Option (Text × Cursor)
  | 0, _ => none
  | steps + 1, cursor =>
      match cursor.next? with
      | none => none
      | some (char, after) =>
          if char = '"' then some ([], after)
          else if char = '\\' then do
            let (decoded, after) ← escape? after
            let (tail, final) ← basicFrom? steps after
            some (decoded :: tail, final)
          else if isForbidden char then none
          else do
            let (tail, final) ← basicFrom? steps after
            some (char :: tail, final)

def literal? (cursor : Cursor) : Option (Text × Cursor) :=
  let (content, after) := cursor.takeWhile fun char => char != '\'' && !isForbidden char
  if after.peek? = some '\'' then some (content, after.drop 1) else none

/-- The end of a string on several lines: up to two quotes that belong to it, and the three that
close it. -/
def closing? (quote : Char) (cursor : Cursor) : Option (Text × Cursor) :=
  let run := (cursor.rest.takeWhile (· == quote)).length
  if run < 3 then none
  else
    let length := min run 5
    some (List.replicate (length - 3) quote, cursor.drop length)

def skipBreaks : Nat → Cursor → Cursor
  | 0, cursor => cursor
  | steps + 1, cursor =>
      match afterNewline? (cursor.dropWhile isSpace) with
      | none => cursor.dropWhile isSpace
      | some next => skipBreaks steps next

def afterEscapedBreak? (cursor : Cursor) : Option Cursor :=
  (afterNewline? (cursor.dropWhile isSpace)).map fun after =>
    skipBreaks (after.rest.length + 1) after

/-- The rest of a string on several lines. In a basic one, a backslash escapes a character or a line
break. -/
def linesFrom? (quote : Char) (escapes : Bool) : Nat → Cursor → Option (Text × Cursor)
  | 0, _ => none
  | steps + 1, cursor =>
      match closing? quote cursor with
      | some closed => some closed
      | none =>
          match cursor.next? with
          | none => none
          | some (char, after) =>
              if escapes && char == '\\' then
                match afterEscapedBreak? after with
                | some after => linesFrom? quote escapes steps after
                | none => do
                    let (decoded, after) ← escape? after
                    let (tail, final) ← linesFrom? quote escapes steps after
                    some (decoded :: tail, final)
              else if isForbidden char && char != '\n' &&
                  !(char == '\r' && after.peek? == some '\n') then none
              else do
                let (tail, final) ← linesFrom? quote escapes steps after
                some (char :: tail, final)

def skipFirstBreak (cursor : Cursor) : Cursor := (afterNewline? cursor).getD cursor

def shortString? (cursor : Cursor) : Option (Text × Cursor) :=
  match cursor.rest with
  | '"' :: _ => basicFrom? (cursor.rest.length + 1) (cursor.drop 1)
  | '\'' :: _ => literal? (cursor.drop 1)
  | _ => none

def string? (cursor : Cursor) : Option (Text × Cursor) :=
  let steps := cursor.rest.length + 1
  match cursor.rest with
  | '"' :: '"' :: '"' :: _ => linesFrom? '"' true steps (skipFirstBreak (cursor.drop 3))
  | '\'' :: '\'' :: '\'' :: _ => linesFrom? '\'' false steps (skipFirstBreak (cursor.drop 3))
  | _ => shortString? cursor

end TopicSieve.Toml
