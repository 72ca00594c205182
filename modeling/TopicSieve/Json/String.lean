import TopicSieve.Json.Fault

/-!
Strings of JSON texts, from behind the opening quote. Reading a string decodes it; passing over a
string only looks for its end, and takes surrogates as they come.
-/

namespace TopicSieve.Json

def shortEscape? : Char → Option Char
  | '"' => some '"'
  | '\\' => some '\\'
  | '/' => some '/'
  | 'b' => some '\x08'
  | 'f' => some '\x0c'
  | 'n' => some '\n'
  | 'r' => some '\r'
  | 't' => some '\t'
  | _ => none

def readHex (cursor : Cursor) : Except Stop (Nat × Cursor) :=
  if Text.byteLength cursor.rest < 4 then stopAt (cursor.drop cursor.rest.length) .endInString
  else
    match (cursor.rest.take 4).map Text.hexValue? with
    | [some first, some second, some third, some fourth] =>
        .ok (((first * 16 + second) * 16 + third) * 16 + fourth, cursor.drop 4)
    | _ => .error (.placed ⟨.invalidEscape, cursor.offset + 4⟩)

def isHighSurrogate (code : Nat) : Bool := 0xD800 ≤ code && code ≤ 0xDBFF

def isLowSurrogate (code : Nat) : Bool := 0xDC00 ≤ code && code ≤ 0xDFFF

def expectInPair (char : Char) (cursor : Cursor) : Except Stop Cursor :=
  match cursor.next? with
  | none => stopAt cursor .endInString
  | some (next, after) =>
      if next = char then .ok after else stopAhead cursor .endOfHexEscape

/-- The character of a hexadecimal escape, from behind its letter. Two escapes that form a surrogate
pair give one character. -/
def readUnicode (cursor : Cursor) : Except Stop (Char × Cursor) := do
  let (first, afterFirst) ← readHex cursor
  if isLowSurrogate first then stopAt afterFirst .loneSurrogate
  else if isHighSurrogate first then
    let afterBackslash ← expectInPair '\\' afterFirst
    let afterLetter ← expectInPair 'u' afterBackslash
    let (second, afterSecond) ← readHex afterLetter
    if isLowSurrogate second then
      .ok (Char.ofNat (0x10000 + (first - 0xD800) * 0x400 + (second - 0xDC00)), afterSecond)
    else stopAt afterSecond .loneSurrogate
  else .ok (Char.ofNat first, afterFirst)

def readEscape (cursor : Cursor) : Except Stop (Char × Cursor) :=
  match cursor.next? with
  | none => stopAt cursor .endInString
  | some (letter, after) =>
      match shortEscape? letter with
      | some char => .ok (char, after)
      | none => if letter = 'u' then readUnicode after else stopAhead cursor .invalidEscape

def skipEscape (cursor : Cursor) : Except Stop Cursor :=
  match cursor.next? with
  | none => stopAt cursor .endInString
  | some (letter, after) =>
      match shortEscape? letter with
      | some _ => .ok after
      | none =>
          if letter = 'u' then (readHex after).map Prod.snd else stopAhead cursor .invalidEscape

/-- The decoded rest of a string. Each step reads at least one character, so as many steps as there
are characters always suffice. -/
def readStringFrom : Nat → Cursor → Except Stop (Text × Cursor)
  | 0, cursor => stopAt cursor .endInString
  | steps + 1, cursor =>
      match cursor.next? with
      | none => stopAt cursor .endInString
      | some (char, after) =>
          if char = '"' then .ok ([], after)
          else if char = '\\' then do
            let (decoded, afterEscape) ← readEscape after
            let (tail, final) ← readStringFrom steps afterEscape
            .ok (decoded :: tail, final)
          else if char.toNat < 0x20 then stopAt after .controlCharacter
          else do
            let (tail, final) ← readStringFrom steps after
            .ok (char :: tail, final)

def readString (cursor : Cursor) : Except Stop (Text × Cursor) :=
  readStringFrom (cursor.rest.length + 1) cursor

def skipStringFrom : Nat → Cursor → Except Stop Cursor
  | 0, cursor => stopAt cursor .endInString
  | steps + 1, cursor =>
      match cursor.next? with
      | none => stopAt cursor .endInString
      | some (char, after) =>
          if char = '"' then .ok after
          else if char = '\\' then do
            let afterEscape ← skipEscape after
            skipStringFrom steps afterEscape
          else if char.toNat < 0x20 then stopAt cursor .controlCharacter
          else skipStringFrom steps after

def skipString (cursor : Cursor) : Except Stop Cursor :=
  skipStringFrom (cursor.rest.length + 1) cursor

end TopicSieve.Json
