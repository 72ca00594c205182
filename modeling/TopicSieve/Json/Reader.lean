import TopicSieve.Json.Number
import TopicSieve.Json.String

/-!
Reading JSON values, and passing over them. Values that are read may be nested to a limited depth;
values that are passed over may be nested to any.
-/

namespace TopicSieve.Json

def isSpace (char : Char) : Bool := char == ' ' || char == '\n' || char == '\t' || char == '\r'

def skipSpace (cursor : Cursor) : Cursor := cursor.dropWhile isSpace

def depthLimit : Nat := 127

def expectName : Text → Cursor → Except Stop Cursor
  | [], cursor => .ok cursor
  | letter :: rest, cursor =>
      match cursor.next? with
      | none => stopAt cursor .endInValue
      | some (char, after) =>
          if char = letter then expectName rest after else stopAhead cursor .expectedName

def expectColon (cursor : Cursor) : Except Stop Cursor :=
  let cursor := skipSpace cursor
  match cursor.peek? with
  | none => stopAhead cursor .endInObject
  | some ':' => .ok (cursor.drop 1)
  | some _ => stopAhead cursor .expectedColon

def nextItem (first : Bool) (cursor : Cursor) : Except Stop (Bool × Cursor) :=
  let cursor := skipSpace cursor
  match cursor.peek? with
  | none => stopAhead cursor .endInList
  | some ']' => .ok (false, cursor)
  | some char =>
      if first then .ok (true, cursor)
      else if char = ',' then
        let cursor := skipSpace (cursor.drop 1)
        match cursor.peek? with
        | none => stopAhead cursor .endInValue
        | some ']' => stopAhead cursor .trailingComma
        | some _ => .ok (true, cursor)
      else stopAhead cursor .expectedListComma

/-- Whether an object goes on, with the place behind the quote that opens the name of its next member,
or in front of the closing bracket. -/
def nextMember (first : Bool) (cursor : Cursor) : Except Stop (Bool × Cursor) :=
  let cursor := skipSpace cursor
  match cursor.peek? with
  | none => stopAhead cursor .endInObject
  | some '\x7d' => .ok (false, cursor)
  | some char =>
      if first then
        if char = '"' then .ok (true, cursor.drop 1) else stopAhead cursor .keyNotString
      else if char = ',' then
        let cursor := skipSpace (cursor.drop 1)
        match cursor.peek? with
        | none => stopAhead cursor .endInValue
        | some '"' => .ok (true, cursor.drop 1)
        | some '\x7d' => stopAhead cursor .trailingComma
        | some _ => stopAhead cursor .keyNotString
      else stopAhead cursor .expectedObjectComma

mutual

/-- Reads a value. `depth` is the number of brackets that may still be opened. -/
def readValueFrom : Nat → Nat → Cursor → Except Stop (Json × Cursor)
  | 0, _, cursor => stopAhead cursor .endInValue
  | steps + 1, depth, cursor =>
      let cursor := skipSpace cursor
      match cursor.peek? with
      | none => stopAhead cursor .endInValue
      | some 'n' => do .ok (null, ← expectName "ull" (cursor.drop 1))
      | some 't' => do .ok (bool true, ← expectName "rue" (cursor.drop 1))
      | some 'f' => do .ok (bool false, ← expectName "alse" (cursor.drop 1))
      | some '"' => do
          let (text, after) ← readString (cursor.drop 1)
          .ok (string text, after)
      | some '[' =>
          match depth with
          | 0 => stopAhead cursor .recursionLimit
          | depth + 1 => do
              let (items, after) ← readItemsFrom steps depth true (cursor.drop 1)
              .ok (array items, after)
      | some '\x7b' =>
          match depth with
          | 0 => stopAhead cursor .recursionLimit
          | depth + 1 => do
              let (members, after) ← readMembersFrom steps depth true (cursor.drop 1)
              .ok (object members, after)
      | some char =>
          if char = '-' ∨ Text.isDigit char then do
            let (value, after) ← readNumber cursor
            .ok (number value, after)
          else stopAhead cursor .expectedValue

def readItemsFrom : Nat → Nat → Bool → Cursor → Except Stop (List Json × Cursor)
  | 0, _, _, cursor => stopAhead cursor .endInList
  | steps + 1, depth, first, cursor => do
      let (more, cursor) ← nextItem first cursor
      if more then
        let (item, cursor) ← readValueFrom steps depth cursor
        let (items, cursor) ← readItemsFrom steps depth false cursor
        .ok (item :: items, cursor)
      else .ok ([], cursor.drop 1)

def readMembersFrom : Nat → Nat → Bool → Cursor → Except Stop (List (Text × Json) × Cursor)
  | 0, _, _, cursor => stopAhead cursor .endInObject
  | steps + 1, depth, first, cursor => do
      let (more, cursor) ← nextMember first cursor
      if more then
        let (name, cursor) ← readString cursor
        let cursor ← expectColon cursor
        let (value, cursor) ← readValueFrom steps depth cursor
        let (members, cursor) ← readMembersFrom steps depth false cursor
        .ok ((name, value) :: members, cursor)
      else .ok ([], cursor.drop 1)

end

/-- Enough steps for a text: a value takes at most two steps for each of its characters. -/
def stepsFor (cursor : Cursor) : Nat := 2 * cursor.rest.length + 2

def readValue (depth : Nat) (cursor : Cursor) : Except Stop (Json × Cursor) :=
  readValueFrom (stepsFor cursor) depth cursor

mutual

def skipValueFrom : Nat → Cursor → Except Stop Cursor
  | 0, cursor => stopAhead cursor .endInValue
  | steps + 1, cursor =>
      let cursor := skipSpace cursor
      match cursor.peek? with
      | none => stopAhead cursor .endInValue
      | some 'n' => expectName "ull" (cursor.drop 1)
      | some 't' => expectName "rue" (cursor.drop 1)
      | some 'f' => expectName "alse" (cursor.drop 1)
      | some '"' => skipString (cursor.drop 1)
      | some '[' => skipItemsFrom steps (cursor.drop 1)
      | some '\x7b' => skipMembersFrom steps (cursor.drop 1)
      | some char =>
          if char = '-' ∨ Text.isDigit char then skipNumber cursor
          else stopAhead cursor .expectedValue

def skipItemsFrom : Nat → Cursor → Except Stop Cursor
  | 0, cursor => stopAhead cursor .endInList
  | steps + 1, cursor =>
      let cursor := skipSpace cursor
      match cursor.peek? with
      | none => stopAhead cursor .endInList
      | some ']' => .ok (cursor.drop 1)
      | some _ => do
          let cursor ← skipValueFrom steps cursor
          skipMoreItemsFrom steps cursor

def skipMoreItemsFrom : Nat → Cursor → Except Stop Cursor
  | 0, cursor => stopAhead cursor .endInList
  | steps + 1, cursor =>
      let cursor := skipSpace cursor
      match cursor.peek? with
      | none => stopAhead cursor .endInList
      | some ']' => .ok (cursor.drop 1)
      | some ',' => do
          let cursor ← skipValueFrom steps (cursor.drop 1)
          skipMoreItemsFrom steps cursor
      | some _ => stopAhead cursor .expectedListComma

def skipMembersFrom : Nat → Cursor → Except Stop Cursor
  | 0, cursor => stopAhead cursor .endInObject
  | steps + 1, cursor =>
      let cursor := skipSpace cursor
      match cursor.peek? with
      | some '\x7d' => .ok (cursor.drop 1)
      | _ => skipMemberFrom steps cursor

def skipMemberFrom : Nat → Cursor → Except Stop Cursor
  | 0, cursor => stopAhead cursor .endInObject
  | steps + 1, cursor =>
      let cursor := skipSpace cursor
      match cursor.peek? with
      | none => stopAhead cursor .endInObject
      | some '"' => do
          let cursor ← skipString (cursor.drop 1)
          let cursor ← expectColon cursor
          let cursor ← skipValueFrom steps cursor
          skipMoreMembersFrom steps cursor
      | some _ => stopAhead cursor .keyNotString

def skipMoreMembersFrom : Nat → Cursor → Except Stop Cursor
  | 0, cursor => stopAhead cursor .endInObject
  | steps + 1, cursor =>
      let cursor := skipSpace cursor
      match cursor.peek? with
      | none => stopAhead cursor .endInObject
      | some '\x7d' => .ok (cursor.drop 1)
      | some ',' => skipMemberFrom steps (cursor.drop 1)
      | some _ => stopAhead cursor .expectedObjectComma

end

/-- The place behind a value, which is looked at no closer than needed to find its end. -/
def skipValue (cursor : Cursor) : Except Stop Cursor := skipValueFrom (2 * stepsFor cursor) cursor

end TopicSieve.Json
