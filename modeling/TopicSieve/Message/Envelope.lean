import TopicSieve.Instant.Reader
import TopicSieve.Json.Reader
import TopicSieve.Text.Sorted

/-!
Messages written as JSON objects: an envelope has a member for each part of a message, and every
member may be missing. An envelope may also be a list of the parts in a fixed order.
-/

namespace TopicSieve

structure Envelope where
  topic : Option Text
  partition : Int
  offset : Option Int
  timestamp : Option Instant
  headers : Option (List Text)
  value : Option Text
deriving Repr, DecidableEq

namespace Envelope

def empty : Envelope := ⟨none, 0, none, none, none, none⟩

inductive Field where
  | topic
  | partition
  | offset
  | timestamp
  | headers
  | value
deriving Repr, DecidableEq

namespace Field

def all : List Field := [topic, partition, offset, timestamp, headers, value]

def name : Field → Text
  | topic => "topic"
  | partition => "partition"
  | offset => "offset"
  | timestamp => "timestamp"
  | headers => "headers"
  | value => "value"

def ofName? (text : Text) : Option Field := all.find? fun field => field.name == text

end Field

open Json (Fault Stop stopAt stopAhead skipSpace expectName expectColon nextItem nextMember
  readString readNumber readValue skipValue depthLimit)

def stopAtType {α : Type} (expected : Text) (cursor : Cursor) : Except Stop α :=
  match cursor.peek? with
  | some 'n' => do stopAt (← expectName "ull" (cursor.drop 1)) (.invalidType .null expected)
  | some 't' => do stopAt (← expectName "rue" (cursor.drop 1)) (.invalidType (.bool true) expected)
  | some 'f' => do
      stopAt (← expectName "alse" (cursor.drop 1)) (.invalidType (.bool false) expected)
  | some '"' => do
      let (text, after) ← readString (cursor.drop 1)
      stopAt after (.invalidType (.string text) expected)
  | some '[' => stopAt cursor (.invalidType (.array []) expected)
  | some '\x7b' => stopAt cursor (.invalidType (.object []) expected)
  | some char =>
      if char = '-' ∨ Text.isDigit char then do
        let (value, after) ← readNumber cursor
        stopAt after (.invalidType (.number value) expected)
      else stopAhead cursor .expectedValue
  | none => stopAhead cursor .endInValue

def readOptional {α : Type} (read : Cursor → Except Stop (α × Cursor)) (cursor : Cursor) :
    Except Stop (Option α × Cursor) :=
  let cursor := skipSpace cursor
  if cursor.peek? = some 'n' then do .ok (none, ← expectName "ull" (cursor.drop 1))
  else do
    let (value, after) ← read cursor
    .ok (some value, after)

def readText (expected : Text) (cursor : Cursor) : Except Stop (Text × Cursor) :=
  let cursor := skipSpace cursor
  if cursor.peek? = some '"' then readString (cursor.drop 1) else stopAtType expected cursor

def readInteger (bits : Nat) (expected : Text) (cursor : Cursor) : Except Stop (Int × Cursor) :=
  let cursor := skipSpace cursor
  let isNumber := cursor.peek?.any fun char => char == '-' || Text.isDigit char
  if !isNumber then stopAtType expected cursor
  else do
    let (number, after) ← readNumber cursor
    match number with
    | .integer value =>
        if -(twoTo (bits - 1) : Int) ≤ value ∧ value < twoTo (bits - 1) then .ok (value, after)
        else stopAt after (.invalidValue (.number number) expected)
    | .float .. => stopAt after (.invalidType (.number number) expected)

def readTime (cursor : Cursor) : Except Stop (Instant × Cursor) := do
  let (text, after) ← readText "an RFC 3339 formatted date and time string" cursor
  match Instant.readLenient text with
  | .ok instant => .ok (instant, after)
  | .error error => stopAt after (.refused error.message)

def memberNames (members : List (Text × Json)) : List Text :=
  Text.distinctSorted (members.map Prod.fst)

def string? : Json → Option Text
  | .string text => some text
  | _ => none

def headerNames? : Json → Option (List Text)
  | .array items => items.mapM string?
  | .object members => some (memberNames members)
  | _ => none

def readHeaders (cursor : Cursor) : Except Stop (List Text × Cursor) := do
  let (value, after) ← readValue (depthLimit - 1) cursor
  match headerNames? value with
  | some names => .ok (names, after)
  | none =>
      .error (.pending (.refused "data did not match any variant of untagged enum Headers") after)

def readField (envelope : Envelope) (cursor : Cursor) : Field → Except Stop (Envelope × Cursor)
  | .topic => do
      let (topic, after) ← readOptional (readText "a string") cursor
      .ok ({ envelope with topic }, after)
  | .partition => do
      let (partition, after) ← readInteger 32 "i32" cursor
      .ok ({ envelope with partition }, after)
  | .offset => do
      let (offset, after) ← readOptional (readInteger 64 "i64") cursor
      .ok ({ envelope with offset }, after)
  | .timestamp => do
      let (timestamp, after) ← readOptional readTime cursor
      .ok ({ envelope with timestamp }, after)
  | .headers => do
      let (headers, after) ← readOptional readHeaders cursor
      .ok ({ envelope with headers }, after)
  | .value => do
      let (value, after) ← readOptional (readText "a string") cursor
      .ok ({ envelope with value }, after)

/-- Reads the members of an object up to its closing bracket. `seen` holds the fields read before;
members with other names are passed over. -/
def readMembers : Nat → List Field → Bool → Envelope → Cursor → Except Stop (Envelope × Cursor)
  | 0, _, _, _, cursor => stopAhead cursor .endInObject
  | steps + 1, seen, first, envelope, cursor => do
      let (more, cursor) ← nextMember first cursor
      if !more then .ok (envelope, cursor)
      else
        let (name, cursor) ← readString cursor
        match Field.ofName? name with
        | none =>
            let cursor ← expectColon cursor
            let cursor ← skipValue cursor
            readMembers steps seen false envelope cursor
        | some field =>
            if seen.contains field then .error (.pending (.duplicateField field.name) cursor)
            else
              let cursor ← expectColon cursor
              let (envelope, cursor) ← readField envelope cursor field
              readMembers steps (field :: seen) false envelope cursor

def readItems : List Field → Bool → Envelope → Cursor → Except Stop (Envelope × Cursor)
  | [], _, envelope, cursor => .ok (envelope, cursor)
  | field :: fields, first, envelope, cursor => do
      let (more, cursor) ← nextItem first cursor
      if !more then .ok (envelope, cursor)
      else
        let (envelope, cursor) ← readField envelope cursor field
        readItems fields false envelope cursor

def leaveObject (cursor : Cursor) : Cursor :=
  let cursor := skipSpace cursor
  if cursor.peek? = some '\x7d' then cursor.drop 1 else cursor

def leaveList (cursor : Cursor) : Cursor :=
  let cursor := skipSpace cursor
  if cursor.peek? = some ']' then cursor.drop 1
  else if cursor.peek? = some ',' then skipSpace (cursor.drop 1)
  else cursor

def placeFault {α : Type} (leave : Cursor → Cursor) : Except Stop α → Except Stop α
  | .error (.pending cause cursor) => stopAt (leave cursor) cause
  | outcome => outcome

def readObject (cursor : Cursor) : Except Stop (Envelope × Cursor) := do
  let (envelope, after) ←
    placeFault leaveObject (readMembers (cursor.rest.length + 1) [] true empty cursor)
  .ok (envelope, after.drop 1)

def closeList (cursor : Cursor) : Except Stop Cursor :=
  let cursor := skipSpace cursor
  match cursor.peek? with
  | none => stopAhead cursor .endInList
  | some ']' => .ok (cursor.drop 1)
  | some ',' =>
      let cursor := skipSpace (cursor.drop 1)
      stopAhead cursor (if cursor.peek? = some ']' then .trailingComma else .trailingCharacters)
  | some _ => stopAhead cursor .trailingCharacters

def readList (cursor : Cursor) : Except Stop (Envelope × Cursor) := do
  let (envelope, after) ← placeFault leaveList (readItems Field.all true empty cursor)
  let after ← closeList after
  .ok (envelope, after)

def readWhole (text : Text) : Except Stop Envelope := do
  let cursor := skipSpace (Cursor.start text)
  let (envelope, after) ← match cursor.peek? with
    | some '\x7b' => readObject (cursor.drop 1)
    | some '[' => readList (cursor.drop 1)
    | _ => stopAtType "struct Envelope" cursor
  let rest := skipSpace after
  if rest.rest.isEmpty then .ok envelope else stopAhead rest .trailingCharacters

def read (text : Text) : Except Fault Envelope :=
  match readWhole text with
  | .ok envelope => .ok envelope
  | .error (.placed fault) => .error fault
  | .error (.pending cause cursor) => .error ⟨cause, cursor.offset⟩

end Envelope

end TopicSieve
