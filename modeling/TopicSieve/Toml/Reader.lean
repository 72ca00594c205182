import TopicSieve.Toml.Document
import TopicSieve.Toml.Scalar
import TopicSieve.Toml.String

/-!
Reading TOML documents. A text that is no document gives nothing; where it fails does not matter.
-/

namespace TopicSieve.Toml

def depthLimit : Nat := 80

def isBareKeyChar (char : Char) : Bool := char.isAlphanum || char == '_' || char == '-'

def skipSpaces (cursor : Cursor) : Cursor := cursor.dropWhile isSpace

def afterComment? (cursor : Cursor) : Option Cursor :=
  if cursor.peek? != some '#' then some cursor
  else
    let after := cursor.dropWhile fun char => !isForbidden char
    if after.rest.isEmpty || (afterNewline? after).isSome then some after else none

def skipLines? : Nat → Cursor → Option Cursor
  | 0, cursor => some cursor
  | steps + 1, cursor => do
      let cursor ← afterComment? (skipSpaces cursor)
      match afterNewline? cursor with
      | none => some cursor
      | some after => skipLines? steps after

def skipGap? (cursor : Cursor) : Option Cursor := skipLines? (cursor.rest.length + 1) cursor

def key? (cursor : Cursor) : Option (Key × Cursor) :=
  if cursor.peek? = some '"' ∨ cursor.peek? = some '\'' then
    (shortString? cursor).map fun (text, after) => (⟨text, .between cursor after⟩, after)
  else
    let (text, after) := cursor.takeWhile isBareKeyChar
    if text.isEmpty then none else some (⟨text, .between cursor after⟩, after)

def keysFrom? : Nat → Cursor → Option (List Key × Cursor)
  | 0, _ => none
  | steps + 1, cursor => do
      let (key, after) ← key? (skipSpaces cursor)
      let after := skipSpaces after
      if after.peek? = some '.' then
        let (keys, final) ← keysFrom? steps (after.drop 1)
        some (key :: keys, final)
      else some ([key], after)

def name? (cursor : Cursor) : Option (List Key × Key × Cursor) := do
  let (keys, after) ← keysFrom? (cursor.rest.length + 1) cursor
  let last ← keys.getLast?
  some (keys.dropLast, last, after)

def isDelimiter (char : Char) : Bool :=
  char.toNat < 0x21 || (",#[]=\x7b\x7d\"'" : Text).contains char

/-- The characters of a value without quotes or brackets. A date takes a time of day after a single
space with it. -/
def scalarText (cursor : Cursor) : Text × Cursor :=
  let (text, after) := cursor.takeWhile fun char => !isDelimiter char
  match after.rest with
  | ' ' :: next :: _ =>
      if afterDate? text == some [] && Text.isDigit next then
        let (time, final) := (after.drop 1).takeWhile fun char => !isDelimiter char
        (text ++ " " ++ time, final)
      else (text, after)
  | _ => (text, after)

mutual

def valueFrom? : Nat → Nat → Cursor → Option (Item × Cursor)
  | 0, _, _ => none
  | steps + 1, depth, cursor =>
      match cursor.peek? with
      | none => none
      | some '[' =>
          match depth with
          | 0 => none
          | depth + 1 => do
              let (items, after) ← itemsFrom? steps depth (cursor.drop 1)
              some ((.between cursor after, .array false items), after)
      | some '\x7b' =>
          match depth with
          | 0 => none
          | depth + 1 => do
              let (assignments, after) ← membersFrom? steps depth (cursor.drop 1)
              let entries ← Entries.assignAll .inline [] assignments
              some ((.between cursor after, .table .inline entries), after)
      | some char =>
          if char = '"' ∨ char = '\'' then do
            let (text, after) ← string? cursor
            some ((.between cursor after, .string text), after)
          else do
            let (text, after) := scalarText cursor
            let value ← scalar? text
            some ((.between cursor after, value), after)

def itemsFrom? : Nat → Nat → Cursor → Option (List Item × Cursor)
  | 0, _, _ => none
  | steps + 1, depth, cursor => do
      let cursor ← skipGap? cursor
      if cursor.peek? = some ']' then some ([], cursor.drop 1)
      else
        let (item, after) ← valueFrom? steps depth cursor
        let after ← skipGap? after
        if after.peek? = some ',' then
          let (items, final) ← itemsFrom? steps depth (after.drop 1)
          some (item :: items, final)
        else if after.peek? = some ']' then some ([item], after.drop 1)
        else none

def membersFrom? : Nat → Nat → Cursor → Option (List Assignment × Cursor)
  | 0, _, _ => none
  | steps + 1, depth, cursor => do
      let cursor ← skipGap? cursor
      if cursor.peek? = some '\x7d' then some ([], cursor.drop 1)
      else
        let (path, key, after) ← name? cursor
        if after.peek? ≠ some '=' then none
        else
          let (item, after) ← valueFrom? steps depth (← skipGap? (after.drop 1))
          let after ← skipGap? after
          if after.peek? = some ',' then
            let (members, final) ← membersFrom? steps depth (after.drop 1)
            some (⟨path, key, item⟩ :: members, final)
          else if after.peek? = some '\x7d' then some ([⟨path, key, item⟩], after.drop 1)
          else none

end

def value? (cursor : Cursor) : Option (Item × Cursor) :=
  valueFrom? (2 * cursor.rest.length + 2) depthLimit cursor

def assignment? (cursor : Cursor) : Option (Assignment × Cursor) := do
  let (path, key, after) ← name? cursor
  if after.peek? ≠ some '=' then none
  else
    let (item, after) ← value? (skipSpaces (after.drop 1))
    some (⟨path, key, item⟩, after)

def header? (cursor : Cursor) : Option (Header × Cursor) := do
  let ofArray := (cursor.drop 1).peek? == some '['
  let width := if ofArray then 2 else 1
  let (path, key, after) ← name? (cursor.drop width)
  if after.rest.take width = List.replicate width ']' then
    let final := after.drop width
    some (⟨path, key, ofArray, .between cursor final⟩, final)
  else none

def afterLine? (cursor : Cursor) : Option Cursor := do
  let after ← afterComment? (skipSpaces cursor)
  if after.rest.isEmpty then some after else afterNewline? after

def assignmentsFrom? : Nat → Cursor → Option (List Assignment × Cursor)
  | 0, _ => none
  | steps + 1, cursor => do
      let cursor ← skipGap? cursor
      if cursor.rest.isEmpty ∨ cursor.peek? = some '[' then some ([], cursor)
      else
        let (assignment, after) ← assignment? cursor
        let (assignments, final) ← assignmentsFrom? steps (← afterLine? after)
        some (assignment :: assignments, final)

def blocksFrom? : Nat → Cursor → Option (List Block)
  | 0, _ => none
  | steps + 1, cursor =>
      if cursor.rest.isEmpty then some []
      else do
        let (header, after) ← header? cursor
        let after ← afterLine? after
        let (assignments, final) ← assignmentsFrom? (after.rest.length + 1) after
        let blocks ← blocksFrom? steps final
        some (⟨header, assignments⟩ :: blocks)

def skipMark (cursor : Cursor) : Cursor :=
  if cursor.peek? = some '\uFEFF' then cursor.drop 1 else cursor

def read? (text : Text) : Option Entries := do
  let cursor := skipMark (Cursor.start text)
  let (assignments, rest) ← assignmentsFrom? (text.length + 1) cursor
  let blocks ← blocksFrom? (rest.rest.length + 1) rest
  Entries.ofBlocks? assignments blocks

end TopicSieve.Toml
