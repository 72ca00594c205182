import TopicSieve.Number.Shortest
import TopicSieve.Text.Cursor
import TopicSieve.Text.Quoted

/-!
Values of a TOML document, each with the stretch of the document that it was read from.
-/

namespace TopicSieve

/-- A stretch of a document: where it starts in characters, and where it starts and stops in
bytes. -/
structure Span where
  position : Nat
  offset : Nat
  stop : Nat
deriving Repr, DecidableEq

def Span.between (start stop : Cursor) : Span := ⟨start.position, start.offset, stop.offset⟩

namespace Toml

/-- A floating-point value. A finite one whose size goes beyond the largest number is kept as
such. -/
inductive FloatValue where
  | notANumber
  | infinite
  | tooLarge
  | finite (magnitude : Binary64)
deriving Repr, DecidableEq

/-- How a table was made: by a header of its own or as the document itself, by a longer header or by a
dotted key that passes through it, or between braces. -/
inductive TableKind where
  | explicit
  | implicit
  | dotted
  | inline
deriving Repr, DecidableEq

inductive Value where
  | string (text : Text)
  | integer (value : Int)
  | float (negative : Bool) (value : FloatValue)
  | boolean (value : Bool)
  | datetime
  | array (ofTables : Bool) (items : List (Span × Value))
  | table (kind : TableKind) (entries : List (Text × Span × Value))
deriving Repr

def FloatValue.text (negative : Bool) : FloatValue → Text
  | notANumber => "NaN"
  | infinite => if negative then "-inf" else "inf"
  | tooLarge => []
  | finite magnitude =>
      (if negative then "-" else "") ++ magnitude.shortest.normalized.positional

def describeInteger? (value : Int) : Option Text :=
  let text : Text := "integer `" ++ Text.ofInt value ++ "`"
  if -(twoTo 63 : Int) ≤ value ∧ value < twoTo 64 then some text
  else if -(twoTo 127 : Int) ≤ value ∧ value < twoTo 127 then some (text ++ " as i128")
  else if 0 ≤ value ∧ value < twoTo 128 then some (text ++ " as u128")
  else none

def Value.mismatch (expected : Text) (value : Value) : Text :=
  let found (description : Text) : Text :=
    "invalid type: " ++ description ++ ", expected " ++ expected
  match value with
  | string text => found ("string " ++ Text.quoted text)
  | integer value =>
      match describeInteger? value with
      | some description => found description
      | none => "integer number overflowed"
  | float _ .tooLarge => "floating-point number overflowed"
  | float negative value => found ("floating point `" ++ value.text negative ++ "`")
  | boolean true => found "boolean `true`"
  | boolean false => found "boolean `false`"
  | datetime => found "map"
  | array .. => found "sequence"
  | table .. => found "map"

abbrev Item := Span × Value

abbrev Entries := List (Text × Item)

mutual

def Value.tooLarge? (span : Span) (value : Value) : Option Item :=
  match value with
  | .integer number =>
      if (describeInteger? number).isNone then some (span, .integer number) else none
  | .float negative .tooLarge => some (span, .float negative .tooLarge)
  | .array _ items => firstTooLarge? items
  | .table _ entries => (leastTooLarge? entries).map Prod.snd
  | _ => none

def firstTooLarge? : List (Span × Value) → Option Item
  | [] => none
  | (span, value) :: rest => (value.tooLarge? span).or (firstTooLarge? rest)

def leastTooLarge? : List (Text × Span × Value) → Option (Text × Item)
  | [] => none
  | (key, span, value) :: rest =>
      match value.tooLarge? span, leastTooLarge? rest with
      | some item, some (other, found) =>
          if key < other then some (key, item) else some (other, found)
      | some item, none => some (key, item)
      | none, found => found

end

def Entries.item? (entries : Entries) (key : Text) : Option Item :=
  (List.find? (fun entry => entry.1 == key) entries).map Prod.snd

def Entries.set (entries : Entries) (key : Text) (item : Item) : Entries :=
  if (entries.item? key).isSome then
    entries.map fun entry => if entry.1 == key then (key, item) else entry
  else entries ++ [(key, item)]

end Toml

end TopicSieve
