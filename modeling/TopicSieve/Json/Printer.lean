import TopicSieve.Json.Value

/-!
Writing JSON values, on one line or with an indentation of two spaces a level.
-/

namespace TopicSieve.Json

def escapedChar (char : Char) : Text :=
  match char with
  | '"' => "\\\""
  | '\\' => "\\\\"
  | '\x08' => "\\b"
  | '\x0c' => "\\f"
  | '\n' => "\\n"
  | '\r' => "\\r"
  | '\t' => "\\t"
  | _ =>
      if char.toNat < 0x20 then
        let digits := Text.ofNatHex char.toNat
        "\\u" ++ List.replicate (4 - digits.length) '0' ++ digits
      else [char]

def stringText (text : Text) : Text := "\"" ++ text.flatMap escapedChar ++ "\""

/-- The punctuation around values: what follows an opening bracket, a comma and a colon, and what
precedes a closing bracket, at a level of nesting. -/
structure Layout where
  breakAt : Nat → Text
  afterColon : Text

def compactLayout : Layout := ⟨fun _ => [], []⟩

def prettyLayout : Layout := ⟨fun level => '\n' :: List.replicate (2 * level) ' ', " "⟩

def enclosed (layout : Layout) (level : Nat) (opening closing : Char) (parts : List Text) : Text :=
  if parts.isEmpty then [opening, closing]
  else
    [opening] ++ Text.join [','] (parts.map fun part => layout.breakAt (level + 1) ++ part) ++
      layout.breakAt level ++ [closing]

def numberText : JsonNumber → Text
  | .integer value => Text.ofInt value
  | .float negative magnitude =>
      (if negative then "-" else "") ++ magnitude.shortest.normalized.general

mutual

def render (layout : Layout) (level : Nat) : Json → Text
  | null => "null"
  | bool true => "true"
  | bool false => "false"
  | number value => numberText value
  | string value => stringText value
  | array items => enclosed layout level '[' ']' (renderItems layout (level + 1) items)
  | object members => enclosed layout level '\x7b' '\x7d' (renderMembers layout (level + 1) members)

def renderItems (layout : Layout) (level : Nat) : List Json → List Text
  | [] => []
  | item :: rest => render layout level item :: renderItems layout level rest

def renderMembers (layout : Layout) (level : Nat) : List (Text × Json) → List Text
  | [] => []
  | (name, value) :: rest =>
      (stringText name ++ ":" ++ layout.afterColon ++ render layout level value) ::
        renderMembers layout level rest

end

def compact (value : Json) : Text := render compactLayout 0 value

def pretty (value : Json) : Text := render prettyLayout 0 value

end TopicSieve.Json
