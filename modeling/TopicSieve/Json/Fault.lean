import TopicSieve.Text.Cursor
import TopicSieve.Json.Value

/-!
Why and where reading JSON stops. Columns count bytes, as the text is read one line at a time.
-/

namespace TopicSieve.Json

inductive Cause where
  | endInValue
  | endInList
  | endInObject
  | endInString
  | expectedColon
  | expectedListComma
  | expectedObjectComma
  | expectedName
  | expectedValue
  | invalidEscape
  | invalidNumber
  | numberOutOfRange
  | loneSurrogate
  | endOfHexEscape
  | controlCharacter
  | keyNotString
  | trailingComma
  | trailingCharacters
  | recursionLimit
  | invalidType (found : Json) (expected : Text)
  | invalidValue (found : Json) (expected : Text)
  | duplicateField (name : Text)
  | refused (reason : Text)

namespace Cause

def message : Cause → Text
  | endInValue => "EOF while parsing a value"
  | endInList => "EOF while parsing a list"
  | endInObject => "EOF while parsing an object"
  | endInString => "EOF while parsing a string"
  | expectedColon => "expected `:`"
  | expectedListComma => "expected `,` or `]`"
  | expectedObjectComma => "expected `,` or `\x7d`"
  | expectedName => "expected ident"
  | expectedValue => "expected value"
  | invalidEscape => "invalid escape"
  | invalidNumber => "invalid number"
  | numberOutOfRange => "number out of range"
  | loneSurrogate => "lone leading surrogate in hex escape"
  | endOfHexEscape => "unexpected end of hex escape"
  | controlCharacter => "control character (\\u0000-\\u001F) found while parsing a string"
  | keyNotString => "key must be a string"
  | trailingComma => "trailing comma"
  | trailingCharacters => "trailing characters"
  | recursionLimit => "recursion limit exceeded"
  | invalidType found expected => "invalid type: " ++ found.describe ++ ", expected " ++ expected
  | invalidValue found expected => "invalid value: " ++ found.describe ++ ", expected " ++ expected
  | duplicateField name => "duplicate field `" ++ name ++ "`"
  | refused reason => reason

end Cause

structure Fault where
  cause : Cause
  column : Nat

def Fault.message (fault : Fault) : Text :=
  fault.cause.message ++ " at line 1 column " ++ Text.ofNat fault.column

/-- Why a reader stopped. A cause that concerns a whole record is bound to no column yet: it gets
the one at which the record ends. -/
inductive Stop where
  | placed (fault : Fault)
  | pending (cause : Cause) (cursor : Cursor)

def stopAt {α : Type} (cursor : Cursor) (cause : Cause) : Except Stop α :=
  .error (.placed ⟨cause, cursor.offset⟩)

def stopAhead {α : Type} (cursor : Cursor) (cause : Cause) : Except Stop α :=
  .error (.placed ⟨cause, if cursor.rest.isEmpty then cursor.offset else cursor.offset + 1⟩)

end TopicSieve.Json
