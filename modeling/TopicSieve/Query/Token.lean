import TopicSieve.Text.Basic

/-!
Tokens of the query language, and the listing that shows them one to a line.
-/

namespace TopicSieve

inductive TokenKind where
  /-- a bare word with an equals sign after it -/
  | propertyName
  /-- a quoted string, a number, or a bare word with no equals sign after it -/
  | propertyValue
  | parenthesisOpen
  | parenthesisClose
  | comma
  | and
  | or
  | equals
  | null
  | endOfQuery
  | unknown
deriving Repr, DecidableEq

namespace TokenKind

def name : TokenKind → Text
  | propertyName => "PropertyName"
  | propertyValue => "PropertyValue"
  | parenthesisOpen => "ParenthesisOpen"
  | parenthesisClose => "ParenthesisClose"
  | comma => "Comma"
  | and => "And"
  | or => "Or"
  | equals => "Equals"
  | null => "Null"
  | endOfQuery => "EOF"
  | unknown => "Unknown"

def isBoolean : TokenKind → Bool
  | and | or | parenthesisOpen | parenthesisClose => true
  | _ => false

end TokenKind

/-- A token with the number of characters before it. The value of a quoted string is its content,
without quotes and escapes. -/
structure Token where
  kind : TokenKind
  value : Text
  position : Nat
deriving Repr, DecidableEq

namespace Token

/-- Kind, value and position in the form `Comma(',')@3`. -/
def describe (token : Token) : Text :=
  token.kind.name ++ "('" ++ token.value ++ "')@" ++ Text.ofNat token.position

def listing (tokens : List Token) : Text :=
  tokens.flatMap fun token => "  " ++ token.describe ++ "\n"

end Token

end TopicSieve
