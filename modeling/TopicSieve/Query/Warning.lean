import TopicSieve.Query.FilterMap
import TopicSieve.Query.Lexer

/-!
What a query contains to no effect: segments that give no pair, keys that are given again, and
operators that are read but not evaluated.
-/

namespace TopicSieve

inductive QueryWarning where
  | missingEquals (segment : Text)
  | emptyKey (segment : Text)
  | duplicateKey (key : Text)
  | unsupportedOperator (token : Text) (position : Nat)
deriving Repr, DecidableEq

namespace QueryWarning

def message : QueryWarning → Text
  | missingEquals segment => "Ignoring '" ++ segment ++ "': expected 'key=value'"
  | emptyKey segment => "Ignoring '" ++ segment ++ "': empty key"
  | duplicateKey key => "Key '" ++ key ++ "' is given more than once; the last value wins"
  | unsupportedOperator token position =>
      "'" ++ token ++ "' at position " ++ Text.ofNat position ++
        " is not evaluated; terms are combined with ',' only"

def ofSegments (seen : List Text) : List Text → List QueryWarning
  | [] => []
  | segment :: rest =>
      match splitTerm? segment with
      | none => missingEquals segment :: ofSegments seen rest
      | some ([], _) => emptyKey segment :: ofSegments seen rest
      | some (key, _) =>
          let folded := Text.fold key
          if seen.contains folded then duplicateKey key :: ofSegments seen rest
          else ofSegments (folded :: seen) rest

def ofTokens (tokens : List Token) : List QueryWarning :=
  (tokens.filter fun token => token.kind.isBoolean).map fun token =>
    unsupportedOperator token.value token.position

def ofQuery (query : Text) : List QueryWarning :=
  ofSegments [] (segments query) ++ ofTokens (tokenize query)

end QueryWarning

end TopicSieve
