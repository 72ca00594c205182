import TopicSieve.Text.Blank

/-!
Queries as lists of terms. The cut at commas is flat: quotes protect nothing.
-/

namespace TopicSieve

abbrev Pair := Text × Text

def segments (query : Text) : List Text :=
  ((Text.splitOn ',' query).map Text.trim).filter fun segment => !segment.isEmpty

def isQuotedBy (quote : Char) (value : Text) : Bool :=
  2 ≤ value.length && value.head? == some quote && value.getLast? == some quote

def stripQuotes (value : Text) : Text :=
  if isQuotedBy '"' value || isQuotedBy '\'' value then value.tail.dropLast else value

def splitTerm? (segment : Text) : Option Pair :=
  (Text.splitFirst '=' segment).map fun (key, value) =>
    (Text.trim key, stripQuotes (Text.trim value))

end TopicSieve
