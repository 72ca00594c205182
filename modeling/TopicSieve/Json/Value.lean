import TopicSieve.Number.Shortest
import TopicSieve.Text.Quoted

/-!
JSON values. Numbers without fraction and exponent that fit in 64 bits are integers; all others are
rounded to floating point.
-/

namespace TopicSieve

inductive JsonNumber where
  | integer (value : Int)
  | float (negative : Bool) (magnitude : Binary64)
deriving Repr, DecidableEq

/-- A JSON value. The members of an object keep their order, repeated names included. -/
inductive Json where
  | null
  | bool (value : Bool)
  | number (value : JsonNumber)
  | string (value : Text)
  | array (items : List Json)
  | object (members : List (Text × Json))
deriving Repr

namespace JsonNumber

def describe : JsonNumber → Text
  | integer value => "integer `" ++ Text.ofInt value ++ "`"
  | float negative magnitude =>
      let digits := magnitude.shortest.normalized.general
      "floating point `" ++ (if negative then "-" else "") ++ digits ++ "`"

end JsonNumber

namespace Json

def describe : Json → Text
  | null => "null"
  | bool true => "boolean `true`"
  | bool false => "boolean `false`"
  | number value => value.describe
  | string value => "string " ++ Text.quoted value
  | array _ => "sequence"
  | object _ => "map"

end Json

end TopicSieve
