import TopicSieve.Query.FilterMap

/-!
When a message body contains a pair. A pair can be written in four ways, and it is found if one of
them occurs in the body, both folded to lower case. The body is searched as plain text, so a pair
inside some unrelated string counts too.
-/

namespace TopicSieve

inductive Pattern where
  | keyEquals
  | spacedJson
  | singleQuoted
  | compactJson
deriving Repr, DecidableEq

namespace Pattern

def all : List Pattern := [keyEquals, spacedJson, singleQuoted, compactJson]

def name : Pattern → Text
  | keyEquals => "KeyEquals"
  | spacedJson => "SpacedJson"
  | singleQuoted => "SingleQuoted"
  | compactJson => "CompactJson"

def render (key value : Text) : Pattern → Text
  | keyEquals => key ++ "=" ++ value
  | spacedJson => "\"" ++ key ++ "\" : " ++ value
  | singleQuoted => "'" ++ key ++ "':'" ++ value ++ "'"
  | compactJson => "\"" ++ key ++ "\":" ++ value

def find? (foldedBody : Text) (pair : Pair) : Option Pattern :=
  all.find? fun pattern =>
    Text.occursIn (pattern.render (Text.fold pair.1) (Text.fold pair.2)) foldedBody

end Pattern

namespace FilterMap

def searched (map : FilterMap) : List Pair := map.pairs.filter fun pair => !pair.1.isEmpty

/-- Whether a body contains every pair. An empty map accepts every body, and an empty body is
accepted by no other map. -/
def accepts (map : FilterMap) (body : Text) : Bool :=
  if map.isEmpty then true
  else if body.isEmpty then false
  else
    let folded := Text.fold body
    map.searched.all fun pair => (Pattern.find? folded pair).isSome

def explain (map : FilterMap) (body : Text) : List (Text × Option Pattern) :=
  let folded := Text.fold body
  map.searched.map fun pair => (pair.1, Pattern.find? folded pair)

end FilterMap

end TopicSieve
