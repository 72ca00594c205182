import TopicSieve.Json.Printer
import TopicSieve.Query.FilterMap

/-!
The JSON form of the pairs a filter requires.
-/

namespace TopicSieve.FilterMap

def toJson (map : FilterMap) : Json :=
  .object (map.pairs.map fun pair => (pair.1, .string pair.2))

end TopicSieve.FilterMap
