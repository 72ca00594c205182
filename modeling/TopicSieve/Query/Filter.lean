import TopicSieve.Query.Lexer
import TopicSieve.Query.Pattern

/-!
A query together with the pairs it requires, made once and applied to many bodies.
-/

namespace TopicSieve

structure Filter where
  query : Text
  required : FilterMap

namespace Filter

def all : Filter := ⟨[], FilterMap.empty⟩

def parse (query : Text) : Filter := ⟨query, FilterMap.parse query⟩

def isEmpty (filter : Filter) : Bool := filter.required.isEmpty

def accepts (filter : Filter) (body : Text) : Bool := filter.required.accepts body

def explain (filter : Filter) (body : Text) : List (Text × Option Pattern) :=
  filter.required.explain body

def tokens (filter : Filter) : List Token := tokenize filter.query

end Filter

end TopicSieve
