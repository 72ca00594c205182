import TopicSieve.Toml.Value

/-!
Showing a place in a document: its line and column, the line itself, and carets under the stretch
that is meant.
-/

namespace TopicSieve.Toml

def lineOf (document : Text) (position : Nat) : Nat := (document.take position).count '\n'

def columnOf (document : Text) (position : Nat) : Nat :=
  ((document.take position).reverse.takeWhile (· != '\n')).length

/-- How many carets fit under a stretch: one for each byte up to the end of the line, at least
one. -/
def caretCount (line : Text) (column : Nat) (span : Span) : Nat :=
  max 1 (min (span.stop - span.offset) (Text.byteLength line - column))

def excerpt (document : Text) (span : Span) (message : Text) : Text :=
  let lineIndex := lineOf document span.position
  let column := columnOf document span.position
  let number := Text.ofNat (lineIndex + 1)
  let line := ((Text.splitOn '\n' document)[lineIndex]?).getD []
  let gutter := List.replicate (number.length + 1) ' ' ++ "|"
  let carets := List.replicate (caretCount line column span) '^'
  "TOML parse error at line " ++ number ++ ", column " ++ Text.ofNat (column + 1) ++ "\n" ++
    gutter ++ "\n" ++
    number ++ " | " ++ line ++ "\n" ++
    gutter ++ List.replicate (column + 1) ' ' ++ carets ++ "\n" ++
    message ++ "\n"

end TopicSieve.Toml
