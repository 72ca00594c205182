import TopicSieve.Message.Basic
import TopicSieve.Instant.Printer
import TopicSieve.Query.FilterMap
import TopicSieve.Text.Width

/-!
Tables drawn with box characters. A cell may have several lines; a column is as wide as its widest
line, with a blank on either side. This is the form for output that goes to no screen: on a screen the
headers would also be bold and the columns fitted to its width, which is left out.
-/

namespace TopicSieve

structure Table where
  header : Text × Text
  rows : List (Text × Text)
deriving Repr, DecidableEq

namespace Table

def columnWidth (cells : List Text) : Nat :=
  (cells.flatMap (Text.splitOn '\n')).foldl (fun widest line => max widest (Text.width line)) 0

def cells (table : Table) : List (Text × Text) := table.header :: table.rows

def rule (left stroke crossing right : Char) (widths : Nat × Nat) : Text :=
  left :: List.replicate (widths.1 + 2) stroke ++ [crossing] ++
    List.replicate (widths.2 + 2) stroke ++ [right]

def fill (width : Nat) (line : Text) : Text :=
  " " ++ line ++ List.replicate (width - Text.width line) ' ' ++ " "

def sideBySide (divider : Char) (widths : Nat × Nat) : List Text → List Text → List Text
  | [], [] => []
  | [], right :: rights =>
      ("│" ++ fill widths.1 [] ++ [divider] ++ fill widths.2 right ++ "│") ::
        sideBySide divider widths [] rights
  | left :: lefts, [] =>
      ("│" ++ fill widths.1 left ++ [divider] ++ fill widths.2 [] ++ "│") ::
        sideBySide divider widths lefts []
  | left :: lefts, right :: rights =>
      ("│" ++ fill widths.1 left ++ [divider] ++ fill widths.2 right ++ "│") ::
        sideBySide divider widths lefts rights

def rowLines (divider : Char) (widths : Nat × Nat) (row : Text × Text) : List Text :=
  sideBySide divider widths (Text.splitOn '\n' row.1) (Text.splitOn '\n' row.2)

def bodyLines (widths : Nat × Nat) : List (Text × Text) → List Text
  | [] => []
  | [row] => rowLines '┆' widths row
  | row :: next :: rest =>
      rowLines '┆' widths row ++ [rule '├' '╌' '┼' '┤' widths] ++ bodyLines widths (next :: rest)

def lines (table : Table) : List Text :=
  let widths := (columnWidth (table.cells.map Prod.fst), columnWidth (table.cells.map Prod.snd))
  [rule '╭' '─' '┬' '╮' widths] ++ rowLines '┆' widths table.header ++
    [rule '╞' '═' '╪' '╡' widths] ++ bodyLines widths table.rows ++
    [rule '╰' '─' '┴' '╯' widths]

def render (table : Table) : Text := Text.join "\n" table.lines

end Table

def Message.table (message : Message) : Table where
  header := ("Field", "Value")
  rows :=
    let place : List (Text × Text) :=
      [("Topic", message.topic), ("Partition", Text.ofInt message.partition),
        ("Offset", Text.ofInt message.offset)]
    let time : List (Text × Text) :=
      message.timestamp.toList.map fun instant => ("Timestamp (UTC)", instant.textTo 3)
    let headers : List (Text × Text) :=
      if message.headers.isEmpty then [] else [("Headers", Text.join ", " message.headers)]
    let body : List (Text × Text) := [("Value", message.body)]
    place ++ time ++ headers ++ body

def FilterMap.table (map : FilterMap) : Table := ⟨("Key", "Value"), map.pairs⟩

end TopicSieve
