import TopicSieve.Toml.Value

/-!
How the parts of a document become one table. A key may be given only once, and a table may have
only one header; headers and dotted keys may pass through tables that are not yet there, and add to
those that longer headers or dotted keys of the same table have made.
-/

namespace TopicSieve.Toml

structure Key where
  text : Text
  span : Span
deriving Repr, DecidableEq

structure Header where
  path : List Key
  key : Key
  ofArray : Bool
  span : Span
deriving Repr, DecidableEq

structure Assignment where
  path : List Key
  key : Key
  item : Item
deriving Repr

structure Block where
  header : Header
  assignments : List Assignment
deriving Repr

def replaceLast {α : Type} (items : List α) (last : α) : List α := items.dropLast ++ [last]

/-- Changes the table that a path leads to. Tables that are missing on the way are made, and `kind`
is theirs; in an array of tables, the way leads through the last one. A path of dotted keys may pass
only through tables that such paths or longer headers have made. -/
def Entries.changeAt (kind : TableKind) (change : TableKind → Entries → Option Entries) :
    List Key → TableKind → Entries → Option Entries
  | [], ownKind, entries => change ownKind entries
  | key :: path, _, entries =>
      match entries.item? key.text with
      | none => do
          let made ← changeAt kind change path kind []
          some (entries.set key.text (key.span, .table kind made))
      | some (span, .table ownKind inner) =>
          if ownKind = .inline ∨ (kind = .dotted ∧ ownKind = .explicit) then none
          else do
            let changed ← changeAt kind change path ownKind inner
            some (entries.set key.text (span, .table ownKind changed))
      | some (span, .array true items) =>
          match items.getLast? with
          | some (lastSpan, .table ownKind inner) => do
              let changed ← changeAt kind change path ownKind inner
              let items := replaceLast items (lastSpan, .table ownKind changed)
              some (entries.set key.text (span, .array true items))
          | _ => none
      | some _ => none

/-- Adds an assignment to a table. The table that holds the last part of a dotted name must have
been made by dotted names. -/
def Entries.assign (own : TableKind) (entries : Entries) (assignment : Assignment) :
    Option Entries :=
  let add (kind : TableKind) (entries : Entries) : Option Entries :=
    if (kind == .dotted) == assignment.path.isEmpty then none
    else if (entries.item? assignment.key.text).isSome then none
    else some (entries.set assignment.key.text assignment.item)
  entries.changeAt .dotted add assignment.path own

def Entries.assignAll (own : TableKind) (entries : Entries) (assignments : List Assignment) :
    Option Entries :=
  assignments.foldlM (Entries.assign own) entries

def Header.opened? (header : Header) (entries : Entries) : Option Entries :=
  match entries.item? header.key.text with
  | none => some []
  | some (_, .table .implicit inner) => if header.ofArray then none else some inner
  | some (_, .array true _) => if header.ofArray then some [] else none
  | some _ => none

def Header.close (header : Header) (entries finished : Entries) : Entries :=
  let item : Item := (header.span, .table .explicit finished)
  if header.ofArray then
    match entries.item? header.key.text with
    | some (span, .array true items) =>
        entries.set header.key.text (span, .array true (items ++ [item]))
    | _ => entries.set header.key.text (header.span, .array true [item])
  else entries.set header.key.text item

def Entries.addBlock (entries : Entries) (block : Block) : Option Entries :=
  let add (_ : TableKind) (around : Entries) : Option Entries := do
    let opened ← block.header.opened? around
    let finished ← opened.assignAll .explicit block.assignments
    some (block.header.close around finished)
  entries.changeAt .implicit add block.header.path .explicit

def Entries.ofBlocks? (assignments : List Assignment) (blocks : List Block) : Option Entries := do
  let entries ← Entries.assignAll .explicit [] assignments
  blocks.foldlM Entries.addBlock entries

end TopicSieve.Toml
