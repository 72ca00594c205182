import TopicSieve.Text.Blank
import TopicSieve.Text.Letter

/-!
Events for those who follow a run, and which of them are written: either all up to a level, or what
a list of directives asks for.
-/

namespace TopicSieve

inductive LogLevel where
  | error
  | warn
  | info
  | debug
  | trace
deriving Repr, DecidableEq

namespace LogLevel

def rank : LogLevel → Nat
  | error => 1
  | warn => 2
  | info => 3
  | debug => 4
  | trace => 5

def name : LogLevel → Text
  | error => "error"
  | warn => "warn"
  | info => "info"
  | debug => "debug"
  | trace => "trace"

def all : List LogLevel := [error, warn, info, debug, trace]

def ofVerbosity (verbosity : Nat) (quiet : Bool) : LogLevel :=
  if quiet then error
  else
    match verbosity with
    | 0 => warn
    | 1 => info
    | 2 => debug
    | _ => trace

def label (level : LogLevel) : Text :=
  let name := level.name.map Char.toUpper
  List.replicate (5 - name.length) ' ' ++ name

end LogLevel

structure LogEvent where
  level : LogLevel
  target : Text
  message : Text
  fields : List (Text × Text)
deriving Repr, DecidableEq

def LogEvent.messageChar (char : Char) : Text :=
  let code := char.toNat
  if code = 0x07 ∨ code = 0x08 ∨ code = 0x0C ∨ code = 0x1B ∨ code = 0x7F then
    let digits := Text.ofNatHex code
    "\\x" ++ List.replicate (2 - digits.length) '0' ++ digits
  else if 0x80 ≤ code ∧ code ≤ 0x9F then "\\u\x7b" ++ Text.ofNatHex code ++ "\x7d"
  else [char]

def LogEvent.fieldText (field : Text × Text) : Text := " " ++ field.1 ++ "=" ++ field.2

def LogEvent.line (event : LogEvent) : Text :=
  event.level.label ++ " " ++ event.message.flatMap LogEvent.messageChar ++
    event.fields.flatMap LogEvent.fieldText

structure LogDirective where
  target : Text
  level : Option LogLevel
deriving Repr, DecidableEq

structure LogFilter where
  directives : List LogDirective
deriving Repr, DecidableEq

namespace LogFilter

def upTo (level : LogLevel) : LogFilter := ⟨[⟨[], some level⟩]⟩

def levelNumber? (text : Text) : Option Nat :=
  let digits := if text.head? = some '+' then text.tail else text
  if digits.isEmpty || digits.any fun char => !Text.isDigit char then none
  else some (Text.decimalValue digits)

/-- The level of a name or a number. The outer option is missing for other texts, the inner one for
no events at all. -/
def level? (text : Text) : Option (Option LogLevel) :=
  let byNumber := (levelNumber? text).bind fun number =>
    if number = 0 then some none
    else (LogLevel.all.find? fun level => level.rank == number).map some
  let byName :=
    if text.isEmpty then some (some LogLevel.error)
    else if Text.sameAscii text "off" then some none
    else (LogLevel.all.find? fun level => Text.sameAscii text level.name).map some
  byNumber.or byName

def isDirectiveStart (char : Char) : Bool :=
  char == '-' || char == ':' || char == '[' || Text.isWordChar char

/-- Reads a directive: a level, a target, or a target with a level. Directives about spans, which
are never open, give no directive. -/
def directive? (text : Text) : Option (Option LogDirective) :=
  if !((Text.trimStart text).head?.any isDirectiveStart) then none
  else
    let target := text.takeWhile fun char => char != '=' && char != '['
    match text.drop target.length with
    | [] =>
        match level? text with
        | some level => some (some ⟨[], level⟩)
        | none => some (some ⟨text, some .trace⟩)
    | '=' :: level => (level? level).map fun level => some ⟨target, level⟩
    | _ => some none

def read? (text : Text) : Option LogFilter := do
  let parts := (Text.splitOn ',' text).filter fun part => !part.isEmpty
  let directives ← parts.mapM directive?
  some (if parts.isEmpty then upTo .error else ⟨directives.filterMap id⟩)

/-- The directive that decides about a target: of those whose target starts the event's, one with
the longest, and of those the last. -/
def deciding? (filter : LogFilter) (target : Text) : Option LogDirective :=
  (filter.directives.filter fun directive => directive.target.isPrefixOf target).foldl
    (fun best directive =>
      match best with
      | none => some directive
      | some other =>
          if other.target.length ≤ directive.target.length then some directive else some other)
    none

def allows (filter : LogFilter) (level : LogLevel) (target : Text) : Bool :=
  ((filter.deciding? target).bind LogDirective.level).any fun most => level.rank ≤ most.rank

end LogFilter

end TopicSieve
