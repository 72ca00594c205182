import TopicSieve.Message.Reader

/-!
The command line. Options may stand before or after the command where they concern every command;
the one after the command counts. Of several faults, the first to be looked at is reported: an
option's value is looked at only when the next option or word has been found to exist.
-/

namespace TopicSieve

inductive ColorMode where
  | auto
  | always
  | never
deriving Repr, DecidableEq

inductive OutputFormat where
  | text
  | json
deriving Repr, DecidableEq

structure View where
  step : Bool
  limit : Option Nat
  count : Bool
deriving Repr, DecidableEq

inductive Command where
  | tokens
  | parse (format : OutputFormat)
  | scan (input : Text) (format : InputFormat) (view : View)
  | consume (topic : Option Text) (view : View)
  | config
deriving Repr, DecidableEq

structure Invocation where
  config : Option Text
  query : Option Text
  color : ColorMode
  verbose : Nat
  quiet : Bool
  command : Command
deriving Repr, DecidableEq

inductive UsageError where
  | unknownArgument
  | invalidValue
  | malformedValue
  | repeatedArgument
  | unknownCommand
  | missingCommand
  | unexpectedValue
  | helpRequested
  | versionRequested
  | nothingGiven
deriving Repr, DecidableEq

inductive Parameter where
  | config
  | query
  | color
  | verbose
  | quiet
  | help
  | version
  | outputFormat
  | inputFormat
  | step
  | limit
  | count
  | topic
  | input
deriving Repr, DecidableEq

namespace Parameter

def long? : Parameter → Option Text
  | config => some "config"
  | query => some "query"
  | color => some "color"
  | verbose => some "verbose"
  | quiet => some "quiet"
  | help => some "help"
  | version => some "version"
  | outputFormat => some "format"
  | inputFormat => some "format"
  | step => some "step"
  | limit => some "limit"
  | count => some "count"
  | topic => some "topic"
  | input => none

def short? : Parameter → Option Char
  | query => some 'q'
  | verbose => some 'v'
  | help => some 'h'
  | version => some 'V'
  | outputFormat => some 'F'
  | inputFormat => some 'F'
  | limit => some 'n'
  | count => some 'c'
  | topic => some 't'
  | _ => none

def takesValue : Parameter → Bool
  | config | query | color | outputFormat | inputFormat | limit | topic | input => true
  | verbose | quiet | help | version | step | count => false

def global : List Parameter := [config, query, color, verbose, quiet, help]

end Parameter

inductive CommandName where
  | tokens
  | parse
  | scan
  | consume
  | config
deriving Repr, DecidableEq

namespace CommandName

def all : List CommandName := [tokens, parse, scan, consume, config]

def text : CommandName → Text
  | tokens => "tokens"
  | parse => "parse"
  | scan => "scan"
  | consume => "consume"
  | config => "config"

def ofText? (text : Text) : Option CommandName := all.find? fun name => name.text == text

def helpWord : Text := "help"

def parameters : CommandName → List Parameter
  | tokens => Parameter.global
  | parse => .outputFormat :: Parameter.global
  | scan => [.inputFormat, .step, .limit, .count, .input] ++ Parameter.global
  | consume => [.topic, .step, .limit, .count] ++ Parameter.global
  | config => Parameter.global

end CommandName

/-- The part of a command line before the command, or the part behind it. -/
structure ArgumentLevel where
  parameters : List Parameter
  hasCommands : Bool
deriving Repr, DecidableEq

namespace ArgumentLevel

def beforeCommand : ArgumentLevel := ⟨.version :: Parameter.global, true⟩

def behind (name : CommandName) : ArgumentLevel := ⟨name.parameters, false⟩

def long? (level : ArgumentLevel) (name : Text) : Option Parameter :=
  level.parameters.find? fun parameter => parameter.long? == some name

def short? (level : ArgumentLevel) (letter : Char) : Option Parameter :=
  level.parameters.find? fun parameter => parameter.short? == some letter

def isCommand (level : ArgumentLevel) (word : Text) : Bool :=
  level.hasCommands && ((CommandName.ofText? word).isSome || word == CommandName.helpWord)

end ArgumentLevel

structure Settings where
  config : Option Text
  query : Option Text
  color : Option ColorMode
  verbose : Nat
  quiet : Bool
  outputFormat : Option OutputFormat
  inputFormat : Option InputFormat
  step : Bool
  limit : Option Nat
  count : Bool
  topic : Option Text
  input : Option Text
deriving Repr, DecidableEq

namespace Settings

def empty : Settings :=
  ⟨none, none, none, 0, false, none, none, false, none, false, none, none⟩

/-- A value that may be given only once. Giving it again is found before the new value is looked
at. -/
def once {α : Type} (before : Option α) (value : Except UsageError α) :
    Except UsageError (Option α) :=
  if before.isSome then .error .repeatedArgument else value.map some

def onceFlag (before : Bool) : Except UsageError Bool :=
  if before then .error .repeatedArgument else .ok true

def path (text : Text) : Except UsageError Text :=
  if text.isEmpty then .error .invalidValue else .ok text

def oneOf {α : Type} (values : List (Text × α)) (text : Text) : Except UsageError α :=
  match values.find? fun value => value.1 == text with
  | some value => .ok value.2
  | none => .error .invalidValue

def colorValues : List (Text × ColorMode) :=
  [("auto", .auto), ("always", .always), ("never", .never)]

def outputValues : List (Text × OutputFormat) := [("text", .text), ("json", .json)]

def inputValues : List (Text × InputFormat) := [("lines", .lines), ("jsonl", .jsonl)]

def number (text : Text) : Except UsageError Nat :=
  let digits := if text.head? = some '+' then text.tail else text
  let value := Text.decimalValue digits
  if digits.isEmpty || (digits.any fun char => !Text.isDigit char) || twoTo 64 ≤ value then
    .error .malformedValue
  else .ok value

def mostVerbose : Nat := 255

def give (settings : Settings) (parameter : Parameter) (value : Text) :
    Except UsageError Settings := do
  match parameter with
  | .config => .ok { settings with config := ← once settings.config (path value) }
  | .query => .ok { settings with query := ← once settings.query (.ok value) }
  | .color => .ok { settings with color := ← once settings.color (oneOf colorValues value) }
  | .verbose => .ok { settings with verbose := min mostVerbose (settings.verbose + 1) }
  | .quiet => .ok { settings with quiet := ← onceFlag settings.quiet }
  | .help => .error .helpRequested
  | .version => .error .versionRequested
  | .outputFormat =>
      let outputFormat ← once settings.outputFormat (oneOf outputValues value)
      .ok { settings with outputFormat }
  | .inputFormat =>
      let inputFormat ← once settings.inputFormat (oneOf inputValues value)
      .ok { settings with inputFormat }
  | .step => .ok { settings with step := ← onceFlag settings.step }
  | .limit => .ok { settings with limit := ← once settings.limit (number value) }
  | .count => .ok { settings with count := ← onceFlag settings.count }
  | .topic => .ok { settings with topic := ← once settings.topic (.ok value) }
  | .input => .ok { settings with input := ← once settings.input (path value) }

end Settings

structure Pending where
  parameter : Parameter
  value : Option Text
deriving Repr, DecidableEq

/-- How far a part of a command line has been read. Behind a double hyphen, nothing is an option. -/
structure Progress where
  settings : Settings
  pending : Option Pending
  afterDashes : Bool
deriving Repr, DecidableEq

namespace Progress

def start : Progress := ⟨.empty, none, false⟩

def isWaiting (progress : Progress) : Bool :=
  progress.pending.any fun pending => pending.value.isNone

def settle (progress : Progress) : Except UsageError Progress :=
  match progress.pending with
  | none => .ok progress
  | some ⟨_, none⟩ => .error .invalidValue
  | some ⟨parameter, some value⟩ =>
      (progress.settings.give parameter value).map fun settings =>
        { progress with settings, pending := none }

def give (progress : Progress) (parameter : Parameter) (value : Text) :
    Except UsageError Progress := do
  let settled ← progress.settle
  let settings ← settled.settings.give parameter value
  .ok { settled with settings }

def await (progress : Progress) (parameter : Parameter) (value : Option Text) :
    Except UsageError Progress := do
  let settled ← progress.settle
  .ok { settled with pending := some ⟨parameter, value⟩ }

def takeLong (level : ArgumentLevel) (progress : Progress) (name : Text) (value : Option Text) :
    Except UsageError Progress :=
  match level.long? name with
  | none => .error .unknownArgument
  | some parameter =>
      match parameter.takesValue, value with
      | true, some value => progress.give parameter value
      | true, none => progress.await parameter none
      | false, some _ => .error .unexpectedValue
      | false, none => progress.give parameter []

/-- Takes options by their letters. An option with a value takes the rest as its value, less an
equals sign at its start. -/
def takeShort (level : ArgumentLevel) (progress : Progress) : Text → Except UsageError Progress
  | [] => .ok progress
  | letter :: rest =>
      match level.short? letter with
      | none => .error .unknownArgument
      | some parameter =>
          if !parameter.takesValue then do
            let progress ← progress.give parameter []
            takeShort level progress rest
          else
            match rest with
            | [] => progress.await parameter none
            | '=' :: value => progress.give parameter value
            | value => progress.give parameter value

def takeWord (level : ArgumentLevel) (progress : Progress) (word : Text) :
    Except UsageError Progress :=
  let isTaken := progress.settings.input.isSome ||
    progress.pending.any fun pending => pending.parameter == .input
  if level.parameters.contains .input && !isTaken then progress.await .input (some word)
  else if level.hasCommands then
    .error (if progress.afterDashes && level.isCommand word then .unknownArgument
      else .unknownCommand)
  else .error .unknownArgument

def take (level : ArgumentLevel) (progress : Progress) (argument : Text) :
    Except UsageError Progress :=
  if progress.afterDashes then progress.takeWord level argument
  else
    match argument with
    | ['-', '-'] => .ok { progress with afterDashes := true }
    | '-' :: '-' :: option =>
        match Text.splitFirst '=' option with
        | some (name, value) => progress.takeLong level name (some value)
        | none => progress.takeLong level option none
    | '-' :: letter :: letters => progress.takeShort level (letter :: letters)
    | _ =>
        match progress.pending with
        | some ⟨parameter, none⟩ =>
            .ok { progress with pending := some ⟨parameter, some argument⟩ }
        | _ => progress.takeWord level argument

def readLevel (level : ArgumentLevel) (progress : Progress) :
    List Text → Except UsageError (Progress × Option (Text × List Text))
  | [] => .ok (progress, none)
  | argument :: rest =>
      if !progress.afterDashes && !progress.isWaiting && level.isCommand argument then
        .ok (progress, some (argument, rest))
      else do
        let progress ← progress.take level argument
        readLevel level progress rest

end Progress

namespace Invocation

def viewOf (settings : Settings) : View := ⟨settings.step, settings.limit, settings.count⟩

def commandOf (settings : Settings) : CommandName → Command
  | .tokens => .tokens
  | .parse => .parse (settings.outputFormat.getD .text)
  | .scan =>
      .scan (settings.input.getD "-") (settings.inputFormat.getD .lines) (viewOf settings)
  | .consume => .consume settings.topic (viewOf settings)
  | .config => .config

def join (query : Option Text) (before behind : Settings) (name : CommandName) : Invocation where
  config := behind.config.or before.config
  query := (behind.query.or before.query).or query
  color := (behind.color.or before.color).getD .auto
  verbose := if behind.verbose = 0 then before.verbose else behind.verbose
  quiet := behind.quiet || before.quiet
  command := commandOf behind name

def helpOn : List Text → UsageError
  | [] => .helpRequested
  | [word] => if ArgumentLevel.beforeCommand.isCommand word then .helpRequested else .unknownCommand
  | _ => .unknownCommand

/-- Reads a command line, without the name of the program. `query` is the query of the
environment. -/
def read (query : Option Text) (arguments : List Text) : Except UsageError Invocation := do
  let (before, found) ← Progress.start.readLevel .beforeCommand arguments
  match found with
  | none =>
      let before ← before.settle
      .error (if before.settings = .empty ∧ query = none then .nothingGiven else .missingCommand)
  | some (word, rest) =>
      match CommandName.ofText? word with
      | none => .error (helpOn rest)
      | some name =>
          let (behind, _) ← Progress.start.readLevel (.behind name) rest
          let behind ← behind.settle
          let before ← before.settle
          .ok (join query before.settings behind.settings name)

def effectiveQuery (invocation : Invocation) (configured : Text) : Text :=
  invocation.query.getD configured

end Invocation

end TopicSieve
