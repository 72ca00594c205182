import TopicSieve.Config.Writer
import TopicSieve.Console.Arguments
import TopicSieve.Console.Log
import TopicSieve.Console.Terminal
import TopicSieve.Consumer
import TopicSieve.Query.Printer
import TopicSieve.Query.Warning
import TopicSieve.Scan
import TopicSieve.Table

/-!
A run of the program from its command line to its exit code. What a run writes depends on its
terminal only through what it reads there.
-/

namespace TopicSieve

/-- What surrounds a run: the variables of the environment, whether output goes to a screen, and what is
written for a command line that asks for help or has a fault. -/
structure Surroundings where
  environment : List (Text × Text)
  onScreen : Bool
  usageText : List Text → UsageError → Text := fun _ _ => []

namespace Surroundings

def bare : Surroundings := { environment := [], onScreen := false }

def queryVariable : Text := "TOPIC_FILTER_QUERY"

def logVariable : Text := "RUST_LOG"

def forceColorVariable : Text := "CLICOLOR_FORCE"

def noColorVariable : Text := "NO_COLOR"

def colorVariable : Text := "CLICOLOR"

def names : List Text :=
  [queryVariable, logVariable, forceColorVariable, noColorVariable, colorVariable]

def get? (surroundings : Surroundings) (name : Text) : Option Text :=
  (surroundings.environment.find? fun entry => entry.1 == name).map Prod.snd

def isOn? (surroundings : Surroundings) (name : Text) : Option Bool :=
  (surroundings.get? name).map fun value => value != ['0']

def autoColor (surroundings : Surroundings) : Bool :=
  if surroundings.isOn? forceColorVariable = some true then true
  else if (surroundings.isOn? noColorVariable).isSome then false
  else (surroundings.isOn? colorVariable).getD true && surroundings.onScreen

def logFilter (surroundings : Surroundings) (verbose : Nat) (quiet : Bool) : LogFilter :=
  ((surroundings.get? logVariable).bind LogFilter.read?).getD (.upTo (.ofVerbosity verbose quiet))

end Surroundings

structure Failure where
  message : Text
  causes : List Text
deriving Repr, DecidableEq

namespace Failure

def hanging (label indent text : Text) : Text :=
  label ++ Text.join ("\n" ++ indent) (Text.splitOn '\n' text)

def numbered : Nat → List Text → List Text
  | _, [] => []
  | index, cause :: rest =>
      let digits := Text.ofNat index
      let label := List.replicate (5 - digits.length) ' ' ++ digits ++ ": "
      hanging label (List.replicate 7 ' ') cause :: numbered (index + 1) rest

def causeLines (causes : List Text) : List Text :=
  match causes with
  | [cause] => [hanging "    " "    " cause]
  | _ => numbered 0 causes

def report (failure : Failure) : Text :=
  match causeLines failure.causes with
  | [] => failure.message
  | causes => failure.message ++ "\n\nCaused by:\n" ++ Text.join "\n" causes

def ofMessageError (error : MessageError) : Failure :=
  match error with
  | .consume _ => ⟨error.message, []⟩
  | _ => ⟨error.message, [error.cause]⟩

def ofConfigError (error : ConfigError) : Failure :=
  ⟨"Failed to load config", [error.message, error.cause]⟩

def ofConsumerError (topic : Text) (error : ConsumerError) : Failure :=
  ⟨"Failed to start consumer for topic '" ++ topic ++ "'", error.message :: error.causes⟩

end Failure

structure RunOptions where
  logFilter : LogFilter
  color : Bool
  onScreen : Bool
deriving Repr, DecidableEq

def mainTarget : Text := "topic_filter"

def scanTarget : Text := "topic_filter::scan"

def consumerTarget : Text := "topic_filter::kafka"

namespace Run

def styled (options : RunOptions) (style text : Text) : Text :=
  if options.color then "\x1b[" ++ style ++ "m" ++ text ++ "\x1b[0m" else text

def bold : Text := "1"

def boldYellow : Text := "1;33"

def clearScreen : Text := "\x1b[2J\x1b[1;1H"

def hitText (hit : Text × Option Pattern) : Text :=
  let found : Text := match hit.2 with
    | some pattern => "Some(" ++ pattern.name ++ ")"
    | none => "None"
  "(" ++ Text.quoted hit.1 ++ ", " ++ found ++ ")"

def eventOf (filter : Filter) : ScanEvent → LogEvent
  | .skipped error => ⟨.warn, scanTarget, "Skipping message: " ++ error.message, []⟩
  | .unmatched message =>
      ⟨.trace, scanTarget, "message does not match filter",
        [("topic", message.topic), ("offset", Text.ofInt message.offset)]⟩
  | .matched message =>
      let hits := "[" ++ Text.join ", " ((filter.explain message.body).map hitText) ++ "]"
      ⟨.debug, scanTarget, "message matched",
        [("offset", Text.ofInt message.offset), ("hits", hits)]⟩

def finishedEvent (counts : ScanCounts) : LogEvent :=
  ⟨.info, mainTarget, "scan finished",
    [("read", Text.ofNat counts.read), ("matched", Text.ofNat counts.matched),
      ("skipped", Text.ofNat counts.skipped)]⟩

variable {m : Type → Type} [Monad m] [Terminal m]

def log (options : RunOptions) (event : LogEvent) : m Unit :=
  if options.logFilter.allows event.level event.target then Terminal.log event.line else pure ()

def waitForEnter : m (Except Failure Unit) := do
  Terminal.print "\nPress ENTER to show the next message (or Ctrl-C to exit)..."
  match ← Terminal.readLine with
  | .ok () => pure (.ok ())
  | .error fault => pure (.error ⟨"Failed to read from stdin", [fault.message]⟩)

def showMatch (options : RunOptions) (view : View) (message : Message) :
    m (Except Failure Unit) := do
  if view.count then pure (.ok ())
  else
    if view.step && options.onScreen then Terminal.print clearScreen
    Terminal.print (styled options boldYellow "Kafka Message" ++ "\n")
    Terminal.print (message.table.render ++ "\n")
    if view.step then waitForEnter else pure (.ok ())

/-- Scans items and shows the matches. `close` is done when the source is no longer needed. -/
def viewItems (options : RunOptions) (filter : Filter) (view : View) (close : m Unit)
    (items : List Item) : m (Except Failure Unit) := do
  let scan : Scan m Failure :=
    { filter
      limit := view.limit
      receive := showMatch options view
      observe := fun event => log options (eventOf filter event) }
  let result ← scan.run items
  close
  match result.outcome with
  | .error (.source error) => pure (.error (.ofMessageError error))
  | .error (.receiver failure) => pure (.error failure)
  | .ok counts =>
      if view.count then Terminal.print (Text.ofNat counts.matched ++ "\n")
      log options (finishedEvent counts)
      pure (.ok ())

/-- Whether a path stands for the input of the run. Slashes and dots behind the hyphen do not
matter. -/
def isStandardInput (path : Text) : Bool :=
  match Files.pathParts path with
  | first :: rest => first == "-" && rest.all fun part => part.isEmpty || part == "."
  | [] => false

def printTokens (options : RunOptions) (filter : Filter) : m Unit := do
  Terminal.print (styled options bold "Tokenized Query:" ++ "\n")
  Terminal.print (Token.listing filter.tokens)

def printPairs (filter : Filter) (format : OutputFormat) : m Unit :=
  match format with
  | .json => Terminal.print (filter.required.toJson.pretty ++ "\n")
  | .text =>
      if filter.isEmpty then Terminal.print "No filter: every message matches\n"
      else Terminal.print (filter.required.table.render ++ "\n")

def scanInput (options : RunOptions) (config : Config) (filter : Filter) (path : Text)
    (format : InputFormat) (view : View) : m (Except Failure Unit) := do
  let reader : MessageReader := ⟨format, config.topicOrDash⟩
  if isStandardInput path then
    if view.step then
      pure (.error ⟨"--step needs an input file: stdin is used for the ENTER prompt", []⟩)
    else viewItems options filter view (pure ()) (reader.items (← Terminal.readInput))
  else
    match ← Terminal.openPath path with
    | .error fault => pure (.error (.ofMessageError (.open path fault)))
    | .ok file => viewItems options filter view (pure ()) (reader.itemsOf file)

/-- Reads a topic from a broker. As long as no broker answers, there are no records. -/
def consume (options : RunOptions) (config : Config) (filter : Filter) (topic : Option Text)
    (view : View) : m (Except Failure Unit) := do
  let given := (topic.or config.consumer.topic).filter fun topic => !(Text.trim topic).isEmpty
  match given with
  | none =>
      pure (.error ⟨"No topic to consume: pass --topic or set [consumer] topic", []⟩)
  | some topic =>
      log options ⟨.debug, mainTarget, "consumer settings",
        [("bootstrap_servers", Config.debugText config.consumer.bootstrapServers),
          ("group_id", Config.debugText config.consumer.groupId)]⟩
      match config.consumer.connect topic with
      | .error error => pure (.error (.ofConsumerError topic error))
      | .ok _ =>
          log options ⟨.info, consumerTarget, "Starting consumer loop. Press Ctrl-C to exit.",
            [("topic", Text.quoted topic)]⟩
          let close : m Unit := log options ⟨.info, consumerTarget, "Closing consumer.", []⟩
          viewItems options filter view close []

def loadConfig (path : Option Text) : m (Except ConfigError Config) :=
  match path with
  | none => pure (.ok .empty)
  | some path => do
      match ← Terminal.openPath path with
      | .error fault => pure (.error (.read path fault))
      | .ok (.unreadable fault) => pure (.error (.read path fault))
      | .ok (.content bytes) => pure (Config.ofBytes path bytes)

def printWarnings (options : RunOptions) (query : Text) : m Unit :=
  (QueryWarning.ofQuery query).forM fun warning =>
    Terminal.printError (styled options boldYellow "Warning:" ++ " " ++ warning.message ++ "\n")

def command (options : RunOptions) (config : Config) (filter : Filter) (command : Command) :
    m (Except Failure Unit) := do
  match command with
  | .tokens =>
      printTokens options filter
      pure (.ok ())
  | .parse format =>
      printPairs filter format
      pure (.ok ())
  | .scan path format view => scanInput options config filter path format view
  | .consume topic view => consume options config filter topic view
  | .config =>
      Terminal.print config.printed
      pure (.ok ())

def invocation (surroundings : Surroundings) (invocation : Invocation) :
    m (Except Failure Unit) := do
  let options : RunOptions :=
    { logFilter := surroundings.logFilter invocation.verbose invocation.quiet
      color := match invocation.color with
        | .always => true
        | .never => false
        | .auto => surroundings.autoColor
      onScreen := surroundings.onScreen }
  match ← loadConfig invocation.config with
  | .error error => pure (.error (.ofConfigError error))
  | .ok config =>
      if let some path := invocation.config then
        log options ⟨.debug, mainTarget, "Config file: " ++ path, []⟩
      let query := invocation.effectiveQuery config.query
      let filter := Filter.parse query
      log options ⟨.debug, mainTarget, "parsed filter query",
        [("query", Text.quoted query), ("pairs", Text.ofNat filter.required.size)]⟩
      if !invocation.quiet then printWarnings options query
      command options config filter invocation.command

def versionText : Text := "topic-filter 0.1.0\n"

def usageExitCode : Nat := 2

def usage (surroundings : Surroundings) (arguments : List Text) (error : UsageError) : m Nat := do
  match error with
  | .helpRequested =>
      Terminal.print (surroundings.usageText arguments error)
      pure 0
  | .versionRequested =>
      Terminal.print versionText
      pure 0
  | _ =>
      Terminal.printError (surroundings.usageText arguments error)
      pure usageExitCode

def arguments (surroundings : Surroundings) (arguments : List Text) : m Nat := do
  match Invocation.read (surroundings.get? Surroundings.queryVariable) arguments with
  | .error error => usage surroundings arguments error
  | .ok request =>
      match ← invocation surroundings request with
      | .ok () => pure 0
      | .error failure =>
          Terminal.printError ("Error: " ++ failure.report ++ "\n")
          pure 1

end Run

end TopicSieve
