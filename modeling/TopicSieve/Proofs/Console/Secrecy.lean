import TopicSieve.Proofs.Config.Secrets
import TopicSieve.Proofs.Console.Counting
import TopicSieve.Proofs.Console.Replacement

/-!
What a run shows of the passwords in its configuration. Two runs are followed side by side, with two
configuration files at one place whose configurations differ in their passwords only. Main statement:
they end alike and write the same, unless they read the configuration file as messages too, or reach a
broker with the configuration.
-/

namespace TopicSieve

namespace Session

def withFiles (session : Session) (files : Files) : Session := { session with files }

/-- An action that gives the same and writes the same with either of two trees of files. -/
def Indifferent (left right : Files) {α : Type} (action : StateM Session α) : Prop :=
  ∀ session : Session, ∃ (value : α) (after : Session),
    action.run (session.withFiles left) = (value, after.withFiles left) ∧
    action.run (session.withFiles right) = (value, after.withFiles right)

section

variable {left right : Files} {α β : Type}

theorem indifferent_pure (value : α) : Indifferent left right (pure value) :=
  fun session => ⟨value, session, rfl, rfl⟩

theorem Indifferent.bind {action : StateM Session α} {next : α → StateM Session β}
    (first : Indifferent left right action)
    (later : ∀ value, Indifferent left right (next value)) :
    Indifferent left right (action >>= next) := by
  intro session
  obtain ⟨value, between, leftFirst, rightFirst⟩ := first session
  obtain ⟨result, after, leftLater, rightLater⟩ := later value between
  refine ⟨result, after, ?_, ?_⟩
  · rw [StateT.run_bind, leftFirst]
    exact leftLater
  · rw [StateT.run_bind, rightFirst]
    exact rightLater

theorem Indifferent.ite {condition : Prop} [Decidable condition] {action other : StateM Session α}
    (first : Indifferent left right action) (second : Indifferent left right other) :
    Indifferent left right (if condition then action else other) := by
  split
  · exact first
  · exact second

theorem indifferent_print (text : Text) :
    Indifferent left right (Terminal.print text : StateM Session Unit) :=
  fun session => ⟨(), { session with output := session.output ++ text }, rfl, rfl⟩

theorem indifferent_printError (text : Text) :
    Indifferent left right (Terminal.printError text : StateM Session Unit) :=
  fun session => ⟨(), { session with errors := session.errors ++ text }, rfl, rfl⟩

theorem indifferent_readInput :
    Indifferent left right (Terminal.readInput : StateM Session Bytes) :=
  fun session => ⟨session.input, { session with input := [] }, rfl, rfl⟩

theorem indifferent_readLine :
    Indifferent left right (Terminal.readLine : StateM Session (Except InputFault Unit)) := by
  intro session
  refine ⟨session.takeLine.1, session.takeLine.2, ?_, ?_⟩
  all_goals
    change takeLine (session.withFiles _) = _
    unfold takeLine withFiles
    dsimp only
    cases session.input.lines <;> rfl

theorem indifferent_openPath {path : Text} (same : left.openPath path = right.openPath path) :
    Indifferent left right (Terminal.openPath path : StateM Session _) :=
  fun session => ⟨left.openPath path, session, rfl, congrArg (·, session.withFiles right) same.symm⟩

theorem indifferent_forM {action : α → StateM Session Unit}
    (each : ∀ value, Indifferent left right (action value)) (values : List α) :
    Indifferent left right (values.forM action) := by
  induction values with
  | nil => exact indifferent_pure ()
  | cons value rest ih => exact (each value).bind fun _ => ih

theorem indifferent_scan {ε : Type} {scan : Scan (StateM Session) ε}
    (receive : ∀ message, Indifferent left right (scan.receive message))
    (observe : ∀ event, Indifferent left right (scan.observe event)) (items : List Item) :
    Indifferent left right (scan.run items) := by
  have fromThere (counts : ScanCounts) : Indifferent left right (scan.runFrom counts items) := by
    induction items generalizing counts with
    | nil => exact indifferent_pure _
    | cons item rest ih =>
        cases item with
        | error error =>
            rw [Scan.runFrom]
            split
            · exact (observe _).bind fun _ => ih _
            · exact indifferent_pure _
        | ok message =>
            by_cases accepts : scan.filter.accepts message.body = true
            · rw [Scan.runFrom_of_accepts accepts]
              refine (observe _).bind fun _ => (receive message).bind fun reply => ?_
              cases reply with
              | error fault => exact indifferent_pure _
              | ok done =>
                  rw [Scan.afterReply]
                  split
                  · exact indifferent_pure _
                  · exact ih _
            · rw [Scan.runFrom, if_neg accepts]
              exact (observe _).bind fun _ => ih _
  rw [Scan.run]
  split
  · exact indifferent_pure _
  · exact fromThere .zero

end

end Session

namespace Run

open Session

section

variable {left right : Files} (options : RunOptions)

theorem indifferent_log (event : LogEvent) :
    Indifferent left right (log options event : StateM Session Unit) := by
  rw [log]
  split
  · exact fun session =>
      ⟨(), { session with errors := session.errors ++ event.line ++ "\n" }, rfl, rfl⟩
  · exact indifferent_pure ()

theorem indifferent_waitForEnter :
    Indifferent left right (waitForEnter : StateM Session (Except Failure Unit)) := by
  refine (indifferent_print _).bind fun _ => indifferent_readLine.bind fun reply => ?_
  cases reply <;> exact indifferent_pure _

theorem indifferent_showMatch (view : View) (message : Message) :
    Indifferent left right
      (showMatch options view message : StateM Session (Except Failure Unit)) := by
  have waits : Indifferent left right
      (if view.step then waitForEnter else pure (.ok ()) : StateM Session (Except Failure Unit)) :=
    indifferent_waitForEnter.ite (indifferent_pure _)
  have shown (_ : Unit) :=
    (@indifferent_print left right (styled options boldYellow "Kafka Message" ++ "\n")).bind fun _ =>
      (indifferent_print (message.table.render ++ "\n")).bind fun _ => waits
  exact (indifferent_pure _).ite (((indifferent_print _).bind shown).ite (shown ()))

theorem indifferent_viewItems (filter : Filter) (view : View) {close : StateM Session Unit}
    (closed : Indifferent left right close) (items : List Item) :
    Indifferent left right (viewItems options filter view close items) := by
  unfold viewItems
  refine (indifferent_scan (fun _ => indifferent_showMatch options view _)
    (fun _ => indifferent_log options _) items).bind fun result => closed.bind fun _ => ?_
  rcases result.outcome with (error | failure) | counts
  · exact indifferent_pure _
  · exact indifferent_pure _
  · have finished (_ : Unit) :=
      (@indifferent_log left right options (finishedEvent counts)).bind fun _ =>
        indifferent_pure (.ok () : Except Failure Unit)
    exact ((indifferent_print _).bind finished).ite (finished ())

theorem indifferent_scanInput (config : Config) (filter : Filter) {path : Text}
    (same : isStandardInput path = false → left.openPath path = right.openPath path)
    (format : InputFormat) (view : View) :
    Indifferent left right (scanInput options config filter path format view) := by
  unfold scanInput
  by_cases standard : isStandardInput path = true
  · rw [if_pos standard]
    split
    · exact indifferent_pure _
    · exact indifferent_readInput.bind fun _ =>
        indifferent_viewItems options filter view (indifferent_pure ()) _
  · rw [if_neg standard]
    rw [Bool.not_eq_true] at standard
    refine (indifferent_openPath (same standard)).bind fun opened => ?_
    cases opened with
    | error fault => exact indifferent_pure _
    | ok file => exact indifferent_viewItems options filter view (indifferent_pure ()) _

theorem indifferent_consume (config : Config) (filter : Filter) (topic : Option Text)
    (view : View) : Indifferent left right (consume options config filter topic view) := by
  unfold consume
  dsimp only
  split
  · exact indifferent_pure _
  · refine (indifferent_log options _).bind fun _ => ?_
    split
    · exact indifferent_pure _
    · exact (indifferent_log options _).bind fun _ =>
        indifferent_viewItems options filter view (indifferent_log options _) _

theorem indifferent_printWarnings (query : Text) :
    Indifferent left right (printWarnings options query) :=
  indifferent_forM (fun _ => indifferent_printError _) _

theorem indifferent_command (config : Config) (filter : Filter) {request : Command}
    (same : ∀ path format view, request = .scan path format view →
      isStandardInput path = false → left.openPath path = right.openPath path) :
    Indifferent left right (command options config filter request) := by
  unfold command
  cases request with
  | tokens =>
      exact ((indifferent_print _).bind fun _ => indifferent_print _).bind fun _ =>
        indifferent_pure _
  | parse format =>
      have printed : Indifferent left right (printPairs filter format) := by
        unfold printPairs
        cases format with
        | json => exact indifferent_print _
        | text => exact (indifferent_print _).ite (indifferent_print _)
      exact printed.bind fun _ => indifferent_pure _
  | scan path format view =>
      exact indifferent_scanInput options config filter (same path format view rfl) format view
  | consume topic view => exact indifferent_consume options config filter topic view
  | config => exact (indifferent_print _).bind fun _ => indifferent_pure _

end

theorem indifferent_usage {left right : Files} (surroundings : Surroundings)
    (arguments : List Text) (error : UsageError) :
    Indifferent left right (usage surroundings arguments error : StateM Session Nat) := by
  unfold usage
  split
  · exact (indifferent_print _).bind fun _ => indifferent_pure _
  · exact (indifferent_print _).bind fun _ => indifferent_pure _
  · exact (indifferent_printError _).bind fun _ => indifferent_pure _

theorem indifferent_conclude {left right : Files} (outcome : Except Failure Unit) :
    Indifferent left right (conclude outcome) := by
  cases outcome with
  | error failure => exact (indifferent_printError _).bind fun _ => indifferent_pure _
  | ok done => exact indifferent_pure _

/-! The configuration, once it is loaded. -/

def optionsOf (surroundings : Surroundings) (request : Invocation) : RunOptions where
  logFilter := surroundings.logFilter request.verbose request.quiet
  color := match request.color with
    | .always => true
    | .never => false
    | .auto => surroundings.autoColor
  onScreen := surroundings.onScreen

def withConfig (options : RunOptions) (request : Invocation) (config : Config) :
    StateM Session (Except Failure Unit) := do
  if let some path := request.config then
    log options ⟨.debug, mainTarget, "Config file: " ++ path, []⟩
  let query := request.effectiveQuery config.query
  let filter := Filter.parse query
  log options ⟨.debug, mainTarget, "parsed filter query",
    [("query", Text.quoted query), ("pairs", Text.ofNat filter.required.size)]⟩
  if !request.quiet then printWarnings options query
  command options config filter request.command

def afterLoading (surroundings : Surroundings) (request : Invocation)
    (loaded : Except ConfigError Config) : StateM Session (Except Failure Unit) :=
  match loaded with
  | .error error => pure (.error (.ofConfigError error))
  | .ok config => withConfig (optionsOf surroundings request) request config

theorem invocation_eq (surroundings : Surroundings) (request : Invocation) :
    (invocation surroundings request : StateM Session _) =
      loadConfig request.config >>= afterLoading surroundings request := rfl

/-- The commands that scan a path can open it in either tree with the same outcome. -/
def ScansAlike (left right : Files) (request : Invocation) : Prop :=
  ∀ path format view, request.command = .scan path format view → isStandardInput path = false →
    left.openPath path = right.openPath path

theorem indifferent_withConfig {left right : Files} {request : Invocation}
    (same : ScansAlike left right request) (options : RunOptions) (config : Config) :
    Indifferent left right (withConfig options request config) := by
  let query := request.effectiveQuery config.query
  have done (_ : Unit) := indifferent_command options config (Filter.parse query) same
  have warned : Indifferent left right
      (if !request.quiet then
        printWarnings options query >>= fun _ =>
          command options config (Filter.parse query) request.command
      else command options config (Filter.parse query) request.command) :=
    ((indifferent_printWarnings options query).bind done).ite (done ())
  have parsed (_ : Unit) := (indifferent_log options ⟨.debug, mainTarget, "parsed filter query",
    [("query", Text.quoted query), ("pairs", Text.ofNat (Filter.parse query).required.size)]⟩).bind
      fun _ => warned
  unfold withConfig
  cases request.config with
  | none => exact parsed ()
  | some path => exact (indifferent_log _ _).bind parsed

theorem command_of_alike {left right : Config} (alike : left.AlikeButSecrets right)
    {request : Command} (offline : ∀ topic view, request = .consume topic view →
      ConsumerOptions.nonBlank? left.consumer.bootstrapServers = none)
    (options : RunOptions) (filter : Filter) :
    (command options left filter request : StateM Session _) =
      command options right filter request := by
  unfold command
  cases request with
  | tokens => rfl
  | parse format => rfl
  | scan path format view =>
      dsimp only
      unfold scanInput
      rw [alike.topicOrDash_eq]
  | consume topic view =>
      have leftOffline := offline topic view rfl
      have rightOffline := leftOffline
      rw [alike.bootstrapServers_eq] at rightOffline
      dsimp only
      unfold consume
      simp only [ConsumerOptions.connect_of_noServers leftOffline,
        ConsumerOptions.connect_of_noServers rightOffline, alike.topic_eq,
        alike.bootstrapServers_eq, alike.groupId_eq]
  | config =>
      dsimp only
      rw [alike.printed_eq]

theorem withConfig_of_alike {left right : Config} (alike : left.AlikeButSecrets right)
    {request : Invocation} (offline : ∀ topic view, request.command = .consume topic view →
      ConsumerOptions.nonBlank? left.consumer.bootstrapServers = none) (options : RunOptions) :
    withConfig options request left = withConfig options request right := by
  unfold withConfig
  rw [alike.query]
  simp only [command_of_alike alike offline]

theorem loadConfig_of_content {session : Session} {path : Text} {content : Bytes}
    (found : session.files.openPath path = .ok (.content content)) :
    (loadConfig (some path) : StateM Session _).run session =
      (Config.ofBytes path content, session) := by
  have opened : (Terminal.openPath path : StateM Session _).run session =
      (.ok (.content content), session) := congrArg (·, session) found
  unfold loadConfig
  rw [StateT.run_bind, opened]
  rfl

theorem indifferent_loadConfig {left right : Files} {path : Option Text}
    (same : ∀ given, path = some given → left.openPath given = right.openPath given) :
    Indifferent left right (loadConfig path : StateM Session _) := by
  unfold loadConfig
  cases path with
  | none => exact indifferent_pure _
  | some given =>
      refine (indifferent_openPath (same given rfl)).bind fun opened => ?_
      rcases opened with fault | (content | fault)
      · exact indifferent_pure _
      · exact indifferent_pure _
      · exact indifferent_pure _

/-- A run that may show what the configuration file at a place holds: it reads the file as messages,
or it reaches a broker with the configuration from the file. -/
inductive Reveals (files : Files) (names : List Text) (config : Config) (request : Invocation) :
    Prop
  | scan {path format view} : request.command = .scan path format view →
      isStandardInput path = false → files.LeadsTo path names → Reveals files names config request
  | consume {path topic view} : request.config = some path → files.LeadsTo path names →
      request.command = .consume topic view →
      ConsumerOptions.nonBlank? config.consumer.bootstrapServers ≠ none →
      Reveals files names config request

section

variable {others : Files} {names : List Text} {left right : Bytes} {leftConfig rightConfig : Config}

theorem invocation_of_alike {path : Text} (leftLoads : Config.ofBytes path left = .ok leftConfig)
    (rightLoads : Config.ofBytes path right = .ok rightConfig)
    (alike : leftConfig.AlikeButSecrets rightConfig) (surroundings : Surroundings)
    {request : Invocation} (keeps : ¬ Reveals (others.put names left) names leftConfig request)
    (session : Session) :
    ∃ (value : Except Failure Unit) (after : Session),
      (invocation surroundings request : StateM Session _).run
          (session.withFiles (others.put names left)) =
        (value, after.withFiles (others.put names left)) ∧
      (invocation surroundings request : StateM Session _).run
          (session.withFiles (others.put names right)) =
        (value, after.withFiles (others.put names right)) := by
  have scansAlike : ScansAlike (others.put names left) (others.put names right) request := by
    intro scanned format view isScan isFile
    refine Files.openPath_put ?_ right
    intro leads
    exact keeps (.scan isScan isFile leads)
  have later := indifferent_withConfig scansAlike (optionsOf surroundings request)
  rw [invocation_eq]
  by_cases uses : ∃ given, request.config = some given ∧
      (others.put names left).LeadsTo given names
  · obtain ⟨given, isGiven, leads⟩ := uses
    have offline : ∀ topic view, request.command = .consume topic view →
        ConsumerOptions.nonBlank? leftConfig.consumer.bootstrapServers = none := by
      intro topic view isConsume
      apply Classical.byContradiction
      intro online
      exact keeps (.consume isGiven leads isConsume online)
    have leftFound : (session.withFiles (others.put names left)).files.openPath given =
        .ok (.content left) := leads.openPath_eq
    have rightFound : (session.withFiles (others.put names right)).files.openPath given =
        .ok (.content right) := ((Files.leadsTo_put left right).mp leads).openPath_eq
    rw [isGiven, StateT.run_bind, StateT.run_bind, loadConfig_of_content leftFound,
      loadConfig_of_content rightFound, Config.ofBytes_path leftLoads, Config.ofBytes_path rightLoads]
    obtain ⟨value, after, leftRun, rightRun⟩ := later rightConfig session
    rw [← withConfig_of_alike alike offline] at leftRun
    exact ⟨value, after, leftRun, rightRun⟩
  · have loaded : Indifferent (others.put names left) (others.put names right)
        (loadConfig request.config : StateM Session _) := by
      apply indifferent_loadConfig
      intro given isGiven
      refine Files.openPath_put ?_ right
      intro leads
      exact uses ⟨given, isGiven, leads⟩
    refine loaded.bind (fun outcome => ?_) session
    cases outcome with
    | error error => exact indifferent_pure _
    | ok config => exact later config

/-- What a run ends with and writes does not depend on the passwords in a configuration file, unless
it reads that file as messages or reaches a broker with its configuration. -/
theorem arguments_of_alike {path : Text} (leftLoads : Config.ofBytes path left = .ok leftConfig)
    (rightLoads : Config.ofBytes path right = .ok rightConfig)
    (alike : leftConfig.AlikeButSecrets rightConfig) :
    leftConfig.debug = rightConfig.debug ∧
    ∀ surroundings arguments input,
      (∀ request, Invocation.read (surroundings.get? Surroundings.queryVariable) arguments =
        .ok request → ¬ Reveals (others.put names left) names leftConfig request) →
      let run (content : Bytes) := (Run.arguments surroundings arguments : StateM Session Nat).run
        (.start (others.put names content) input)
      (run left).1 = (run right).1 ∧ (run left).2.output = (run right).2.output ∧
        (run left).2.errors = (run right).2.errors := by
  refine ⟨alike.debug_eq, ?_⟩
  intro surroundings arguments input keeps run
  suffices same : ∃ (code : Nat) (after : Session),
      run left = (code, after.withFiles (others.put names left)) ∧
      run right = (code, after.withFiles (others.put names right)) by
    obtain ⟨code, after, leftRun, rightRun⟩ := same
    rw [leftRun, rightRun]
    exact ⟨rfl, rfl, rfl⟩
  let start : Session := .start others input
  cases readEq : Invocation.read (surroundings.get? Surroundings.queryVariable) arguments with
  | error error =>
      have refused : Indifferent (others.put names left) (others.put names right)
          (Run.arguments surroundings arguments) := by
        unfold Run.arguments
        rw [readEq]
        exact indifferent_usage surroundings arguments error
      exact refused start
  | ok request =>
      obtain ⟨outcome, between, leftRun, rightRun⟩ :=
        invocation_of_alike leftLoads rightLoads alike surroundings (keeps request readEq) start
      obtain ⟨code, after, leftEnd, rightEnd⟩ :=
        @indifferent_conclude (others.put names left) (others.put names right) outcome between
      refine ⟨code, after, ?_, ?_⟩
      · refine (run_arguments surroundings readEq (start.withFiles (others.put names left))).trans ?_
        rw [leftRun]
        exact leftEnd
      · refine (run_arguments surroundings readEq (start.withFiles (others.put names right))).trans ?_
        rw [rightRun]
        exact rightEnd

end

/-! A configuration file that gives a password. -/

def passwordFile (password : Text) : Bytes :=
  Utf8.encode ("query = 'status=ok'\nconsumer = \x7b sasl_password=\"" ++ password ++
    "\", topic = 'orders' \x7d\n")

def passwordConfig (password : Text) : Config where
  query := "status=ok"
  consumer := { ConsumerOptions.empty with saslPassword := some ⟨password⟩, topic := some "orders" }
  registry := .empty

theorem passwordConfig_alike (left right : Text) :
    (passwordConfig left).AlikeButSecrets (passwordConfig right) := ⟨rfl, rfl, rfl, rfl, rfl⟩

theorem ok_of_toOption {ε α : Type} {outcome : Except ε α} {value : α}
    (given : outcome.toOption = some value) : outcome = .ok value := by
  cases outcome with
  | error error => contradiction
  | ok found => rw [Option.some.inj given]

theorem loads_abc :
    Config.ofBytes "c.toml" (passwordFile "abc") = .ok (passwordConfig "abc") :=
  ok_of_toOption (by decide +kernel)

theorem loads_xyz :
    Config.ofBytes "c.toml" (passwordFile "xyz") = .ok (passwordConfig "xyz") :=
  ok_of_toOption (by decide +kernel)

theorem arguments_of_alike_config :
    Config.ofBytes "c.toml" (passwordFile "abc") = .ok (passwordConfig "abc") ∧
    Config.ofBytes "c.toml" (passwordFile "xyz") = .ok (passwordConfig "xyz") ∧
    (passwordConfig "abc").AlikeButSecrets (passwordConfig "xyz") ∧
    (passwordConfig "abc").debug = (passwordConfig "xyz").debug ∧
    let run (content : Bytes) := (Run.arguments .bare ["--config=c.toml", "-vvv", "config"] :
      StateM Session Nat).run (.start (Files.empty.put ["c.toml"] content) [])
    (run (passwordFile "abc")).1 = (run (passwordFile "xyz")).1 ∧
    (run (passwordFile "abc")).2.output = (run (passwordFile "xyz")).2.output ∧
    (run (passwordFile "abc")).2.errors = (run (passwordFile "xyz")).2.errors := by
  have alike := passwordConfig_alike "abc" "xyz"
  obtain ⟨debug, runs⟩ :=
    @arguments_of_alike .empty ["c.toml"] _ _ _ _ _ loads_abc loads_xyz alike
  refine ⟨loads_abc, loads_xyz, alike, debug, ?_⟩
  apply runs
  intro request readEq
  have isConfig : request.command = .config := by
    have readNow : Invocation.read none ["--config=c.toml", "-vvv", "config"] =
      .ok ⟨some "c.toml", none, .auto, 3, false, .config⟩ := rfl
    rw [← Except.ok.inj (readNow.symm.trans readEq)]
  rintro (⟨isScan, _, _⟩ | ⟨_, _, isConsume, _⟩)
  · cases isConfig.symm.trans isScan
  · cases isConfig.symm.trans isConsume

/-- A scan of the configuration file itself finds out what the password is. -/
theorem scan_reveals_password :
    let run (content : Bytes) := (Run.arguments .bare
        ["--config=c.toml", "scan", "--count", "--query=sasl_password='\"abc\"'", "c.toml"] :
      StateM Session Nat).run (.start (Files.empty.put ["c.toml"] content) [])
    Config.ofBytes "c.toml" (passwordFile "abc") = .ok (passwordConfig "abc") ∧
    Config.ofBytes "c.toml" (passwordFile "xyz") = .ok (passwordConfig "xyz") ∧
    (passwordConfig "abc").AlikeButSecrets (passwordConfig "xyz") ∧
    (run (passwordFile "abc")).2.output = "1\n" ∧
    (run (passwordFile "xyz")).2.output = "0\n" :=
  ⟨loads_abc, loads_xyz, passwordConfig_alike "abc" "xyz", by decide +kernel, by decide +kernel⟩

end Run

end TopicSieve
