import TopicSieve.Proofs.Config.RoundTrip
import TopicSieve.Proofs.Console.Secrecy

/-!
What is printed of a configuration, and what that is good for. Main statement: the text that a run
prints of the configuration in a file is a configuration file itself. It holds the same settings, with
the passwords masked, and a run prints the same text of it again.
-/

namespace TopicSieve

namespace Session

def Writes {ε : Type} (text : Text) (action : StateM Session (Except ε Unit)) : Prop :=
  ∀ session, ∃ errors,
    action.run session = (.ok (), { session with output := session.output ++ text, errors })

section

variable {ε : Type} {text : Text}

theorem writes_print (text : Text) :
    Writes text (do Terminal.print text; pure (.ok ()) : StateM Session (Except ε Unit)) :=
  fun session => ⟨session.errors, rfl⟩

theorem Quiet.writes_bind {action : StateM Session Unit} (quiet : Quiet action)
    {rest : Unit → StateM Session (Except ε Unit)} (writes : Writes text (rest ())) :
    Writes text (action >>= rest) := by
  intro session
  obtain ⟨errors, runEq⟩ := quiet.run_bind rest session
  obtain ⟨finalErrors, restEq⟩ := writes { session with errors }
  exact ⟨finalErrors, runEq.trans restEq⟩

end

end Session

namespace Run

open Session

theorem writes_withConfig {request : Invocation} (isConfig : request.command = .config)
    (options : RunOptions) (config : Config) :
    Writes config.printed (withConfig options request config) := by
  let query := request.effectiveQuery config.query
  let event : LogEvent := ⟨.debug, mainTarget, "parsed filter query",
    [("query", Text.quoted query), ("pairs", Text.ofNat (Filter.parse query).required.size)]⟩
  have printed : Writes config.printed
      (command options config (Filter.parse query) request.command : StateM Session _) := by
    rw [isConfig]
    exact writes_print config.printed
  let warnAndPrint (_ : Unit) : StateM Session (Except Failure Unit) :=
    if !request.quiet then
      printWarnings options query >>= fun _ =>
        command options config (Filter.parse query) request.command
    else command options config (Filter.parse query) request.command
  have warned : Writes config.printed (warnAndPrint ()) := by
    unfold warnAndPrint
    split
    · exact (quiet_printWarnings options query).writes_bind printed
    · exact printed
  have parsed : Writes config.printed (log options event >>= warnAndPrint) :=
    (quiet_log options event).writes_bind warned
  unfold withConfig
  cases request.config with
  | none => exact parsed
  | some path =>
      exact @Quiet.writes_bind _ _ _ (quiet_log options _)
        (fun _ => log options event >>= warnAndPrint) parsed

def AsksForConfig (surroundings : Surroundings) (arguments : List Text) (path : Text) : Prop :=
  ∃ request, Invocation.read (surroundings.get? Surroundings.queryVariable) arguments =
    .ok request ∧ request.command = .config ∧ request.config = some path

theorem arguments_printed {surroundings : Surroundings} {arguments : List Text} {path : Text}
    (asks : AsksForConfig surroundings arguments path) {session : Session} {content : Bytes}
    (found : session.files.openPath path = .ok (.content content)) {config : Config}
    (loads : Config.ofBytes path content = .ok config) :
    let run := (Run.arguments surroundings arguments : StateM Session Nat).run session
    run.1 = 0 ∧ run.2.output = session.output ++ config.printed := by
  obtain ⟨request, readEq, isConfig, isPath⟩ := asks
  obtain ⟨errors, written⟩ :=
    writes_withConfig isConfig (optionsOf surroundings request) config session
  have runEq : (invocation surroundings request : StateM Session _).run session =
      (.ok (), { session with output := session.output ++ config.printed, errors }) := by
    rw [invocation_eq, isPath, StateT.run_bind, loadConfig_of_content found, loads]
    exact written
  intro run
  have conclusion : run = _ := run_arguments surroundings readEq session
  rw [runEq] at conclusion
  rw [conclusion]
  exact ⟨rfl, rfl⟩

/-- What a run prints of the configuration in a file can be loaded. It gives the same settings, the
passwords masked, and is printed as the same text. -/
theorem arguments_config_reloads {surroundings : Surroundings} {arguments : List Text} {path : Text}
    (asks : AsksForConfig surroundings arguments path) {files : Files} {content : Bytes}
    (found : files.openPath path = .ok (.content content)) {config : Config}
    (loads : Config.ofBytes path content = .ok config) (input : Bytes) :
    let run := (Run.arguments surroundings arguments : StateM Session Nat).run (.start files input)
    let masked (secret : Option Secret) : Option Secret := secret.map fun _ => ⟨"***"⟩
    let reloaded : Config :=
      { query := config.query
        consumer :=
          { config.consumer with saslPassword := masked config.consumer.saslPassword }
        registry := { config.registry with password := masked config.registry.password } }
    run.1 = 0 ∧
    (∀ other, Config.ofBytes other (Utf8.encode run.2.output) = .ok reloaded) ∧
    ∀ surroundings arguments other, AsksForConfig surroundings arguments other →
      ∀ files : Files, files.openPath other = .ok (.content (Utf8.encode run.2.output)) →
        ∀ input, let again :=
            (Run.arguments surroundings arguments : StateM Session Nat).run (.start files input)
          again.1 = 0 ∧ again.2.output = run.2.output := by
  intro run masked reloaded
  obtain ⟨code, output⟩ : run.1 = 0 ∧ run.2.output = [] ++ config.printed :=
    @arguments_printed _ _ _ asks (.start files input) _ found _ loads
  rw [List.nil_append] at output
  have reloads : ∀ other, Config.ofBytes other (Utf8.encode run.2.output) = .ok reloaded := by
    rw [output]
    exact Config.ofBytes_printed loads
  refine ⟨code, reloads, ?_⟩
  intro surroundings arguments other asksAgain files foundAgain input again
  obtain ⟨codeAgain, outputAgain⟩ : again.1 = 0 ∧ again.2.output = [] ++ reloaded.printed :=
    @arguments_printed _ _ _ asksAgain (.start files input) _ foundAgain _ (reloads other)
  have same : reloaded.printed = config.printed :=
    congrArg Config.document config.redacted_redacted
  refine ⟨codeAgain, ?_⟩
  rw [outputAgain, List.nil_append, same, output]

def quotesFile : Bytes :=
  Utf8.encode "query = \"a='\\\"\\n'\\u0001\"\n[consumer]\nsasl_password = 'abc'\n"

def quotesConfig (password : Text) : Config where
  query := "a='\"\n'\x01"
  consumer := { ConsumerOptions.empty with saslPassword := some ⟨password⟩ }
  registry := .empty

theorem arguments_config_reloads_quotes :
    let run (content : Bytes) := (Run.arguments .bare ["--config=c.toml", "config"] :
      StateM Session Nat).run (.start (Files.empty.put ["c.toml"] content) [])
    AsksForConfig .bare ["--config=c.toml", "config"] "c.toml" ∧
    (Files.empty.put ["c.toml"] quotesFile).openPath "c.toml" = .ok (.content quotesFile) ∧
    Config.ofBytes "c.toml" quotesFile = .ok (quotesConfig "abc") ∧
    (run quotesFile).1 = 0 ∧
    Config.ofBytes "d.toml" (Utf8.encode (run quotesFile).2.output) = .ok (quotesConfig "***") ∧
    (run (Utf8.encode (run quotesFile).2.output)).2.output = (run quotesFile).2.output := by
  have asks : AsksForConfig .bare ["--config=c.toml", "config"] "c.toml" :=
    ⟨⟨some "c.toml", none, .auto, 0, false, .config⟩, rfl, rfl, rfl⟩
  have found (content : Bytes) : (Files.empty.put ["c.toml"] content).openPath "c.toml" =
      .ok (.content content) := rfl
  have loads : Config.ofBytes "c.toml" quotesFile = .ok (quotesConfig "abc") :=
    ok_of_toOption (by decide +kernel)
  obtain ⟨code, reloads, prints⟩ := arguments_config_reloads asks (found quotesFile) loads []
  refine ⟨asks, found quotesFile, loads, code, ?_, ?_⟩
  · rw [reloads]
    rfl
  · have again := prints _ _ "c.toml" asks (Files.empty.put ["c.toml"] (Utf8.encode _)) (found _) []
    dsimp only at again ⊢
    exact again.2

end Run

end TopicSieve
