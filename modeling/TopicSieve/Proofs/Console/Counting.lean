import TopicSieve.Console.Run
import TopicSieve.Proofs.Console.CommandLine
import TopicSieve.Proofs.Message.PlainLines

/-!
A run that counts, from its command line to its exit code. Main statement: it writes how many lines
match, or the limit where that is less; it writes nothing and fails where a line that is no text comes
before the limit is reached.
-/

namespace TopicSieve

namespace Session

def Quiet (action : StateM Session Unit) : Prop :=
  ∀ session, ∃ errors, (action.run session).2 = { session with errors }

theorem quiet_pure : Quiet (pure ()) := fun session => ⟨session.errors, rfl⟩

theorem Quiet.run_bind {action : StateM Session Unit} (quiet : Quiet action) {α : Type}
    (rest : Unit → StateM Session α) (session : Session) :
    ∃ errors, (action >>= rest).run session = (rest ()).run { session with errors } := by
  obtain ⟨errors, after⟩ := quiet session
  refine ⟨errors, ?_⟩
  rw [← after]
  rfl

theorem Quiet.bind {action : StateM Session Unit} (quiet : Quiet action)
    {rest : Unit → StateM Session Unit} (restQuiet : Quiet (rest ())) :
    Quiet (action >>= rest) := by
  intro session
  obtain ⟨errors, after⟩ := quiet.run_bind rest session
  rw [after]
  exact restQuiet { session with errors }

theorem quiet_forM {α : Type} {action : α → StateM Session Unit}
    (quiet : ∀ value, Quiet (action value)) (values : List α) :
    Quiet (values.forM action) := by
  induction values with
  | nil => exact quiet_pure
  | cons value rest ih => exact (quiet value).bind ih

theorem quiet_printError (text : Text) : Quiet (Terminal.printError text) :=
  fun session => ⟨session.errors ++ text, rfl⟩

end Session

namespace Run

open Session

variable (options : RunOptions)

theorem quiet_log (event : LogEvent) : Quiet (log options event) := by
  intro session
  rw [log]
  split
  · exact ⟨session.errors ++ event.line ++ "\n", rfl⟩
  · exact ⟨session.errors, rfl⟩

theorem quiet_printWarnings (query : Text) : Quiet (printWarnings options query) :=
  quiet_forM (fun _ => quiet_printError _) _

def viewed (filter : Filter) (view : View) : Scan (StateM Session) Failure where
  filter := filter
  limit := view.limit
  receive := showMatch options view
  observe event := log options (eventOf filter event)

theorem takesAll_viewed (filter : Filter) {view : View} (counting : view.count = true)
    (output : Text) :
    (viewed options filter view).TakesAll fun session => session.output = output where
  receive message session := by
    change (showMatch options view message : StateM Session _).run session = _
    unfold showMatch
    rw [if_pos counting]
    rfl
  observe event session kept := by
    obtain ⟨errors, after⟩ := quiet_log options (eventOf filter event) session
    change ((log options (eventOf filter event) : StateM Session Unit).run session).2.output = output
    rw [after]
    exact kept

def Prints (output : Text) (number : Option Nat) (run : Except Failure Unit × Session) : Prop :=
  match number with
  | some number => run.1 = .ok () ∧ run.2.output = output ++ (Text.ofNat number ++ "\n")
  | none => (∃ failure, run.1 = .error failure) ∧ run.2.output = output

def finish (view : View) (outcome : Except (ScanFailure Failure) ScanCounts) :
    StateM Session (Except Failure Unit) :=
  match outcome with
  | .error (.source error) => pure (.error (.ofMessageError error))
  | .error (.receiver failure) => pure (.error failure)
  | .ok counts => do
      if view.count then Terminal.print (Text.ofNat counts.matched ++ "\n")
      log options (finishedEvent counts)
      pure (.ok ())

theorem run_viewItems (filter : Filter) (view : View) (items : List Item) (session : Session) :
    (viewItems options filter view (pure ()) items : StateM Session _).run session =
      let run := ((viewed options filter view).run items).run session
      (finish options view run.1.outcome).run run.2 := rfl

theorem finish_prints {view : View} (counting : view.count = true)
    (outcome : Except (ScanFailure Failure) ScanCounts) (session : Session) :
    Prints session.output (outcome.toOption.map ScanCounts.matched)
      ((finish options view outcome).run session) := by
  rcases outcome with (error | failure) | counts
  · exact ⟨⟨_, rfl⟩, rfl⟩
  · exact ⟨⟨_, rfl⟩, rfl⟩
  · let printed : Session :=
      { session with output := session.output ++ (Text.ofNat counts.matched ++ "\n") }
    obtain ⟨errors, logged⟩ := quiet_log options (finishedEvent counts) printed
    have finished : (finish options view (.ok counts)).run session =
        (.ok (), ((log options (finishedEvent counts) : StateM Session Unit).run printed).2) := by
      unfold finish
      simp only [if_pos counting]
      rfl
    rw [finished, logged]
    exact ⟨rfl, rfl⟩

theorem viewItems_prints (filter : Filter) (view : View) (counting : view.count = true)
    (items : List Item) (session : Session) :
    Prints session.output (Scan.tally filter view.limit items)
      ((viewItems options filter view (pure ()) items : StateM Session _).run session) := by
  obtain ⟨tallyEq, outputEq⟩ :=
    (takesAll_viewed options filter counting session.output).run_tally items rfl
  change _ = Scan.tally filter view.limit items at tallyEq
  rw [run_viewItems, ← tallyEq, ← outputEq]
  exact finish_prints options counting _ _

/-! What comes before the scan. -/

theorem isStandardInput_of_operand {path : Text} (operand : path.head? ≠ some '-') :
    isStandardInput path = false := by
  cases path with
  | nil => rfl
  | cons first rest =>
      have different : first ≠ '-' := fun same => operand (congrArg some same)
      have notHyphen (more : Text) : (first :: more == ("-" : Text)) = false := by
        simp [different]
      rw [isStandardInput, Files.pathParts, Text.splitOn]
      by_cases slash : first = '/'
      · rw [if_pos slash]
        rfl
      · rw [if_neg slash]
        cases Text.splitOn '/' rest with
        | nil => exact congrArg (· && true) (notHyphen [])
        | cons piece pieces => exact (congrArg (· && _) (notHyphen piece)).trans (Bool.false_and _)

theorem scanInput_of_file {session : Session} {path : Text} {file : OpenFile}
    (found : session.files.openPath path = .ok file) (operand : path.head? ≠ some '-')
    (config : Config) (filter : Filter) (format : InputFormat) (view : View) :
    (scanInput options config filter path format view : StateM Session _).run session =
      (viewItems options filter view (pure ())
        ((⟨format, config.topicOrDash⟩ : MessageReader).itemsOf file) : StateM Session _).run
          session := by
  have notInput := isStandardInput_of_operand operand
  have opened : (Terminal.openPath path : StateM Session _).run session = (.ok file, session) :=
    congrArg (·, session) found
  unfold scanInput
  simp only [notInput]
  rw [if_neg Bool.false_ne_true, StateT.run_bind, opened]
  rfl

theorem invocation_prints (surroundings : Surroundings) {session : Session} {path : Text}
    {content : Bytes} (found : session.files.openPath path = .ok (.content content))
    (operand : path.head? ≠ some '-') (query : Text) (limit : Option Nat) :
    let reader : MessageReader := ⟨.lines, Config.empty.topicOrDash⟩
    Prints session.output (Scan.tally (.parse query) limit (reader.items content))
      ((invocation surroundings (countInvocation path query limit) : StateM Session _).run
        session) := by
  intro reader
  let options : RunOptions :=
    ⟨surroundings.logFilter 0 false, surroundings.autoColor, surroundings.onScreen⟩
  let filter := Filter.parse query
  let event : LogEvent := ⟨.debug, mainTarget, "parsed filter query",
    [("query", Text.quoted query), ("pairs", Text.ofNat filter.required.size)]⟩
  let scan : StateM Session (Except Failure Unit) :=
    scanInput options .empty filter path .lines ⟨false, limit, true⟩
  have steps : invocation surroundings (countInvocation path query limit) =
      (log options event >>= fun _ => printWarnings options query) >>= fun _ => scan := rfl
  have quiet : Quiet (log options event >>= fun _ => printWarnings options query) :=
    (quiet_log options event).bind (quiet_printWarnings options query)
  obtain ⟨errors, reported⟩ := quiet.run_bind (fun _ => scan) session
  have foundStill : ({ session with errors } : Session).files.openPath path =
      .ok (.content content) := found
  rw [steps, reported, scanInput_of_file options foundStill operand]
  exact viewItems_prints options filter ⟨false, limit, true⟩ rfl _ _

def conclude (outcome : Except Failure Unit) : StateM Session Nat :=
  match outcome with
  | .ok () => pure 0
  | .error failure => do
      Terminal.printError ("Error: " ++ failure.report ++ "\n")
      pure 1

theorem run_arguments (surroundings : Surroundings) {request : Invocation} {arguments : List Text}
    (readEq : Invocation.read (surroundings.get? Surroundings.queryVariable) arguments = .ok request)
    (session : Session) :
    (Run.arguments surroundings arguments : StateM Session Nat).run session =
      let run := (invocation surroundings request : StateM Session _).run session
      (conclude run.1).run run.2 := by
  unfold Run.arguments
  simp only [readEq]
  rfl

theorem conclude_of_some {output : Text} {number : Nat} {run : Except Failure Unit × Session}
    (prints : Prints output (some number) run) :
    ((conclude run.1).run run.2).1 = 0 ∧
      ((conclude run.1).run run.2).2.output = output ++ (Text.ofNat number ++ "\n") := by
  obtain ⟨outcome, session⟩ := run
  obtain ⟨rfl, outputEq⟩ := prints
  exact ⟨rfl, outputEq⟩

theorem conclude_of_none {output : Text} {run : Except Failure Unit × Session}
    (prints : Prints output none run) :
    ((conclude run.1).run run.2).1 = 1 ∧ ((conclude run.1).run run.2).2.output = output := by
  obtain ⟨outcome, session⟩ := run
  obtain ⟨⟨failure, rfl⟩, outputEq⟩ := prints
  exact ⟨rfl, outputEq⟩

/-- Counting the lines of a file that match. The run ends well if all lines are text or the limit is
reached before one that is not; then it writes the number of matches in front of that line, but no
more than the limit. Otherwise it fails and writes no number. Nothing of this depends on what
surrounds the run, and the limit is any that the command line can hold. -/
theorem arguments_count (surroundings : Surroundings) {files : Files} {path : Text}
    {content : Bytes} (found : files.openPath path = .ok (.content content))
    (operand : path.head? ≠ some '-') (query : Text) {limit : Option Nat}
    (fits : ∀ number, limit = some number → number < twoTo 64) (input : Bytes) :
    ∃ lines, Bytes.Cut content lines ∧
      let filter := Filter.parse query
      let matching := (lines.takeWhile (IsText ·)).countP (filter.MatchesLine ·)
      let decided := (∀ line ∈ lines, IsText line) ∨
        ∃ number, limit = some number ∧ number ≤ matching
      let run := (Run.arguments surroundings (countArguments path query limit) :
        StateM Session Nat).run (.start files input)
      (decided → run.1 = 0 ∧
        run.2.output = Text.ofNat (limit.elim matching (min · matching)) ++ "\n") ∧
      (¬ decided → run.1 = 1 ∧ run.2.output = []) := by
  have cut := Bytes.cut_lines content
  refine ⟨content.lines, cut, ?_⟩
  intro filter matching decided run
  have nonempty : path ≠ [] := by
    rintro rfl
    cases found
  have readEq := read_countArguments operand nonempty query fits
    (surroundings.get? Surroundings.queryVariable)
  let reader : MessageReader := ⟨.lines, Config.empty.topicOrDash⟩
  let start := Session.start files input
  have prints : Prints start.output (Scan.tally filter limit (reader.items content))
      ((invocation surroundings (countInvocation path query limit) : StateM Session _).run start) :=
    invocation_prints surroundings found operand query limit
  have runEq : run = _ := run_arguments surroundings readEq start
  have plain : reader.format = .lines := rfl
  obtain ⟨reached, failed⟩ := tally_plain plain filter limit cut
  constructor
  · intro holds
    rw [reached holds] at prints
    rw [runEq]
    exact conclude_of_some prints
  · intro fails
    rw [failed fails] at prints
    rw [runEq]
    exact conclude_of_none prints

def mixedContent : Bytes :=
  [0x61, 0x3D, 0x31, 0x0D, 0x0A, 0x20, 0x0A, 0x41, 0x3D, 0x31, 0x0A, 0xFF, 0x0A]

theorem arguments_count_mixedContent :
    let files := Files.ofList [("log", mixedContent)]
    let run (limit : Nat) := (Run.arguments .bare (countArguments "log" "a=1" (some limit)) :
      StateM Session Nat).run (.start files [])
    (∀ number, some 2 = some number → number < twoTo 64) ∧
    (run 2).1 = 0 ∧ (run 2).2.output = "2\n" ∧ (run 3).1 = 1 ∧ (run 3).2.output = [] := by
  intro files run
  have found : files.openPath "log" = .ok (.content mixedContent) := rfl
  have operand : ("log" : Text).head? ≠ some '-' := by decide
  have fits (limit : Nat) (small : limit < 4) (number : Nat) (isLimit : some limit = some number) :
      number < twoTo 64 := by
    cases isLimit
    exact Nat.lt_trans small (by decide)
  obtain ⟨lines, cut, reached, _⟩ :=
    arguments_count .bare found operand "a=1" (fits 2 (by decide)) []
  obtain ⟨others, sameCut, _, failed⟩ :=
    arguments_count .bare found operand "a=1" (fits 3 (by decide)) []
  rw [← cut.lines_eq] at reached
  rw [← sameCut.lines_eq] at failed
  have twoMatches : (mixedContent.lines.takeWhile (IsText ·)).countP
      ((Filter.parse "a=1").MatchesLine ·) = 2 := by decide
  rw [twoMatches] at reached failed
  obtain ⟨code, output⟩ := reached (Or.inr ⟨2, rfl, Nat.le_refl 2⟩)
  obtain ⟨failure, nothing⟩ := failed (by
    rintro (allText | ⟨_, ⟨⟩, bound⟩)
    · exact absurd (allText [0xFF, 0x0A] (by decide)) (by decide)
    · contradiction)
  exact ⟨fits 2 (by decide), code, output, failure, nothing⟩

end Run

end TopicSieve
