import Mathlib.Data.List.Basic
import TopicSieve.Proofs.Console.Options

/-!
Command lines written from what they are to say. Options stand in any order, those that concern
every command on either side of it, and the word behind the command stands at the end, where it
cannot be taken for an option. Main statement: such a line is read as what it was written from.
-/

namespace TopicSieve

def Parameter.all : List Parameter :=
  [.config, .query, .color, .verbose, .quiet, .help, .version, .outputFormat, .inputFormat, .step,
    .limit, .count, .topic, .input]

namespace Settings

def overriding (behind before : Settings) : Settings :=
  { behind with
    config := behind.config.or before.config
    query := behind.query.or before.query
    color := behind.color.or before.color
    verbose := if behind.verbose = 0 then before.verbose else behind.verbose
    quiet := behind.quiet || before.quiet }

theorem join_empty (environment : Option Text) (settings : Settings) (name : CommandName) :
    Invocation.join environment .empty settings name =
      { config := settings.config
        query := settings.query.or environment
        color := settings.color.getD .auto
        verbose := settings.verbose
        quiet := settings.quiet
        command := Invocation.commandOf settings name } := by
  have counted : (if settings.verbose = 0 then 0 else settings.verbose) = settings.verbose :=
    ite_eq_right_iff.mpr Eq.symm
  simp only [Invocation.join, empty, Option.or_none, Bool.or_false, counted]

theorem join_over (environment : Option Text) (before behind : Settings) (name : CommandName) :
    Invocation.join environment before behind name =
      Invocation.join environment .empty (behind.overriding before) name := by
  rw [join_empty]
  cases name <;> rfl

variable {settings before behind : Settings} {choice : Choice} {choices : List Choice}

theorem over_add (onlyHere : choice = .verbose → before.verbose = 0) :
    (behind.add choice).overriding before = (behind.overriding before).add choice := by
  cases choice with
  | verbose =>
      have here : (behind.overriding before).verbose = behind.verbose := by
        simp only [overriding, onlyHere rfl]
        exact ite_eq_right_iff.mpr Eq.symm
      have given : min mostVerbose (behind.verbose + 1) ≠ 0 := by
        simp [mostVerbose]
      simp only [add, here]
      simp only [overriding, if_neg given]
  | _ => rfl

theorem over_addAll (onlyHere : .verbose ∈ choices → before.verbose = 0) :
    (behind.addAll choices).overriding before = (behind.overriding before).addAll choices := by
  induction choices generalizing behind with
  | nil => rfl
  | cons choice choices ih =>
      have first : (behind.add choice).overriding before = (behind.overriding before).add choice := by
        apply over_add
        rintro rfl
        exact onlyHere List.mem_cons_self
      calc ((behind.add choice).addAll choices).overriding before
          = ((behind.add choice).overriding before).addAll choices :=
            ih fun member => onlyHere (List.mem_cons_of_mem choice member)
        _ = ((behind.overriding before).add choice).addAll choices := by rw [first]

theorem empty_over_add (isGlobal : choice.parameter ∈ Parameter.global) :
    empty.overriding (settings.add choice) = (empty.overriding settings).add choice := by
  cases choice <;> first | rfl | simp [Choice.parameter, Parameter.global] at isGlobal

theorem empty_over_addAll (areGlobal : ∀ choice ∈ choices, choice.parameter ∈ Parameter.global)
    (same : empty.overriding settings = settings) :
    empty.overriding (settings.addAll choices) = settings.addAll choices := by
  induction choices generalizing settings with
  | nil => exact same
  | cons choice choices ih =>
      rw [List.forall_mem_cons] at areGlobal
      have first : empty.overriding (settings.add choice) = settings.add choice := by
        rw [empty_over_add areGlobal.1, same]
      exact ih areGlobal.2 first

theorem verbose_addAll (absent : .verbose ∉ choices) :
    (settings.addAll choices).verbose = settings.verbose := by
  induction choices generalizing settings with
  | nil => rfl
  | cons choice choices ih =>
      rw [List.mem_cons, not_or] at absent
      have first : (settings.add choice).verbose = settings.verbose := by
        cases choice <;> first | rfl | exact absurd rfl absent.1
      exact (ih absent.2).trans first

theorem input_addAll (settings : Settings) (choices : List Choice) :
    (settings.addAll choices).input = settings.input := by
  induction choices generalizing settings with
  | nil => rfl
  | cons choice choices ih =>
      have first : (settings.add choice).input = settings.input := by
        cases choice <;> rfl
      exact (ih (settings.add choice)).trans first

theorem addAll_over_addAll {front back : List Choice}
    (areGlobal : ∀ choice ∈ front, choice.parameter ∈ Parameter.global)
    (oneSide : .verbose ∉ front ∨ .verbose ∉ back) :
    (empty.addAll back).overriding (empty.addAll front) = empty.addAll (front ++ back) := by
  have onlyHere : .verbose ∈ back → (empty.addAll front).verbose = 0 := by
    intro member
    exact verbose_addAll (oneSide.resolve_right (not_not_intro member))
  calc (empty.addAll back).overriding (empty.addAll front)
      = (empty.overriding (empty.addAll front)).addAll back := over_addAll onlyHere
    _ = (empty.addAll front).addAll back := by rw [empty_over_addAll areGlobal rfl]
    _ = empty.addAll (front ++ back) := (addAll_append empty front back).symm

def choice? (settings : Settings) : Parameter → Option Choice
  | .config => settings.config.map .config
  | .query => settings.query.map .query
  | .color => settings.color.map .color
  | .quiet => if settings.quiet then some .quiet else none
  | .outputFormat => settings.outputFormat.map .outputFormat
  | .inputFormat => settings.inputFormat.map .inputFormat
  | .step => if settings.step then some .step else none
  | .limit => settings.limit.map .limit
  | .count => if settings.count then some .count else none
  | .topic => settings.topic.map .topic
  | .verbose | .help | .version | .input => none

def options (settings : Settings) : List Choice :=
  List.replicate settings.verbose .verbose ++ Parameter.all.filterMap settings.choice?

theorem parameter_of_choice? {parameter : Parameter}
    (chosen : settings.choice? parameter = some choice) : choice.parameter = parameter := by
  cases parameter with
  | quiet | step | count =>
      obtain ⟨_, same⟩ := Option.ite_none_right_eq_some.mp chosen
      obtain rfl := Option.some.inj same
      rfl
  | verbose | help | version | input => cases chosen
  | _ =>
      obtain ⟨_, _, rfl⟩ := Option.map_eq_some_iff.mp chosen
      rfl

theorem options_compatible (settings : Settings) :
    settings.options.Pairwise Choice.Compatible := by
  refine List.pairwise_append.mpr ⟨?_, ?_, ?_⟩
  · exact List.pairwise_replicate.mpr (.inr fun _ => rfl)
  · have distinct : Parameter.all.Pairwise (· ≠ ·) := by decide
    refine List.pairwise_filterMap.mpr (distinct.imp ?_)
    intro left right different first firstEq second secondEq same
    rw [parameter_of_choice? firstEq, parameter_of_choice? secondEq] at same
    exact absurd same different
  · intro first member second _ _
    rw [List.eq_of_mem_replicate member]
    rfl

theorem addAll_verbose {number : Nat} (few : settings.verbose + number ≤ mostVerbose) :
    settings.addAll (List.replicate number .verbose) =
      { settings with verbose := settings.verbose + number } := by
  induction number generalizing settings with
  | zero => rfl
  | succ number ih =>
      have first : settings.add .verbose = { settings with verbose := settings.verbose + 1 } := by
        rw [add, Nat.min_eq_right (by omega)]
      rw [List.replicate_succ, addAll, List.foldl_cons, first]
      refine (ih ?_).trans ?_
      · simp only
        omega
      · simp only [Nat.add_assoc, Nat.add_comm 1]

def copy (settings other : Settings) : Parameter → Settings
  | .config => { settings with config := other.config.or settings.config }
  | .query => { settings with query := other.query.or settings.query }
  | .color => { settings with color := other.color.or settings.color }
  | .quiet => { settings with quiet := other.quiet || settings.quiet }
  | .outputFormat =>
      { settings with outputFormat := other.outputFormat.or settings.outputFormat }
  | .inputFormat => { settings with inputFormat := other.inputFormat.or settings.inputFormat }
  | .step => { settings with step := other.step || settings.step }
  | .limit => { settings with limit := other.limit.or settings.limit }
  | .count => { settings with count := other.count || settings.count }
  | .topic => { settings with topic := other.topic.or settings.topic }
  | .verbose | .help | .version | .input => settings

theorem add_choice? (settings other : Settings) (parameter : Parameter) :
    (other.choice? parameter).toList.foldl add settings = settings.copy other parameter := by
  obtain ⟨config, query, color, verbose, quiet, outputFormat, inputFormat, step, limit, count,
    topic, input⟩ := other
  cases parameter with
  | config => cases config <;> rfl
  | query => cases query <;> rfl
  | color => cases color <;> rfl
  | quiet => cases quiet <;> rfl
  | outputFormat => cases outputFormat <;> rfl
  | inputFormat => cases inputFormat <;> rfl
  | step => cases step <;> rfl
  | limit => cases limit <;> rfl
  | count => cases count <;> rfl
  | topic => cases topic <;> rfl
  | verbose | help | version | input => rfl

theorem addAll_options (few : settings.verbose ≤ mostVerbose) :
    empty.addAll settings.options = { settings with input := none } := by
  have counted : empty.addAll (List.replicate settings.verbose .verbose) =
      { empty with verbose := settings.verbose } := by
    rw [addAll_verbose (Nat.le_trans (Nat.le_of_eq (Nat.zero_add _)) few)]
    simp only [empty, Nat.zero_add]
  rw [options, addAll_append, counted, List.filterMap_eq_flatMap_toList, addAll,
    List.foldl_flatMap]
  simp only [add_choice?]
  simp [Parameter.all, copy, empty]

theorem mem_options (member : choice ∈ settings.options) :
    choice = .verbose ∨ ∃ parameter, settings.choice? parameter = some choice := by
  rcases List.mem_append.mp member with repeated | single
  · exact .inl (List.eq_of_mem_replicate repeated)
  · obtain ⟨parameter, _, chosen⟩ := List.mem_filterMap.mp single
    exact .inr ⟨parameter, chosen⟩

theorem options_valid (path : settings.config ≠ some [])
    (fits : ∀ number, settings.limit = some number → number < twoTo 64) :
    ∀ choice ∈ settings.options, choice.IsValid := by
  intro choice member
  rcases mem_options member with rfl | ⟨parameter, chosen⟩
  · trivial
  · obtain rfl := parameter_of_choice? chosen
    cases choice with
    | config text =>
        obtain ⟨_, given, same⟩ := Option.map_eq_some_iff.mp chosen
        obtain rfl := Choice.config.inj same
        rintro rfl
        exact path given
    | limit number =>
        obtain ⟨_, given, same⟩ := Option.map_eq_some_iff.mp chosen
        obtain rfl := Choice.limit.inj same
        exact fits _ given
    | _ => trivial

end Settings

def stated {α : Type} [DecidableEq α] (assumed : α) (shown : Bool) (value : α) : Option α :=
  if value = assumed ∧ shown = false then none else some value

theorem getD_stated {α : Type} [DecidableEq α] (assumed : α) (shown : Bool) (value : α) :
    (stated assumed shown value).getD assumed = value := by
  rw [stated]
  split
  next same => exact same.1.symm
  next => rfl

def Command.name : Command → CommandName
  | .tokens => .tokens
  | .parse _ => .parse
  | .scan _ _ _ => .scan
  | .consume _ _ => .consume
  | .config => .config

def Command.limit? : Command → Option Nat
  | .scan _ _ view => view.limit
  | .consume _ view => view.limit
  | _ => none

def Command.input? : Command → Option Text
  | .scan input _ _ => some input
  | _ => none

theorem Command.name_of_input? {command : Command} {word : Text}
    (given : command.input? = some word) : command.name = .scan := by
  cases command <;> first | rfl | contradiction

namespace Invocation

/-- What a command line sets. Values that are assumed anyway are set where they are to be shown. -/
def settings (invocation : Invocation) (shown : Parameter → Bool) : Settings :=
  let general : Settings :=
    { Settings.empty with
      config := invocation.config
      query := invocation.query
      color := stated .auto (shown .color) invocation.color
      verbose := invocation.verbose
      quiet := invocation.quiet }
  match invocation.command with
  | .tokens | .config => general
  | .parse format => { general with outputFormat := stated .text (shown .outputFormat) format }
  | .scan input format view =>
      { general with
        inputFormat := stated .lines (shown .inputFormat) format
        step := view.step
        limit := view.limit
        count := view.count
        input := some input }
  | .consume topic view =>
      { general with
        step := view.step
        limit := view.limit
        count := view.count
        topic := topic }

variable {invocation : Invocation}

theorem join_settings (invocation : Invocation) (shown : Parameter → Bool)
    (environment : Option Text) :
    join environment .empty (invocation.settings shown) invocation.command.name =
      { invocation with query := invocation.query.or environment } := by
  rw [Settings.join_empty]
  obtain ⟨config, query, color, verbose, quiet, command⟩ := invocation
  cases command <;>
    simp [settings, Command.name, commandOf, viewOf, Settings.empty, getD_stated]

theorem options_known (invocation : Invocation) (shown : Parameter → Bool) :
    ∀ choice ∈ (invocation.settings shown).options,
      choice.parameter ∈ invocation.command.name.parameters := by
  intro choice member
  obtain ⟨config, query, color, verbose, quiet, command⟩ := invocation
  rcases Settings.mem_options member with rfl | ⟨parameter, chosen⟩
  · cases command <;> exact List.mem_of_elem_eq_true rfl
  · obtain rfl := Settings.parameter_of_choice? chosen
    -- An option of another command is not set.
    cases command <;> cases choice <;>
      first | exact List.mem_of_elem_eq_true rfl | contradiction

/-- An empty path is refused where one is given, and numbers have to fit their types. -/
structure IsWritable (invocation : Invocation) : Prop where
  config : invocation.config ≠ some []
  verbose : invocation.verbose ≤ Settings.mostVerbose
  input : ∀ word, invocation.command.input? = some word → word ≠ []
  limit : ∀ number, invocation.command.limit? = some number → number < twoTo 64

theorem settings_fields (invocation : Invocation) (shown : Parameter → Bool) :
    (invocation.settings shown).config = invocation.config ∧
      (invocation.settings shown).verbose = invocation.verbose ∧
      (invocation.settings shown).limit = invocation.command.limit? ∧
      (invocation.settings shown).input = invocation.command.input? := by
  obtain ⟨config, query, color, verbose, quiet, command⟩ := invocation
  cases command <;> exact ⟨rfl, rfl, rfl, rfl⟩

end Invocation

def operands : Option Text → List Text
  | none => []
  | some input => ["--", input]

theorem Progress.readLevel_operands {name : CommandName} {settings : Settings}
    (fresh : settings.input = none) {input : Option Text}
    (taken : ∀ word, input = some word → word ≠ [] ∧ name = .scan) :
    ∃ progress settled,
      readLevel (.behind name) ⟨settings, none, false⟩ (operands input) = .ok (progress, none) ∧
      progress.settle = .ok settled ∧ settled.settings = { settings with input } := by
  cases input with
  | none =>
      refine ⟨⟨settings, none, false⟩, ⟨settings, none, false⟩, rfl, rfl, ?_⟩
      rw [← fresh]
  | some word =>
      obtain ⟨nonempty, rfl⟩ := taken word rfl
      have awaited : take (.behind .scan) ⟨settings, none, true⟩ word =
          .ok ⟨settings, some ⟨.input, some word⟩, true⟩ := by
        change takeWord (.behind .scan) ⟨settings, none, true⟩ word = _
        simp only [takeWord, fresh]
        rfl
      have given : settings.give .input word = .ok { settings with input := some word } := by
        simp only [Settings.give, Settings.path_of_ne_nil nonempty, Settings.once_none fresh]
        rfl
      refine ⟨⟨settings, some ⟨.input, some word⟩, true⟩, _, ?_, settle_of_give given true, rfl⟩
      exact (readLevel_of_take rfl [word]).trans (readLevel_of_take awaited [])

/-- Options, the command, further options, and the word behind the command. -/
def commandLine (front : List Choice) (name : CommandName) (back : List Choice)
    (input : Option Text) : List Text :=
  front.map Choice.argument ++ name.text :: (back.map Choice.argument ++ operands input)

namespace Invocation

theorem read_commandLine {name : CommandName} {settings : Settings} {front back : List Choice}
    (placed : (front ++ back).Perm settings.options)
    (areGlobal : ∀ choice ∈ front, choice.parameter ∈ Parameter.global)
    (oneSide : .verbose ∉ front ∨ .verbose ∉ back)
    (known : ∀ choice ∈ settings.options, choice.parameter ∈ name.parameters)
    (valid : ∀ choice ∈ settings.options, choice.IsValid)
    (few : settings.verbose ≤ Settings.mostVerbose)
    (taken : ∀ word, settings.input = some word → word ≠ [] ∧ name = .scan)
    (environment : Option Text) :
    read environment (commandLine front name back settings.input) =
      .ok (join environment .empty settings name) := by
  have compatible : (front ++ back).Pairwise Choice.Compatible :=
    (placed.pairwise_iff fun compatible => symm compatible).mpr settings.options_compatible
  have ⟨frontCompatible, backCompatible, _⟩ := List.pairwise_append.mp compatible
  have frontEq : Progress.start.readLevel .beforeCommand
      (commandLine front name back settings.input) =
      .ok (⟨Settings.empty.addAll front, none, false⟩,
        some (name.text, back.map Choice.argument ++ operands settings.input)) := by
    refine (Progress.readLevel_choices List.mem_cons_self ?_ ?_ ?_ frontCompatible _).trans ?_
    · intro choice member
      exact List.mem_cons_of_mem _ (areGlobal choice member)
    · intro choice member
      exact valid choice (placed.subset (List.mem_append_left back member))
    · intro choice _
      exact Settings.isFree_empty choice.parameter
    · cases name <;> rfl
  have backEq := @Progress.readLevel_choices (.behind name) .empty
    (ArgumentLevel.behind_mem_all name) back
    (fun choice member => known choice (placed.subset (List.mem_append_right front member)))
    (fun choice member => valid choice (placed.subset (List.mem_append_right front member)))
    (fun choice _ => Settings.isFree_empty choice.parameter)
    backCompatible (operands settings.input)
  obtain ⟨progress, settled, operandsEq, settledEq, settingsEq⟩ :=
    Progress.readLevel_operands (Settings.input_addAll .empty back) taken
  have readEq := read_of_levels frontEq (backEq.trans operandsEq) rfl settledEq environment
  rw [readEq, settingsEq, Settings.join_over]
  have joined : ({ Settings.empty.addAll back with input := settings.input } : Settings).overriding
      (Settings.empty.addAll front) = settings := by
    calc ({ Settings.empty.addAll back with input := settings.input } : Settings).overriding
          (Settings.empty.addAll front)
        = { (Settings.empty.addAll back).overriding (Settings.empty.addAll front) with
            input := settings.input } := rfl
      _ = { Settings.empty.addAll settings.options with input := settings.input } := by
          rw [Settings.addAll_over_addAll areGlobal oneSide,
            Settings.addAll_perm compatible placed]
      _ = settings := by rw [Settings.addAll_options few]
  rw [joined]

/-- A line written from an invocation is read as that invocation. The environment has a say only in a
query that is not given. -/
theorem read_written (writable : invocation.IsWritable) (shown : Parameter → Bool)
    {front back : List Choice}
    (placed : (front ++ back).Perm (invocation.settings shown).options)
    (areGlobal : ∀ choice ∈ front, choice.parameter ∈ Parameter.global)
    (oneSide : .verbose ∉ front ∨ .verbose ∉ back) :
    let line := commandLine front invocation.command.name back invocation.command.input?
    read none line = .ok invocation ∧
      ∀ environment, read environment line =
        .ok { invocation with query := invocation.query.or environment } := by
  intro line
  obtain ⟨configEq, verboseEq, limitEq, inputEq⟩ := settings_fields invocation shown
  have valid : ∀ choice ∈ (invocation.settings shown).options, choice.IsValid :=
    Settings.options_valid (configEq ▸ writable.config) (limitEq ▸ writable.limit)
  have few : (invocation.settings shown).verbose ≤ Settings.mostVerbose :=
    verboseEq ▸ writable.verbose
  have taken : ∀ word, (invocation.settings shown).input = some word →
      word ≠ [] ∧ invocation.command.name = .scan := by
    rw [inputEq]
    intro word given
    exact ⟨writable.input word given, Command.name_of_input? given⟩
  have anywhere (environment : Option Text) : read environment line =
      .ok { invocation with query := invocation.query.or environment } := by
    have readEq := read_commandLine placed areGlobal oneSide (options_known invocation shown)
      valid few taken environment
    rwa [inputEq, join_settings] at readEq
  refine ⟨?_, anywhere⟩
  have withoutEnvironment := anywhere none
  rwa [Option.or_none] at withoutEnvironment

def misleading : Invocation where
  config := some "--query=a b"
  query := some ""
  color := .auto
  verbose := 2
  quiet := true
  command := .scan "--count" .jsonl ⟨false, some 18446744073709551615, true⟩

theorem read_written_misleading :
    read none ["--query=", "--quiet", "scan", "--count", "-v", "--limit=18446744073709551615",
        "--config=--query=a b", "--format=jsonl", "-v", "--color=auto", "--", "--count"] =
      .ok misleading := by
  have writable : misleading.IsWritable := by
    constructor
    · decide
    · decide
    · rintro word ⟨⟩
      decide
    · rintro number ⟨⟩
      decide
  let front : List Choice := [.query "", .quiet]
  let back : List Choice := [.count, .verbose, .limit 18446744073709551615,
    .config "--query=a b", .inputFormat .jsonl, .verbose, .color .auto]
  have placed : (front ++ back).Perm (misleading.settings fun _ => true).options := by decide
  exact (read_written writable (fun _ => true) placed (by decide) (.inl (by decide))).1

end Invocation

end TopicSieve
