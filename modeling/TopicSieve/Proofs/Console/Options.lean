import Mathlib.Data.List.Pairwise
import TopicSieve.Proofs.Console.CommandLine

/-!
Options written with their values behind an equals sign, so that no value can be taken for an option
or for the command. Main statements: a part of a command line that holds such options sets what
they say, and their order does not matter.
-/

namespace TopicSieve

def ColorMode.name : ColorMode → Text
  | auto => "auto"
  | always => "always"
  | never => "never"

def OutputFormat.name : OutputFormat → Text
  | text => "text"
  | json => "json"

def InputFormat.name : InputFormat → Text
  | lines => "lines"
  | jsonl => "jsonl"

inductive Choice where
  | config (path : Text)
  | query (text : Text)
  | color (mode : ColorMode)
  | verbose
  | quiet
  | outputFormat (format : OutputFormat)
  | inputFormat (format : InputFormat)
  | step
  | limit (number : Nat)
  | count
  | topic (name : Text)
deriving Repr, DecidableEq

namespace Choice

def argument : Choice → Text
  | config path => "--config=" ++ path
  | query text => "--query=" ++ text
  | color mode => "--color=" ++ mode.name
  | verbose => "-v"
  | quiet => "--quiet"
  | outputFormat format => "--format=" ++ format.name
  | inputFormat format => "--format=" ++ format.name
  | step => "--step"
  | limit number => "--limit=" ++ Text.ofNat number
  | count => "--count"
  | topic name => "--topic=" ++ name

def parameter : Choice → Parameter
  | config _ => .config
  | query _ => .query
  | color _ => .color
  | verbose => .verbose
  | quiet => .quiet
  | outputFormat _ => .outputFormat
  | inputFormat _ => .inputFormat
  | step => .step
  | limit _ => .limit
  | count => .count
  | topic _ => .topic

def value : Choice → Text
  | config path => path
  | query text => text
  | color mode => mode.name
  | outputFormat format => format.name
  | inputFormat format => format.name
  | limit number => Text.ofNat number
  | topic name => name
  | verbose | quiet | step | count => []

def IsValid : Choice → Prop
  | config path => path ≠ []
  | limit number => number < twoTo 64
  | _ => True

/-- Both may stand in one part of a line. Only verbosity is given more than once. -/
def Compatible (left right : Choice) : Prop :=
  left.parameter = right.parameter → left.parameter = .verbose

instance : Std.Symm Compatible where
  symm _ _ compatible same := same.trans (compatible same.symm)

end Choice

namespace Settings

def add (settings : Settings) : Choice → Settings
  | .config path => { settings with config := some path }
  | .query text => { settings with query := some text }
  | .color mode => { settings with color := some mode }
  | .verbose => { settings with verbose := min mostVerbose (settings.verbose + 1) }
  | .quiet => { settings with quiet := true }
  | .outputFormat format => { settings with outputFormat := some format }
  | .inputFormat format => { settings with inputFormat := some format }
  | .step => { settings with step := true }
  | .limit number => { settings with limit := some number }
  | .count => { settings with count := true }
  | .topic name => { settings with topic := some name }

def addAll (settings : Settings) (choices : List Choice) : Settings := choices.foldl add settings

theorem addAll_append (settings : Settings) (front back : List Choice) :
    settings.addAll (front ++ back) = (settings.addAll front).addAll back := List.foldl_append

def IsFree (settings : Settings) : Parameter → Prop
  | .config => settings.config = none
  | .query => settings.query = none
  | .color => settings.color = none
  | .quiet => settings.quiet = false
  | .outputFormat => settings.outputFormat = none
  | .inputFormat => settings.inputFormat = none
  | .step => settings.step = false
  | .limit => settings.limit = none
  | .count => settings.count = false
  | .topic => settings.topic = none
  | .input => settings.input = none
  | .verbose | .help | .version => True

variable {settings : Settings} {choice : Choice}

theorem once_none {α : Type} {before : Option α} (free : before = none) (value : α) :
    once before (.ok value) = .ok (some value) := by
  rw [free]
  rfl

theorem onceFlag_false {before : Bool} (free : before = false) : onceFlag before = .ok true := by
  rw [free]
  rfl

theorem oneOf_color (mode : ColorMode) : oneOf colorValues mode.name = .ok mode := by
  cases mode <;> rfl

theorem oneOf_output (format : OutputFormat) : oneOf outputValues format.name = .ok format := by
  cases format <;> rfl

theorem oneOf_input (format : InputFormat) : oneOf inputValues format.name = .ok format := by
  cases format <;> rfl

theorem path_of_ne_nil {text : Text} (nonempty : text ≠ []) : path text = .ok text := by
  rw [path, if_neg]
  rwa [List.isEmpty_iff]

theorem give_choice (free : settings.IsFree choice.parameter) (valid : choice.IsValid) :
    settings.give choice.parameter choice.value = .ok (settings.add choice) := by
  cases choice with
  | verbose => rfl
  | limit number => exact give_limit free valid
  | config path =>
      simp only [give, Choice.parameter, Choice.value, path_of_ne_nil valid, once_none free]
      rfl
  | query text | topic text =>
      simp only [give, Choice.parameter, Choice.value, once_none free]
      rfl
  | color mode =>
      simp only [give, Choice.parameter, Choice.value, oneOf_color, once_none free]
      rfl
  | outputFormat format =>
      simp only [give, Choice.parameter, Choice.value, oneOf_output, once_none free]
      rfl
  | inputFormat format =>
      simp only [give, Choice.parameter, Choice.value, oneOf_input, once_none free]
      rfl
  | quiet | step | count =>
      simp only [give, Choice.parameter, onceFlag_false free]
      rfl

theorem isFree_empty (parameter : Parameter) : empty.IsFree parameter := by
  cases parameter <;> trivial

theorem isFree_add {parameter : Parameter} (free : settings.IsFree parameter)
    (other : choice.parameter = parameter → choice.parameter = .verbose) :
    (settings.add choice).IsFree parameter := by
  by_cases same : choice.parameter = parameter
  · rw [← same, other same]
    trivial
  · cases choice <;> cases parameter <;> first | exact free | exact absurd rfl same

theorem add_comm {left right : Choice} (compatible : left.Compatible right)
    (settings : Settings) :
    (settings.add left).add right = (settings.add right).add left := by
  by_cases same : left.parameter = right.parameter
  · have verbose : left.parameter = .verbose := compatible same
    rw [verbose] at same
    cases left <;> cases right <;> first | rfl | contradiction
  · cases left <;> cases right <;> first | rfl | exact absurd rfl same

theorem addAll_perm {choices others : List Choice} (compatible : choices.Pairwise Choice.Compatible)
    (reordered : choices.Perm others) (settings : Settings) :
    settings.addAll choices = settings.addAll others := by
  apply List.Perm.foldl_eq' reordered
  intro left leftMem right rightMem settings
  by_cases same : left = right
  · rw [same]
  · exact add_comm (compatible.forall leftMem rightMem same) settings

end Settings

namespace ArgumentLevel

def all : List ArgumentLevel := beforeCommand :: CommandName.all.map behind

theorem behind_mem_all (name : CommandName) : behind name ∈ all := by
  cases name <;> decide

theorem long?_of_mem {level : ArgumentLevel} (isLevel : level ∈ all) {parameter : Parameter}
    (known : parameter ∈ level.parameters) {name : Text} (long : parameter.long? = some name) :
    level.long? name = some parameter := by
  have distinct : ∀ level ∈ all, ∀ parameter ∈ level.parameters,
      parameter.long?.all fun name => level.long? name == some parameter := by decide
  have found := distinct level isLevel parameter known
  rw [long] at found
  exact eq_of_beq found

theorem short?_verbose {level : ArgumentLevel} (isLevel : level ∈ all) :
    level.short? 'v' = some .verbose := by
  have counted : ∀ level ∈ all, level.short? 'v' = some .verbose := by decide
  exact counted level isLevel

theorem isCommand_of_option (level : ArgumentLevel) (option : Text) :
    level.isCommand ('-' :: option) = false := Bool.and_false level.hasCommands

end ArgumentLevel

theorem Choice.argument_eq (choice : Choice) : ∃ option, choice.argument = '-' :: option := by
  cases choice <;> exact ⟨_, rfl⟩

namespace Progress

variable {level : ArgumentLevel} {settings : Settings} {choice : Choice}

theorem give_of_give {parameter : Parameter} {value : Text} {given : Settings}
    (givenEq : settings.give parameter value = .ok given) (afterDashes : Bool) :
    give ⟨settings, none, afterDashes⟩ parameter value = .ok ⟨given, none, afterDashes⟩ := by
  simp only [give, settle, givenEq, bind, Except.bind]

theorem takeLong_choice {name : Text} (found : level.long? name = some choice.parameter)
    (free : settings.IsFree choice.parameter) (valid : choice.IsValid) :
    takeLong level ⟨settings, none, false⟩ name
        (if choice.parameter.takesValue then some choice.value else none) =
      .ok ⟨settings.add choice, none, false⟩ := by
  have given := give_of_give (Settings.give_choice free valid) false
  rw [takeLong, found]
  cases takes : choice.parameter.takesValue with
  | true => simpa [takes] using given
  | false =>
      have noValue : choice.value = [] := by
        cases choice <;> first | rfl | contradiction
      rw [noValue] at given
      simpa [takes] using given

theorem take_argument (level : ArgumentLevel) (settings : Settings)
    (long : choice.parameter ≠ .verbose) :
    ∃ name, choice.parameter.long? = some name ∧
      take level ⟨settings, none, false⟩ choice.argument =
        takeLong level ⟨settings, none, false⟩ name
          (if choice.parameter.takesValue then some choice.value else none) := by
  cases choice <;> first | exact ⟨_, rfl, rfl⟩ | exact absurd rfl long

theorem take_choice (isLevel : level ∈ ArgumentLevel.all)
    (known : choice.parameter ∈ level.parameters)
    (free : settings.IsFree choice.parameter) (valid : choice.IsValid) :
    take level ⟨settings, none, false⟩ choice.argument =
      .ok ⟨settings.add choice, none, false⟩ := by
  by_cases isVerbose : choice.parameter = .verbose
  · obtain rfl : choice = .verbose := by
      cases choice <;> first | rfl | contradiction
    change takeShort level ⟨settings, none, false⟩ ['v'] = _
    rw [takeShort, ArgumentLevel.short?_verbose isLevel]
    rfl
  · obtain ⟨name, long, takenEq⟩ := take_argument level settings isVerbose
    rw [takenEq]
    exact takeLong_choice (ArgumentLevel.long?_of_mem isLevel known long) free valid

theorem readLevel_choice (isLevel : level ∈ ArgumentLevel.all)
    (known : choice.parameter ∈ level.parameters)
    (free : settings.IsFree choice.parameter) (valid : choice.IsValid) (rest : List Text) :
    readLevel level ⟨settings, none, false⟩ (choice.argument :: rest) =
      readLevel level ⟨settings.add choice, none, false⟩ rest := by
  have noCommand : level.isCommand choice.argument = false := by
    obtain ⟨option, argumentEq⟩ := choice.argument_eq
    rw [argumentEq]
    exact level.isCommand_of_option option
  exact readLevel_of_option noCommand (take_choice isLevel known free valid) rest

theorem readLevel_choices (isLevel : level ∈ ArgumentLevel.all) {choices : List Choice}
    (known : ∀ choice ∈ choices, choice.parameter ∈ level.parameters)
    (valid : ∀ choice ∈ choices, choice.IsValid)
    (free : ∀ choice ∈ choices, settings.IsFree choice.parameter)
    (compatible : choices.Pairwise Choice.Compatible) (rest : List Text) :
    readLevel level ⟨settings, none, false⟩ (choices.map Choice.argument ++ rest) =
      readLevel level ⟨settings.addAll choices, none, false⟩ rest := by
  induction choices generalizing settings with
  | nil => rfl
  | cons choice choices ih =>
      rw [List.forall_mem_cons] at known valid free
      rw [List.pairwise_cons] at compatible
      have freeAfter : ∀ later ∈ choices, (settings.add choice).IsFree later.parameter := by
        intro later laterMem
        exact Settings.isFree_add (free.2 later laterMem) (compatible.1 later laterMem)
      rw [List.map_cons, List.cons_append, readLevel_choice isLevel known.1 free.1 valid.1]
      exact ih known.2 valid.2 freeAfter compatible.2

end Progress

end TopicSieve
