import TopicSieve.Console.Arguments
import TopicSieve.Proofs.Text.Cutting
import TopicSieve.Proofs.Text.Digits

/-!
How a command line is read, one argument at a time. Main statement: the line of a counting scan gives
the scan that it spells, for every path that is no option, every query and every limit that fits.
-/

namespace TopicSieve

theorem Settings.number_ofNat {number : Nat} (fits : number < twoTo 64) :
    Settings.number (Text.ofNat number) = .ok number := by
  have unsigned : (Text.ofNat number).head? ≠ some '+' := Text.head?_ofNat_ne (by decide) number
  have nonempty : (Text.ofNat number).isEmpty = false := by
    rw [List.isEmpty_eq_false_iff]
    exact Nat.toDigits_ne_nil
  have digits : (Text.ofNat number).any (fun char => !Text.isDigit char) = false := by
    rw [List.any_eq_false]
    intro char member
    simp [Text.isDigit, Text.digitValue?_of_isDigit (Text.isDigit_of_mem_ofNat member)]
  have small : decide (twoTo 64 ≤ number) = false := by simpa using fits
  simp [Settings.number, unsigned, nonempty, digits, Text.decimalValue_ofNat, small]

theorem Settings.give_limit {settings : Settings} (fresh : settings.limit = none) {number : Nat}
    (fits : number < twoTo 64) :
    settings.give .limit (Text.ofNat number) = .ok { settings with limit := some number } := by
  rw [Settings.give, number_ofNat fits, fresh]
  rfl

namespace Progress

variable {level : ArgumentLevel} {progress next : Progress} {argument : Text}

theorem take_of_operand (operand : argument.head? ≠ some '-') :
    progress.take level argument =
      if progress.afterDashes then progress.takeWord level argument
      else
        match progress.pending with
        | some ⟨parameter, none⟩ =>
            .ok { progress with pending := some ⟨parameter, some argument⟩ }
        | _ => progress.takeWord level argument := by
  unfold take
  congr 1
  split
  · simp at operand
  · simp at operand
  · simp at operand
  · rfl

theorem settle_of_give {settings settled : Settings} {parameter : Parameter} {value : Text}
    (given : settings.give parameter value = .ok settled) (afterDashes : Bool) :
    settle ⟨settings, some ⟨parameter, some value⟩, afterDashes⟩ =
      .ok ⟨settled, none, afterDashes⟩ := by
  simp only [settle, given]
  rfl

theorem readLevel_of_option (noCommand : level.isCommand argument = false)
    (taken : progress.take level argument = .ok next) (rest : List Text) :
    progress.readLevel level (argument :: rest) = next.readLevel level rest := by
  rw [readLevel, noCommand, Bool.and_false, if_neg Bool.false_ne_true, taken]
  rfl

theorem readLevel_of_take {name : CommandName}
    (taken : progress.take (.behind name) argument = .ok next) (rest : List Text) :
    progress.readLevel (.behind name) (argument :: rest) = next.readLevel (.behind name) rest :=
  readLevel_of_option rfl taken rest

end Progress

/-- `scan path --count --query=query`, and `--limit limit` if there is one. -/
def countArguments (path query : Text) (limit : Option Nat) : List Text :=
  "scan" :: path :: "--count" :: ("--query=" ++ query) ::
    match limit with
    | none => []
    | some limit => ["--limit", Text.ofNat limit]

def countInvocation (path query : Text) (limit : Option Nat) : Invocation where
  config := none
  query := some query
  color := .auto
  verbose := 0
  quiet := false
  command := .scan path .lines ⟨false, limit, true⟩

def countSettings (path query : Text) : Settings :=
  { Settings.empty with input := some path, query := some query, count := true }

variable {path : Text}

theorem readLevel_count (operand : path.head? ≠ some '-') (nonempty : path ≠ []) (query : Text)
    (rest : List Text) :
    Progress.start.readLevel (.behind .scan)
        (path :: "--count" :: ("--query=" ++ query) :: rest) =
      Progress.readLevel (.behind .scan) ⟨countSettings path query, none, false⟩ rest := by
  obtain ⟨first, more, rfl⟩ := List.exists_cons_of_ne_nil nonempty
  have path : Progress.start.take (.behind .scan) (first :: more) =
      .ok ⟨.empty, some ⟨.input, some (first :: more)⟩, false⟩ := Progress.take_of_operand operand
  rw [Progress.readLevel_of_take path]
  -- The path is looked at when the next option is known to exist.
  have count : Progress.take (.behind .scan) ⟨.empty, some ⟨.input, some (first :: more)⟩, false⟩
      "--count" =
      .ok ⟨{ Settings.empty with input := some (first :: more), count := true }, none, false⟩ := rfl
  rw [Progress.readLevel_of_take count]
  exact Progress.readLevel_of_take rfl rest

theorem ofText?_text (name : CommandName) : CommandName.ofText? name.text = some name := by
  cases name <;> rfl

theorem read_of_levels {name : CommandName} {arguments rest : List Text}
    {before settledBefore behind settledBehind : Progress} {found : Option (Text × List Text)}
    (beforeEq : Progress.start.readLevel .beforeCommand arguments =
      .ok (before, some (name.text, rest)))
    (behindEq : Progress.start.readLevel (.behind name) rest = .ok (behind, found))
    (settledBeforeEq : before.settle = .ok settledBefore)
    (settledBehindEq : behind.settle = .ok settledBehind) (environment : Option Text) :
    Invocation.read environment arguments =
      .ok (Invocation.join environment settledBefore.settings settledBehind.settings name) := by
  simp only [Invocation.read, beforeEq, behindEq, settledBeforeEq, settledBehindEq, ofText?_text,
    bind, Except.bind]

theorem read_of_behind (name : CommandName) {rest : List Text} {behind settled : Progress}
    {found : Option (Text × List Text)}
    (behindEq : Progress.start.readLevel (.behind name) rest = .ok (behind, found))
    (settledEq : behind.settle = .ok settled) (environment : Option Text) :
    Invocation.read environment (name.text :: rest) =
      .ok (Invocation.join environment .empty settled.settings name) := by
  have nothingBefore : Progress.start.readLevel .beforeCommand (name.text :: rest) =
      .ok (Progress.start, some (name.text, rest)) := by
    cases name <;> rfl
  exact read_of_levels nothingBefore behindEq rfl settledEq environment

theorem read_countArguments (operand : path.head? ≠ some '-') (nonempty : path ≠ [])
    (query : Text) {limit : Option Nat}
    (fits : ∀ number, limit = some number → number < twoTo 64) (environment : Option Text) :
    Invocation.read environment (countArguments path query limit) =
      .ok (countInvocation path query limit) := by
  cases limit with
  | none => exact read_of_behind .scan (readLevel_count operand nonempty query []) rfl environment
  | some number =>
      have digits : (Text.ofNat number).head? ≠ some '-' := Text.head?_ofNat_ne (by decide) number
      have awaits : Progress.take (.behind .scan) ⟨countSettings path query, none, false⟩ "--limit" =
          .ok ⟨countSettings path query, some ⟨.limit, none⟩, false⟩ := rfl
      have given : Progress.take (.behind .scan)
          ⟨countSettings path query, some ⟨.limit, none⟩, false⟩ (Text.ofNat number) =
          .ok ⟨countSettings path query, some ⟨.limit, some (Text.ofNat number)⟩, false⟩ :=
        Progress.take_of_operand digits
      have behind := readLevel_count operand nonempty query ["--limit", Text.ofNat number]
      rw [Progress.readLevel_of_take awaits, Progress.readLevel_of_take given] at behind
      have limited : (countSettings path query).give .limit (Text.ofNat number) =
          .ok { countSettings path query with limit := some number } :=
        Settings.give_limit rfl (fits number rfl)
      have settled := Progress.settle_of_give limited false
      exact read_of_behind .scan behind settled environment

end TopicSieve
