import TopicSieve.Proofs.Json.Composites
import TopicSieve.Proofs.Text.Digits

/-!
Integers, and lists and objects of strings, in JSON texts. Main statements: the digits of an integer
are read as that integer, and a list or an object of strings is read as the texts that they spell.
-/

namespace TopicSieve.Json

section

variable {cursor : Cursor} {gap back : Text}

/-! Integers -/

theorem le_foldl_digits (digits : Text) (value : Nat) :
    value ≤ digits.foldl (fun value digit => value * 10 + (Text.digitValue? digit).getD 0) value := by
  induction digits generalizing value with
  | nil => exact Nat.le_refl value
  | cons digit digits ih =>
      have step := ih (value * 10 + (Text.digitValue? digit).getD 0)
      rw [List.foldl_cons]
      omega

theorem absorb_of_le {bound : Nat} (digits : Text) (value : Nat)
    (fits : digits.foldl (fun value digit => value * 10 + (Text.digitValue? digit).getD 0) value ≤
      bound) :
    absorb bound value digits =
      (digits.foldl (fun value digit => value * 10 + (Text.digitValue? digit).getD 0) value,
        []) := by
  induction digits generalizing value with
  | nil => rfl
  | cons digit digits ih =>
      rw [List.foldl_cons] at fits ⊢
      have within := le_foldl_digits digits (value * 10 + (Text.digitValue? digit).getD 0)
      have notBeyond : ¬ bound < value * 10 + (Text.digitValue? digit).getD 0 := by omega
      simp only [absorb, if_neg notBeyond, ih _ fits]

theorem absorb_ofNat {bound number : Nat} (fits : number ≤ bound) :
    absorb bound 0 (Text.ofNat number) = (number, []) := by
  have valueEq := Text.decimalValue_ofNat number
  rw [Text.decimalValue] at valueEq
  rw [absorb_of_le _ 0 (by rw [valueEq]; exact fits), valueEq]

theorem isDigits_ofNat (number : Nat) : IsDigits (Text.ofNat number) :=
  ⟨Text.ofNat_ne_nil number, fun _ => Text.isDigit_ofNat⟩

theorem readUnsigned_ofNat (negative : Bool) {number : Nat} (fits : number ≤ maxSignificand)
    (ends : EndsValue back) (restEq : cursor.rest = Text.ofNat number ++ back) :
    ∃ after, readUnsigned negative cursor = integerAt after negative number ∧ after.rest = back := by
  have isDigits := isDigits_ofNat number
  obtain ⟨first, rest, firstEq, digit⟩ := head_digits isDigits
  have peekEq : cursor.peek? = some first := by
    rw [Cursor.peek?, restEq, firstEq]
    rfl
  have taken := takeWhile_digits isDigits restEq ends.notDigit
  have noLeadingZero : ¬ (first = '0' ∧ 1 < (Text.ofNat number).length) := by
    rintro ⟨rfl, long⟩
    have single := @Text.length_ofNat_of_head number (by rw [firstEq]; rfl)
    omega
  have afterEq := Cursor.rest_drop_length restEq
  have noFraction : (cursor.drop (Text.ofNat number).length).peek? ≠ some '.' := by
    rw [Cursor.peek?, afterEq]
    exact fun isPoint => (ends '.' isPoint).2.1 rfl
  have noExponent := not_exponentLetter ends afterEq
  refine ⟨cursor.drop (Text.ofNat number).length, ?_, afterEq⟩
  rw [readUnsigned, peekEq]
  simp only [digit, Bool.not_true, Bool.false_eq_true, if_false, taken, if_neg noLeadingZero,
    absorb_ofNat fits, if_neg noFraction, if_neg noExponent, List.isEmpty_nil, if_true]

theorem readNumber_ofInt {value : Int} (low : -(twoTo 63 : Int) ≤ value) (high : value < twoTo 64)
    (ends : EndsValue back) (restEq : cursor.rest = Text.ofInt value ++ back) :
    Yields (readNumber cursor) (.integer value) back := by
  have halfEq : (twoTo 63 : Int) = 9223372036854775808 := rfl
  have wholeEq : (twoTo 64 : Int) = 18446744073709551616 := rfl
  have boundEq : maxSignificand = 18446744073709551615 := rfl
  cases value with
  | ofNat number =>
      obtain ⟨after, readEq, afterEq⟩ := readUnsigned_ofNat false
        (by rw [Int.ofNat_eq_natCast] at high; omega : number ≤ maxSignificand) ends restEq
      obtain ⟨first, rest, firstEq, digit⟩ := head_digits (isDigits_ofNat number)
      have noSign : cursor.peek? ≠ some '-' := by
        rw [Cursor.peek?, restEq, Text.ofInt, firstEq]
        exact fun isMinus => ne_of_isDigit digit (by decide) (Option.some.inj isMinus)
      refine ⟨after, ?_, afterEq⟩
      rw [readNumber, if_neg noSign, readEq, integerAt]
      rfl
  | negSucc number =>
      have signEq : cursor.rest = '-' :: (Text.ofNat (number + 1) ++ back) := restEq
      obtain ⟨after, readEq, afterEq⟩ := readUnsigned_ofNat true
        (by omega : number + 1 ≤ maxSignificand) ends (Cursor.rest_drop_one signEq)
      have isInteger : ¬ (number + 1 = 0 ∨ twoTo 63 < number + 1) := by
        have halfNat : twoTo 63 = 9223372036854775808 := rfl
        omega
      refine ⟨after, ?_, afterEq⟩
      rw [readNumber, if_pos (Cursor.peek?_of_cons signEq), readEq, integerAt]
      simp only [Bool.not_true, Bool.false_eq_true, if_false, if_neg isInteger]
      rfl

theorem head_ofInt (value : Int) :
    ∃ first rest, Text.ofInt value = first :: rest ∧ (first = '-' ∨ Text.isDigit first = true) := by
  cases value with
  | ofNat number =>
      obtain ⟨first, rest, firstEq, digit⟩ := head_digits (isDigits_ofNat number)
      exact ⟨first, rest, firstEq, Or.inr digit⟩
  | negSucc number => exact ⟨'-', Text.ofNat (number + 1), rfl, Or.inl rfl⟩

/-! Lists of strings -/

def SpellsText (source text : Text) : Prop :=
  ∃ body, source = '"' :: (body ++ ['"']) ∧ Spells body text

inductive SpellsList : Text → List Text → Prop
  | nil {space : Text} : IsGap space → SpellsList ('[' :: (space ++ [']'])) []
  | items {items : List Padded} {names : List Text} : items ≠ [] →
      List.Forall₂ (fun item name => item.HasGaps ∧ SpellsText item.core name) items names →
      SpellsList ('[' :: (Text.join [','] (items.map Padded.text) ++ [']'])) names

theorem SpellsText.head {source text : Text} (spells : SpellsText source text) :
    ∃ first rest, source = first :: rest ∧ isSpace first = false ∧ first ≠ 'n' := by
  obtain ⟨body, rfl, _⟩ := spells
  exact ⟨_, _, rfl, by decide⟩

theorem SpellsList.head {source : Text} {names : List Text} (spells : SpellsList source names) :
    ∃ first rest, source = first :: rest ∧ isSpace first = false ∧ first ≠ 'n' := by
  cases spells with
  | nil => exact ⟨_, _, rfl, by decide⟩
  | items => exact ⟨_, _, rfl, by decide⟩

theorem readsAs_string {source text : Text} (spells : SpellsText source text) (depth : Nat) :
    ReadsAs depth source (string text) := by
  obtain ⟨body, rfl, spelled⟩ := spells
  refine ⟨⟨_, _, rfl, by decide⟩, fun {cursor gap back steps} isGap restEq _ enough => ?_⟩
  obtain ⟨steps, rfl⟩ := Nat.exists_eq_succ_of_ne_zero
    (by simp only [List.length_cons] at enough; omega : steps ≠ 0)
  have startEq : (skipSpace cursor).rest = '"' :: (body ++ '"' :: back) := by
    rw [rest_skipSpace isGap (by decide) restEq]
    simp
  obtain ⟨after, readEq, afterEq⟩ := readString_spelled spelled (Cursor.rest_drop_one startEq)
  refine ⟨after, ?_, afterEq⟩
  unfold readValueFrom
  simp only [Cursor.peek?_of_cons startEq, bind, Except.bind, readEq]

theorem readValue_strings {source : Text} {names : List Text} (spells : SpellsList source names)
    (depth : Nat) (isGap : IsGap gap) (restEq : cursor.rest = gap ++ (source ++ back)) :
    Yields (readValue (depth + 1) cursor) (array (names.map string)) back := by
  apply readValue_of_steps restEq
  intro steps enough
  cases spells with
  | nil isSpace => exact readValueFrom_list .nil isSpace isGap restEq enough
  | items _ spelled =>
      refine readValueFrom_list ?_ isGap_nil isGap restEq enough
      rw [List.forall₂_map_right_iff]
      exact spelled.imp fun _ _ itemSpelled =>
        ⟨itemSpelled.1, readsAs_string itemSpelled.2 depth⟩

/-! Objects of strings -/

structure SpellsMember (member : WrittenMember) (pair : Text × Text) : Prop where
  gaps : member.HasGaps
  name : Spells member.name pair.1
  value : SpellsText member.value.core pair.2

/-- An object of strings, and the names and texts that its members spell. -/
inductive SpellsObject : Text → List (Text × Text) → Prop
  | nil {space : Text} : IsGap space → SpellsObject ('\x7b' :: (space ++ ['\x7d'])) []
  | members {members : List WrittenMember} {pairs : List (Text × Text)} {space : Text} :
      members ≠ [] → List.Forall₂ SpellsMember members pairs → IsGap space →
      SpellsObject ('\x7b' :: (Text.join [','] (members.map WrittenMember.text) ++
        (space ++ ['\x7d']))) pairs

def stringMember (pair : Text × Text) : Text × Json := (pair.1, string pair.2)

theorem readValue_object {source : Text} {pairs : List (Text × Text)}
    (spells : SpellsObject source pairs) (depth : Nat) (isGap : IsGap gap)
    (restEq : cursor.rest = gap ++ (source ++ back)) :
    Yields (readValue (depth + 1) cursor) (object (pairs.map stringMember)) back := by
  apply readValue_of_steps restEq
  intro steps enough
  cases spells with
  | nil isSpace => exact readValueFrom_object .nil isSpace isGap restEq enough
  | members _ spelled isSpace =>
      refine readValueFrom_object ?_ isSpace isGap restEq enough
      rw [List.forall₂_map_right_iff]
      exact spelled.imp fun _ _ memberSpelled =>
        ⟨memberSpelled.gaps, memberSpelled.name, readsAs_string memberSpelled.value depth⟩

end

end TopicSieve.Json
