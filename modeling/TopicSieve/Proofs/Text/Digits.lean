import TopicSieve.Number.Power
import TopicSieve.Text.Basic

/-!
Decimal digits. Main statement: the digits of a number stand for that number.
-/

namespace TopicSieve

namespace Text

theorem digitValue?_of_isDigit {char : Char} (digit : char.isDigit = true) :
    digitValue? char = some (char.toNat - '0'.toNat) := by
  have bounds : '0' ≤ char ∧ char ≤ '9' := by
    simp only [Char.isDigit, Bool.and_eq_true, decide_eq_true_eq] at digit
    exact digit
  rw [digitValue?, if_pos bounds]

theorem foldl_digits {digits : Text} (allDigits : ∀ char ∈ digits, char.isDigit = true)
    (value : Nat) :
    digits.foldl (fun value digit => value * 10 + (digitValue? digit).getD 0) value =
      Nat.ofDigitChars 10 digits value := by
  induction digits generalizing value with
  | nil => rfl
  | cons char rest ih =>
      obtain ⟨digit, restDigits⟩ := List.forall_mem_cons.mp allDigits
      rw [List.foldl_cons, digitValue?_of_isDigit digit, ih restDigits, Nat.ofDigitChars_cons,
        Nat.mul_comm]
      rfl

theorem isDigit_of_mem_ofNat {number : Nat} {char : Char} (member : char ∈ ofNat number) :
    char.isDigit = true :=
  Nat.isDigit_of_mem_toDigits (by decide) (by decide) member

theorem decimalValue_ofNat (number : Nat) : decimalValue (ofNat number) = number := by
  rw [decimalValue, foldl_digits (fun _ => isDigit_of_mem_ofNat), ofNat,
    Nat.ofDigitChars_ten_toDigits]

theorem not_mem_ofNat {char : Char} (notDigit : char.isDigit = false) (number : Nat) :
    char ∉ ofNat number := by
  intro member
  rw [isDigit_of_mem_ofNat member] at notDigit
  contradiction

theorem head?_ofNat_ne {char : Char} (notDigit : char.isDigit = false) (number : Nat) :
    (ofNat number).head? ≠ some char := by
  intro isHead
  exact not_mem_ofNat notDigit number (List.mem_of_head? isHead)

theorem isDigit_of_isDigit {char : Char} (digit : char.isDigit = true) : isDigit char = true := by
  rw [isDigit, digitValue?_of_isDigit digit]
  rfl

theorem isDigit_ofNat {number : Nat} {char : Char} (member : char ∈ ofNat number) :
    isDigit char = true :=
  isDigit_of_isDigit (isDigit_of_mem_ofNat member)

theorem ofNat_ne_nil (number : Nat) : ofNat number ≠ [] := Nat.toDigits_ne_nil

theorem head?_ofNat_ne_zero {number : Nat} (positive : 0 < number) :
    (ofNat number).head? ≠ some '0' := by
  induction number using Nat.strongRecOn with
  | ind number ih =>
      by_cases small : number < 10
      · have single : ∀ digit < 10, 0 < digit → [digit.digitChar].head? ≠ some '0' := by decide
        rw [ofNat, Nat.toDigits_of_lt_base small]
        exact single number small positive
      · have shorter := ih (number / 10) (by omega) (by omega)
        obtain ⟨first, rest, restEq⟩ := List.exists_cons_of_ne_nil (ofNat_ne_nil (number / 10))
        have numberEq : ofNat number = ofNat (number / 10) ++ [(number % 10).digitChar] :=
          Nat.toDigits_of_base_le (by decide) (by omega)
        rw [restEq] at shorter
        rwa [numberEq, restEq]

theorem length_ofNat_of_head {number : Nat} (zeroFirst : (ofNat number).head? = some '0') :
    (ofNat number).length = 1 := by
  have isZero : number = 0 := by
    apply Classical.byContradiction
    intro nonzero
    exact head?_ofNat_ne_zero (Nat.pos_of_ne_zero nonzero) zeroFirst
  rw [isZero]
  rfl

/-! Digits with leading zeros -/

theorem isDigit_padded {width number : Nat} {char : Char} (member : char ∈ padded width number) :
    isDigit char = true := by
  rw [padded] at member
  rcases List.mem_append.mp member with inZeros | inDigits
  · rw [List.eq_of_mem_replicate inZeros]
    rfl
  · exact isDigit_ofNat inDigits

theorem length_padded {width number : Nat} (positive : 0 < width) (fits : number < tenTo width) :
    (padded width number).length = width := by
  have short : (ofNat number).length ≤ width :=
    (Nat.length_toDigits_le_iff (by decide) positive).mpr fits
  simp only [padded, List.length_append, List.length_replicate]
  omega

theorem decimalValue_padded (width number : Nat) : decimalValue (padded width number) = number := by
  have zeros (count : Nat) : (List.replicate count '0').foldl
      (fun value digit => value * 10 + (digitValue? digit).getD 0) 0 = 0 := by
    induction count with
    | zero => rfl
    | succ count ih => exact ih
  rw [padded, decimalValue, List.foldl_append, zeros]
  exact decimalValue_ofNat number

theorem decimalValue_append (front back : Text) :
    decimalValue (front ++ back) = decimalValue front * tenTo back.length + decimalValue back := by
  have shift (digits : Text) (value : Nat) :
      digits.foldl (fun value digit => value * 10 + (digitValue? digit).getD 0) value =
        value * tenTo digits.length + decimalValue digits := by
    induction digits generalizing value with
    | nil => simp [decimalValue, tenTo]
    | cons digit digits ih =>
        have first := ih (0 * 10 + (digitValue? digit).getD 0)
        rw [decimalValue, List.foldl_cons, List.foldl_cons, first, ih, List.length_cons,
          tenTo_succ]
        generalize (digitValue? digit).getD 0 = digitValue
        rw [Nat.zero_mul, Nat.zero_add, Nat.add_mul, Nat.mul_assoc, Nat.mul_comm 10, Nat.add_assoc]
  rw [decimalValue, List.foldl_append]
  exact shift back (decimalValue front)

theorem decimalValue_cons (digit : Char) (digits : Text) :
    decimalValue (digit :: digits) =
      (digitValue? digit).getD 0 * tenTo digits.length + decimalValue digits := by
  have single : decimalValue [digit] = (digitValue? digit).getD 0 := by simp [decimalValue]
  have split := decimalValue_append [digit] digits
  rwa [List.singleton_append, single] at split

theorem decimalValue_lt {digits : Text} (areDigits : ∀ char ∈ digits, isDigit char = true) :
    decimalValue digits < tenTo digits.length := by
  induction digits with
  | nil => decide
  | cons digit digits ih =>
      rw [List.forall_mem_cons] at areDigits
      have bound : (digitValue? digit).getD 0 < 10 := by
        have isSome := areDigits.1
        rw [isDigit, digitValue?] at isSome
        rw [digitValue?]
        split at isSome
        · next bounds =>
            have high : digit.toNat ≤ '9'.toNat := bounds.2
            rw [if_pos bounds, Option.getD_some]
            have zeroEq : '0'.toNat = 48 := rfl
            have nineEq : '9'.toNat = 57 := rfl
            omega
        · contradiction
      have rest := ih areDigits.2
      rw [decimalValue_cons, List.length_cons, tenTo_succ]
      have step : (digitValue? digit).getD 0 * tenTo digits.length ≤ 9 * tenTo digits.length :=
        Nat.mul_le_mul_right _ (by omega)
      omega

end Text

end TopicSieve
