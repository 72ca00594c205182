import TopicSieve.Instant.Printer
import TopicSieve.Instant.Reader
import TopicSieve.Proofs.Instant.Calendar
import TopicSieve.Proofs.Text.Cutting
import TopicSieve.Proofs.Text.Digits

/-!
Instants written as dates and times of day, as RFC 3339 has it. Main statements: such a text is read
as the instant that it denotes, and the text that is printed for an instant denotes that instant.
-/

namespace TopicSieve

namespace Instant

inductive FractionText : Text → Nat → Prop
  | none : FractionText [] 0
  | digits {digits : Text} {nanos : Nat} : digits ≠ [] →
      (∀ char ∈ digits, Text.isDigit char = true) →
      Text.decimalValue digits * tenTo 9 = nanos * tenTo digits.length →
      FractionText ('.' :: digits) nanos

inductive ZoneText : Text → Int → Prop
  | utc {letter : Char} : letter = 'Z' ∨ letter = 'z' → ZoneText [letter] 0
  | ahead {hours minutes : Nat} : hours ≤ 23 → minutes ≤ 59 →
      ZoneText ('+' :: (Text.padded 2 hours ++ ':' :: Text.padded 2 minutes))
        (3600 * hours + 60 * minutes)
  | behind {hours minutes : Nat} : hours ≤ 23 → minutes ≤ 59 →
      ZoneText ('-' :: (Text.padded 2 hours ++ ':' :: Text.padded 2 minutes))
        (-(3600 * hours + 60 * minutes))

structure TimeText where
  date : Date
  hour : Nat
  minute : Nat
  second : Nat
  divider : Char
  fraction : Text
  zone : Text

namespace TimeText

def text (parts : TimeText) : Text :=
  Text.padded 4 parts.date.year.natAbs ++ '-' :: (Text.padded 2 parts.date.month ++
    '-' :: (Text.padded 2 parts.date.day ++ parts.divider :: (Text.padded 2 parts.hour ++
      ':' :: (Text.padded 2 parts.minute ++ ':' :: (Text.padded 2 parts.second ++
        (parts.fraction ++ parts.zone))))))

structure IsValid (parts : TimeText) : Prop where
  year : 0 ≤ parts.date.year ∧ parts.date.year ≤ 9999
  date : parts.date.isValid = true
  hour : parts.hour ≤ 23
  minute : parts.minute ≤ 59
  second : parts.second ≤ 59
  divider : parts.divider = 'T' ∨ parts.divider = 't' ∨ parts.divider = ' '

end TimeText

/-- `Denotes text instant`: the text is a date with a time of day that comes to the instant. -/
def Denotes (text : Text) (instant : Instant) : Prop :=
  ∃ (parts : TimeText) (offset : Int), parts.IsValid ∧ text = parts.text ∧
    FractionText parts.fraction instant.nanos ∧ ZoneText parts.zone offset ∧
    instant.seconds = parts.date.dayNumber * 86400 +
      (3600 * parts.hour + 60 * parts.minute + parts.second : Nat) - offset

/-! Reading the parts -/

theorem isBlank_of_isDigit {char : Char} (digit : Text.isDigit char = true) :
    Text.isBlank char = false := by
  have digits : ∀ code < 58, 48 ≤ code → Text.isBlank (Char.ofNat code) = false := by decide
  rw [Text.isDigit, Text.digitValue?] at digit
  split at digit
  · next bounds =>
      have low : '0'.toNat ≤ char.toNat := bounds.1
      have high : char.toNat ≤ '9'.toNat := bounds.2
      have zeroEq : '0'.toNat = 48 := rfl
      have nineEq : '9'.toNat = 57 := rfl
      have notBlank := digits char.toNat (by omega) (by omega)
      rwa [Char.ofNat_toNat] at notBlank
  · contradiction

theorem trimStart_of_cons {first : Char} (notBlank : Text.isBlank first = false) (rest : Text) :
    Text.trimStart (first :: rest) = first :: rest := by
  rw [Text.trimStart, List.dropWhile_cons_of_neg]
  simp [notBlank]

section

variable {width number : Nat} {back : Text}

theorem padded_cons (positive : 0 < width) (fits : number < tenTo width) :
    ∃ first rest, Text.padded width number = first :: rest ∧ Text.isDigit first = true := by
  have lengthEq := Text.length_padded positive fits
  obtain ⟨first, rest, paddedEq⟩ := List.exists_cons_of_length_pos
    (by omega : 0 < (Text.padded width number).length)
  have member : first ∈ Text.padded width number := by
    rw [paddedEq]
    exact List.mem_cons_self
  exact ⟨first, rest, paddedEq, Text.isDigit_padded member⟩

theorem trimStart_padded (positive : 0 < width) (fits : number < tenTo width) :
    Text.trimStart (Text.padded width number ++ back) = Text.padded width number ++ back := by
  obtain ⟨first, rest, paddedEq, digit⟩ := padded_cons positive fits
  rw [paddedEq]
  exact trimStart_of_cons (isBlank_of_isDigit digit) _

theorem readDigits_run {digits : Text} (positive : 0 < width) (nonempty : digits ≠ [])
    (areDigits : ∀ char ∈ digits, Text.isDigit char = true)
    (ends : width ≤ digits.length ∨ ∀ next, back.head? = some next → Text.isDigit next = false)
    (small : Text.decimalValue (digits.take width) < twoTo 63) :
    readDigits (some width) (digits ++ back) =
      .ok (Text.decimalValue (digits.take width), digits.drop width ++ back) := by
  have runEq : ((digits ++ back).takeWhile Text.isDigit).take width = digits.take width := by
    rcases ends with long | ends
    · rw [List.takeWhile_append_of_pos areDigits, List.take_append_of_le_length long]
    · rw [Text.takeWhile_run areDigits ends]
  have leftEq : (digits ++ back).drop (digits.take width).length = digits.drop width ++ back := by
    have splitEq : digits ++ back = digits.take width ++ (digits.drop width ++ back) := by
      rw [← List.append_assoc, List.take_append_drop]
    rw [splitEq, List.drop_left]
  obtain ⟨first, rest, rfl⟩ := List.exists_cons_of_ne_nil nonempty
  obtain ⟨fewer, rfl⟩ := Nat.exists_eq_succ_of_ne_zero (by omega : width ≠ 0)
  have takenNonempty : ((first :: rest).take (fewer + 1)).isEmpty = false := rfl
  have textNonempty : (first :: rest ++ back).isEmpty = false := rfl
  simp only [readDigits, runEq, takenNonempty, textNonempty, Bool.false_eq_true, if_false,
    if_neg (Nat.not_le.mpr small), leftEq]

theorem readDigits_padded (positive : 0 < width) (fits : number < tenTo width)
    (small : number < twoTo 63) :
    readDigits (some width) (Text.padded width number ++ back) = .ok (number, back) := by
  have lengthEq := Text.length_padded positive fits
  obtain ⟨first, rest, paddedEq, _⟩ := padded_cons positive fits
  have takeEq : (Text.padded width number).take width = Text.padded width number :=
    List.take_of_length_le (by omega)
  have dropEq : (Text.padded width number).drop width = [] :=
    List.drop_of_length_le (by omega)
  have readEq := @readDigits_run width back (Text.padded width number) positive
    (by rw [paddedEq]; exact List.cons_ne_nil _ _) (fun _ => Text.isDigit_padded)
    (Or.inl (by omega)) (by rw [takeEq, Text.decimalValue_padded]; exact small)
  rwa [takeEq, dropEq, Text.decimalValue_padded, List.nil_append] at readEq

theorem readPart_padded {least greatest : Nat} (low : least ≤ number) (high : number ≤ greatest)
    (fits : number < 100) :
    readPart least greatest (Text.padded 2 number ++ back) = .ok (number, back) := by
  have small : number < twoTo 63 := by
    have limitEq : twoTo 63 = 9223372036854775808 := rfl
    omega
  have width : number < tenTo 2 := fits
  rw [readPart, trimStart_padded (by decide) width, readDigits_padded (by decide) width small]
  simp only [bind, Except.bind, inRange, if_pos (And.intro low high)]

theorem expectPart_cons {char : Char} (notBlank : Text.isBlank char = false) :
    expectPart char (char :: back) = .ok back := by
  rw [expectPart, trimStart_of_cons notBlank, expect, if_pos rfl]

-- Stated for any limit, so that the limit of the years is not computed with.
theorem year_within {outcome : Except TimeError (Nat × Text)} {limit year : Nat}
    (yearEq : outcome = .ok (year, back)) (within : (year : Int) < limit) :
    (do
      let (value, rest) ← outcome
      let (year, rest) ← .ok ((value : Int), rest)
      if -(limit : Int) ≤ year ∧ year < limit then .ok (year, rest)
      else .error .outOfRange : Except TimeError (Int × Text)) = .ok ((year : Int), back) := by
  rw [yearEq]
  exact if_pos ⟨by omega, within⟩

theorem readYear_padded (fits : number ≤ 9999) :
    readYear (Text.padded 4 number ++ back) = .ok ((number : Int), back) := by
  have within : number < tenTo 4 := by
    have thousandsEq : tenTo 4 = 10000 := rfl
    omega
  have small : number < twoTo 63 := by
    have limitEq : twoTo 63 = 9223372036854775808 := rfl
    omega
  have bounded : (number : Int) < twoTo 31 := by
    have limitEq : (twoTo 31 : Int) = 2147483648 := rfl
    omega
  have readEq := @readDigits_padded 4 number back (by decide) within small
  have trimEq := @trimStart_padded 4 number back (by decide) within
  obtain ⟨first, rest, paddedEq, digit⟩ := padded_cons (by decide : 0 < 4) within
  rw [paddedEq, List.cons_append] at readEq trimEq ⊢
  unfold readYear
  rw [trimEq]
  split
  · next equation =>
      rw [(List.cons.inj equation).1] at digit
      exact absurd digit (by decide)
  · next equation =>
      rw [(List.cons.inj equation).1] at digit
      exact absurd digit (by decide)
  · exact year_within readEq bounded

end

/-! Fractions -/

theorem fraction_take {digits : Text} {nanos : Nat}
    (areDigits : ∀ char ∈ digits, Text.isDigit char = true)
    (value : Text.decimalValue digits * tenTo 9 = nanos * tenTo digits.length) :
    Text.decimalValue (digits.take 9) * tenTo (9 - (digits.take 9).length) = nanos := by
  by_cases short : digits.length ≤ 9
  · have power : tenTo 9 = tenTo (9 - digits.length) * tenTo digits.length := by
      rw [← tenTo_add, Nat.sub_add_cancel short]
    rw [List.take_of_length_le short]
    rw [power, ← Nat.mul_assoc] at value
    exact Nat.eq_of_mul_eq_mul_right (tenTo_pos _) value
  · let front := digits.take 9
    let back := digits.drop 9
    have split : Text.decimalValue digits =
        Text.decimalValue front * tenTo back.length + Text.decimalValue back := by
      rw [← Text.decimalValue_append, List.take_append_drop]
    have frontLength : front.length = 9 := List.length_take_of_le (by omega)
    have lengthEq : digits.length = back.length + 9 := by
      have backLength : back.length = digits.length - 9 := List.length_drop
      omega
    have backSmall : Text.decimalValue back < tenTo back.length :=
      Text.decimalValue_lt fun char member => areDigits char (List.mem_of_mem_drop member)
    rw [lengthEq, tenTo_add, ← Nat.mul_assoc] at value
    have whole := Nat.eq_of_mul_eq_mul_right (tenTo_pos 9) value
    rw [split] at whole
    have positive := tenTo_pos back.length
    have quotient : Text.decimalValue front = nanos := by
      have divided := congrArg (· / tenTo back.length) whole
      simpa [Nat.mul_add_div, Nat.add_mul_div_right, Nat.mul_comm, Nat.div_eq_of_lt backSmall,
        positive] using divided
    have noneMissing : tenTo (9 - 9) = 1 := rfl
    rw [show (digits.take 9).length = 9 from frontLength, noneMissing, Nat.mul_one]
    exact quotient

theorem readFraction_written {fraction back : Text} {nanos : Nat}
    (written : FractionText fraction nanos)
    (ends : ∀ next, back.head? = some next → Text.isDigit next = false ∧ next ≠ '.') :
    readFraction (fraction ++ back) = .ok (nanos, back) := by
  cases written with
  | none =>
      rw [List.nil_append, readFraction]
      intro rest pointFirst
      exact (ends '.' (by rw [pointFirst]; rfl)).2 rfl
  | @digits digits _ nonempty areDigits value =>
      have small : Text.decimalValue (digits.take 9) < twoTo 63 := by
        have takenDigits : ∀ char ∈ digits.take 9, Text.isDigit char = true :=
          fun char member => areDigits char (List.mem_of_mem_take member)
        have bound := Text.decimalValue_lt takenDigits
        have power : tenTo (digits.take 9).length ≤ tenTo 9 :=
          Nat.pow_le_pow_right (by decide) (List.length_take_le 9 digits)
        have limitEq : twoTo 63 = 9223372036854775808 := rfl
        have billionEq : tenTo 9 = 1000000000 := rfl
        omega
      have notDigit := fun next isNext => (ends next isNext).1
      have readEq := @readDigits_run 9 back digits (by decide) nonempty areDigits
        (Or.inr notDigit) small
      have leftEq : (digits.drop 9 ++ back).dropWhile Text.isDigit = back :=
        Text.dropWhile_run (fun char member => areDigits char (List.mem_of_mem_drop member)) notDigit
      have countEq : (digits ++ back).length - (digits.drop 9 ++ back).length =
          (digits.take 9).length := by
        simp only [List.length_append, List.length_drop, List.length_take]
        omega
      rw [List.cons_append, readFraction, readNanos, readEq]
      simp only [bind, Except.bind, leftEq, countEq]
      rw [fraction_take areDigits value]

/-! Distances from UTC -/

theorem readTwoDigits_padded {tens number : Nat} (small : number < 100)
    (within : number / 10 ≤ tens) (back : Text) :
    readTwoDigits tens (Text.padded 2 number ++ back) = .ok (number, back) := by
  have values : ∀ number < 100, (Text.padded 2 number).map Text.digitValue? =
      [some (number / 10), some (number % 10)] := by decide
  obtain ⟨first, rest, paddedEq, firstEq, restEq⟩ := List.map_eq_cons_iff.mp (values number small)
  obtain ⟨second, none, rfl, secondEq, noneEq⟩ := List.map_eq_cons_iff.mp restEq
  rw [List.map_eq_nil_iff] at noneEq
  subst noneEq
  have enough : ¬ Text.byteLength (first :: second :: back) < 2 := by
    have long := Text.length_le_byteLength (first :: second :: back)
    simp only [List.length_cons] at long
    omega
  rw [paddedEq, List.cons_append, List.singleton_append, readTwoDigits, if_neg enough]
  simp only [firstEq, secondEq, if_neg (Nat.not_lt.mpr within)]
  congr 2
  omega

theorem skipColons_padded {minutes : Nat} (small : minutes ≤ 59) :
    skipColons (':' :: Text.padded 2 minutes) = .ok (Text.padded 2 minutes) := by
  obtain ⟨first, rest, paddedEq, digit⟩ := padded_cons (by decide : 0 < 2)
    (Nat.lt_of_le_of_lt small (by decide) : minutes < tenTo 2)
  have notColon : first ≠ ':' := by
    rintro rfl
    exact absurd digit (by decide)
  rw [paddedEq, skipColons, List.dropWhile_cons_of_pos (by decide), List.dropWhile_cons_of_neg]
  simp [notColon, isBlank_of_isDigit digit]

section

variable {hours minutes : Nat}

theorem readOffset_signed {separate : Text → Except TimeError Text} {sign : Char} {negative : Bool}
    (separated : separate (':' :: Text.padded 2 minutes) = .ok (Text.padded 2 minutes))
    (isSign : sign = '+' ∧ negative = false ∨ sign = '-' ∧ negative = true) (hoursFit : hours ≤ 23)
    (minutesFit : minutes ≤ 59) :
    readOffset separate (sign :: (Text.padded 2 hours ++ ':' :: Text.padded 2 minutes)) =
      .ok (if negative then -(3600 * hours + 60 * minutes) else 3600 * hours + 60 * minutes,
        []) := by
  have hoursRead := @readTwoDigits_padded 9 hours (by omega) (by omega)
    (':' :: Text.padded 2 minutes)
  have minutesRead := @readTwoDigits_padded 5 minutes (by omega) (by omega) []
  rw [List.append_nil] at minutesRead
  have signRead : readSign (sign :: (Text.padded 2 hours ++ ':' :: Text.padded 2 minutes)) =
      .ok (negative, Text.padded 2 hours ++ ':' :: Text.padded 2 minutes) := by
    rcases isSign with ⟨rfl, rfl⟩ | ⟨rfl, rfl⟩ <;> rfl
  rw [readOffset]
  · simp only [bind, Except.bind, signRead, hoursRead, separated, minutesRead]
  all_goals
    rintro rest equation
    rcases isSign with ⟨rfl, _⟩ | ⟨rfl, _⟩ <;> cases equation

theorem readOffset_written {separate : Text → Except TimeError Text} {zone : Text} {offset : Int}
    (separated : ∀ minutes ≤ 59,
      separate (':' :: Text.padded 2 minutes) = .ok (Text.padded 2 minutes))
    (written : ZoneText zone offset) : readOffset separate zone = .ok (offset, []) := by
  cases written with
  | utc isLetter => rcases isLetter with rfl | rfl <;> rfl
  | @ahead _ minutes hoursFit minutesFit =>
      exact readOffset_signed (separated minutes minutesFit) (Or.inl ⟨rfl, rfl⟩) hoursFit minutesFit
  | @behind _ minutes hoursFit minutesFit =>
      exact readOffset_signed (separated minutes minutesFit) (Or.inr ⟨rfl, rfl⟩) hoursFit minutesFit

theorem readZone_written {zone : Text} {offset : Int} (written : ZoneText zone offset) :
    readZone zone = .ok (offset, []) := by
  have noName : Text.sameAscii (zone.take 3) "utc" = false := by
    cases written with
    | utc isLetter => rcases isLetter with rfl | rfl <;> rfl
    | ahead _ _ => rfl
    | behind _ _ => rfl
  rw [readZone, noName]
  exact readOffset_written (fun _ => skipColons_padded) written

end

theorem ZoneText.head {zone : Text} {offset : Int} (written : ZoneText zone offset) :
    ∃ first rest, zone = first :: rest ∧ Text.isDigit first = false ∧ first ≠ '.' ∧
      Text.isBlank first = false := by
  cases written with
  | utc isLetter => rcases isLetter with rfl | rfl <;> exact ⟨_, _, rfl, by decide⟩
  | ahead _ _ => exact ⟨_, _, rfl, by decide⟩
  | behind _ _ => exact ⟨_, _, rfl, by decide⟩

theorem ZoneText.ends {zone : Text} {offset : Int} (written : ZoneText zone offset) :
    ∀ next, zone.head? = some next → Text.isDigit next = false ∧ next ≠ '.' := by
  obtain ⟨first, rest, rfl, notDigit, notPoint, _⟩ := written.head
  intro next isNext
  cases isNext
  exact ⟨notDigit, notPoint⟩

theorem ZoneText.natAbs_lt {zone : Text} {offset : Int} (written : ZoneText zone offset) :
    ¬ secondsPerDay ≤ (offset.natAbs : Int) := by
  have dayEq : secondsPerDay = 86400 := rfl
  cases written <;> omega

/-! The whole text -/

theorem isRepresented_of_bounds {year : Int} (bounds : -1 ≤ year ∧ year ≤ 10000) :
    isRepresented year = true := by
  have leastEq : leastYear = -262143 := rfl
  have greatestEq : greatestYear = 262142 := rfl
  rw [isRepresented, Bool.and_eq_true, decide_eq_true_iff, decide_eq_true_iff]
  omega

theorem isValid_bounds {date : Date} (valid : date.isValid = true) :
    (1 ≤ date.month ∧ date.month ≤ 12) ∧ 1 ≤ date.day ∧ date.day ≤ 31 := by
  obtain ⟨monthLow, dayLow, length, isLength, dayHigh⟩ := (Date.isValid_iff date).mp valid
  have lengths : ∀ length ∈ Date.monthLengths date.year, length ≤ 31 := by
    simp only [Date.monthLengths]
    split <;> decide
  have inList := lengths length (List.mem_of_getElem? isLength)
  obtain ⟨within, _⟩ := List.getElem?_eq_some_iff.mp isLength
  have count : (Date.monthLengths date.year).length = 12 := rfl
  omega

namespace TimeText

variable {parts : TimeText} {offset : Int} {nanos : Nat}

def written (parts : TimeText) (nanos : Nat) (offset : Int) : WrittenTime :=
  ⟨parts.date, ⟨parts.hour, parts.minute, parts.second, nanos⟩, offset⟩

theorem readWrittenLenient_text (valid : parts.IsValid)
    (isFraction : FractionText parts.fraction nanos) (isZone : ZoneText parts.zone offset) :
    readWrittenLenient parts.text = .ok (parts.written nanos offset, []) := by
  obtain ⟨⟨yearLow, yearHigh⟩, dateValid, hourHigh, minuteHigh, secondHigh, isDivider⟩ := valid
  obtain ⟨monthBounds, dayBounds⟩ := isValid_bounds dateValid
  obtain ⟨first, rest, zoneEq, _, _, notBlank⟩ := isZone.head
  have fractionRead := readFraction_written isFraction isZone.ends
  have zoneTrimmed : Text.trimStart parts.zone = parts.zone := by
    rw [zoneEq]
    exact trimStart_of_cons notBlank rest
  have dividerRead (back : Text) : expectDivider (parts.divider :: back) = .ok back :=
    if_pos isDivider
  have yearEq : (parts.date.year.natAbs : Int) = parts.date.year := by omega
  have yearRead (back : Text) :
      readYear (Text.padded 4 parts.date.year.natAbs ++ back) = .ok (parts.date.year, back) := by
    rw [readYear_padded (by omega), yearEq]
  have partRead {least greatest number : Nat} (low : least ≤ number) (high : number ≤ greatest)
      (fits : number < 100) (back : Text) :
      readPart least greatest (Text.padded 2 number ++ back) = .ok (number, back) :=
    readPart_padded low high fits
  have hyphenRead (back : Text) : expectPart '-' ('-' :: back) = .ok back :=
    expectPart_cons (by decide)
  have colonRead (back : Text) : expectPart ':' (':' :: back) = .ok back :=
    expectPart_cons (by decide)
  simp only [readWrittenLenient, TimeText.text, bind, Except.bind, yearRead, hyphenRead, colonRead,
    partRead monthBounds.1 monthBounds.2 (by omega), partRead dayBounds.1 dayBounds.2 (by omega),
    dividerRead, partRead (Nat.zero_le _) hourHigh (by omega),
    partRead (Nat.zero_le _) minuteHigh (by omega),
    partRead (Nat.zero_le _) (Nat.le_succ_of_le secondHigh) (by omega), fractionRead, zoneTrimmed,
    readZone_written isZone]
  rfl

end TimeText

theorem ofWritten_written {parts : TimeText} {offset : Int} {instant : Instant}
    (valid : parts.IsValid) (isZone : ZoneText parts.zone offset)
    (secondsEq : instant.seconds = parts.date.dayNumber * 86400 +
      (3600 * parts.hour + 60 * parts.minute + parts.second : Nat) - offset)
    (represented : isRepresented instant.date.year = true) :
    ofWritten (parts.written instant.nanos offset) = .ok instant := by
  have yearKept : isRepresented parts.date.year = true := by
    have bounds := valid.year
    exact isRepresented_of_bounds (by omega)
  have notLeap : ¬ parts.second = 60 := by
    have bound := valid.second
    omega
  have lastSecond : min parts.second 59 = parts.second := Nat.min_eq_left (by
    have bound := valid.second
    omega)
  have instantEq : parts.date.dayNumber * secondsPerDay +
      (3600 * (parts.hour : Int) + 60 * (parts.minute : Int) + (parts.second : Int)) - offset =
        instant.seconds := by
    rw [secondsEq, secondsPerDay]
    omega
  rw [ofWritten]
  simp only [TimeText.written, yearKept, valid.date, Bool.and_self, Bool.not_true,
    Bool.false_eq_true, if_false, isZone.natAbs_lt, notLeap, lastSecond, instantEq]
  exact if_pos represented

/-- A text that denotes an instant is read as that instant. -/
theorem readLenient_of_denotes {text : Text} {instant : Instant} (denotes : Denotes text instant)
    (represented : isRepresented instant.date.year = true) : readLenient text = .ok instant := by
  obtain ⟨parts, offset, valid, rfl, isFraction, isZone, secondsEq⟩ := denotes
  have writtenEq := ofWritten_written valid isZone secondsEq represented
  simp only [readLenient, bind, Except.bind, TimeText.readWrittenLenient_text valid isFraction isZone,
    writtenEq]
  rfl

/-! The texts that are printed for an instant -/

def fractionTo (places nanos : Nat) : Text :=
  if places = 0 then [] else '.' :: Text.padded places (nanos / tenTo (9 - places))

theorem fractionTo_spec {places nanos : Nat} (noLeap : nanos < nanosPerSecond) (few : places ≤ 9)
    (whole : nanos % tenTo (9 - places) = 0) : FractionText (fractionTo places nanos) nanos := by
  have largest : tenTo 9 = nanosPerSecond := rfl
  have power : tenTo 9 = tenTo places * tenTo (9 - places) := by
    rw [← tenTo_add, Nat.add_sub_cancel' few]
  have quotient : nanos / tenTo (9 - places) * tenTo (9 - places) = nanos :=
    Nat.div_mul_cancel (Nat.dvd_of_mod_eq_zero whole)
  rw [fractionTo]
  by_cases none : places = 0
  · have noneEq : nanos = 0 := by
      rw [none, Nat.sub_zero, largest, Nat.mod_eq_of_lt noLeap] at whole
      exact whole
    rw [if_pos none, noneEq]
    exact .none
  · have fits : nanos / tenTo (9 - places) < tenTo places := by
      rw [Nat.div_lt_iff_lt_mul (tenTo_pos _), ← power]
      exact noLeap
    have lengthEq := Text.length_padded (Nat.pos_of_ne_zero none) fits
    rw [if_neg none]
    apply FractionText.digits
    · apply List.ne_nil_of_length_pos
      omega
    · exact fun _ => Text.isDigit_padded
    · rw [Text.decimalValue_padded, lengthEq, power, Nat.mul_comm (tenTo places), ← Nat.mul_assoc,
        quotient]

theorem fractionText_spec {instant : Instant} (noLeap : instant.nanos < nanosPerSecond) :
    FractionText instant.fractionText instant.nanos := by
  have modEq : instant.nanos % nanosPerSecond = instant.nanos := Nat.mod_eq_of_lt noLeap
  simp only [fractionText, modEq]
  split
  · next isZero =>
      rw [isZero]
      exact .none
  split
  · next whole => exact @fractionTo_spec 3 _ noLeap (by decide) whole
  split
  · next whole => exact @fractionTo_spec 6 _ noLeap (by decide) whole
  · have single : tenTo (9 - 9) = 1 := rfl
    have spec := @fractionTo_spec 9 _ noLeap (by decide) (Nat.mod_one _)
    rwa [fractionTo, single, Nat.div_one] at spec

/-- The instant on a clock that is ahead of UTC by a number of seconds. -/
def shown (offset : Int) (instant : Instant) : Instant :=
  ⟨instant.seconds + offset, instant.nanos⟩

def textIn (offset : Int) (divider : Char) (fraction zone : Text) (instant : Instant) : Text :=
  (instant.shown offset).dateText ++
    divider :: ((instant.shown offset).clockText ++ (fraction ++ zone))

theorem denotes_textIn {instant : Instant} {offset : Int} {divider : Char} {fraction zone : Text}
    (noLeap : instant.nanos < nanosPerSecond)
    (year : 0 ≤ (instant.shown offset).date.year ∧ (instant.shown offset).date.year ≤ 9999)
    (isDivider : divider = 'T' ∨ divider = 't' ∨ divider = ' ')
    (isFraction : FractionText fraction instant.nanos) (isZone : ZoneText zone offset) :
    Denotes (instant.textIn offset divider fraction zone) instant := by
  let clock := instant.shown offset
  let second := clock.secondOfDay
  have dayLength : secondsPerDay = 86400 := rfl
  obtain ⟨dateValid, dayEq⟩ := Date.ofDayNumber_spec (clock.seconds / secondsPerDay)
  have dateDay : clock.date.dayNumber = clock.seconds / 86400 := dayEq
  have clockEq : clock.seconds = instant.seconds + offset := rfl
  have secondEq : (second : Int) = clock.seconds % 86400 := by
    simp only [second, secondOfDay, dayLength]
    omega
  have hour : second / 3600 ≤ 23 := by omega
  have minute : second / 60 % 60 ≤ 59 := by omega
  have inMinute : second % 60 ≤ 59 := by omega
  refine ⟨⟨clock.date, second / 3600, second / 60 % 60, second % 60, divider, fraction, zone⟩,
    offset, ⟨year, dateValid, hour, minute, inMinute, isDivider⟩, ?_, isFraction, isZone, ?_⟩
  · have noLeapSecond : ¬ nanosPerSecond ≤ (instant.shown offset).nanos := Nat.not_le.mpr noLeap
    simp only [textIn, dateText, clockText, yearText, TimeText.text, if_pos year,
      if_neg noLeapSecond, Nat.add_zero, List.append_assoc]
    rfl
  · simp only [dateDay]
    omega

theorem denotes_text {instant : Instant} (noLeap : instant.nanos < nanosPerSecond)
    (year : 0 ≤ instant.date.year ∧ instant.date.year ≤ 9999) : Denotes instant.text instant := by
  have shownEq : instant.shown 0 = instant := by rw [shown, Int.add_zero]
  have textEq : instant.text = instant.textIn 0 'T' instant.fractionText "+00:00" := by
    simp only [text, textIn, shownEq, List.append_assoc]
    rfl
  rw [textEq]
  apply denotes_textIn noLeap _ (Or.inl rfl) (fractionText_spec noLeap)
  · exact @ZoneText.ahead 0 0 (by decide) (by decide)
  · rw [shownEq]
    exact year

end Instant

end TopicSieve
