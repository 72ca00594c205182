import Mathlib.Data.Int.Init
import TopicSieve.Instant.Date

/-!
The calendar. Main statements: day numbers and dates of the calendar are the same thing, each found
from the other, and the date of a day number is the one that is met when the days are counted one by
one, forwards or backwards, from the first of January of 1970.
-/

namespace TopicSieve.Date

theorem daysBeforeYear_succ (year : Int) :
    daysBeforeYear (year + 1) = daysBeforeYear year + if isLeap year then 366 else 365 := by
  have leapIff : isLeap year = true ↔ year % 4 = 0 ∧ (year % 100 ≠ 0 ∨ year % 400 = 0) := by
    simp [isLeap]
  simp only [daysBeforeYear]
  by_cases leap : isLeap year = true
  · rw [if_pos leap]
    rw [leapIff] at leap
    omega
  · rw [if_neg leap]
    rw [leapIff] at leap
    omega

theorem yearOf_spec (days : Int) :
    daysBeforeYear (yearOf days) ≤ days ∧ days < daysBeforeYear (yearOf days + 1) := by
  simp only [yearOf]
  split
  · simp only [daysBeforeYear] at *
    omega
  split
  · simp only [daysBeforeYear] at *
    omega
  · omega

theorem monthAndDay_spec (month : Nat) (lengths : List Nat) (days : Nat)
    (within : days < daysOf lengths) :
    ∃ index length, lengths[index]? = some length ∧
      monthAndDay month lengths days = (month + index, days - daysOf (lengths.take index) + 1) ∧
      daysOf (lengths.take index) ≤ days ∧ days < daysOf (lengths.take index) + length := by
  induction lengths generalizing month days with
  | nil => exact absurd within (Nat.not_lt_zero days)
  | cons first rest ih =>
      have total : daysOf (first :: rest) = first + daysOf rest := rfl
      rw [monthAndDay]
      by_cases here : days < first
      · exact ⟨0, first, rfl, if_pos here, Nat.zero_le days, by
          rw [List.take_zero]
          exact (Nat.zero_add first).symm ▸ here⟩
      · obtain ⟨index, length, isLength, monthEq, low, high⟩ :=
          ih (month + 1) (days - first) (by omega)
        have front : daysOf ((first :: rest).take (index + 1)) =
          first + daysOf (rest.take index) := rfl
        refine ⟨index + 1, length, isLength, ?_, by omega, by omega⟩
        rw [if_neg here, monthEq, front]
        congr 1 <;> omega

theorem daysOf_monthLengths (year : Int) :
    (daysOf (monthLengths year) : Int) = daysBeforeYear (year + 1) - daysBeforeYear year := by
  rw [daysBeforeYear_succ, Int.add_comm (daysBeforeYear year), Int.add_sub_cancel, monthLengths]
  split <;> rfl

theorem ofDayNumber_spec (number : Int) :
    (ofDayNumber number).isValid = true ∧ (ofDayNumber number).dayNumber = number := by
  let days := number + epoch
  obtain ⟨low, high⟩ := yearOf_spec days
  have total := daysOf_monthLengths (yearOf days)
  obtain ⟨index, length, isLength, monthEq, dayLow, dayHigh⟩ :=
    monthAndDay_spec 1 (monthLengths (yearOf days)) (days - daysBeforeYear (yearOf days)).toNat
      (by omega)
  have dateEq : ofDayNumber number = ⟨yearOf days, 1 + index,
      (days - daysBeforeYear (yearOf days)).toNat -
        daysOf ((monthLengths (yearOf days)).take index) + 1⟩ := by
    simp only [ofDayNumber, days] at monthEq ⊢
    rw [monthEq]
  rw [dateEq]
  constructor
  · simp only [isValid, Nat.add_sub_cancel_left, isLength, Option.getD_some, Bool.and_eq_true,
      decide_eq_true_eq]
    omega
  · simp only [dayNumber, Nat.add_sub_cancel_left]
    omega

/-! The date of a day number -/

theorem isValid_iff (date : Date) :
    date.isValid = true ↔ 1 ≤ date.month ∧ 1 ≤ date.day ∧
      ∃ length, (monthLengths date.year)[date.month - 1]? = some length ∧ date.day ≤ length := by
  rw [isValid]
  cases isLength : (monthLengths date.year)[date.month - 1]? with
  | none =>
      simp only [Option.getD_none, Bool.and_eq_true, decide_eq_true_eq, reduceCtorEq, false_and,
        exists_false, and_false, iff_false]
      omega
  | some length => simp [and_assoc]

theorem daysOf_append (front back : List Nat) :
    daysOf (front ++ back) = daysOf front + daysOf back := List.sum_append_nat

theorem daysOf_take_succ {lengths : List Nat} {index length : Nat}
    (isLength : lengths[index]? = some length) :
    daysOf (lengths.take (index + 1)) = daysOf (lengths.take index) + length := by
  have takeEq : lengths.take (index + 1) = lengths.take index ++ [length] := by
    rw [List.take_add_one, isLength]
    rfl
  rw [takeEq, daysOf_append]
  rfl

theorem daysOf_take_le (lengths : List Nat) (index : Nat) :
    daysOf (lengths.take index) ≤ daysOf lengths := by
  have split := congrArg daysOf (List.take_append_drop index lengths)
  rw [daysOf_append] at split
  omega

theorem daysBeforeYear_le {year later : Int} (order : year ≤ later) :
    daysBeforeYear year ≤ daysBeforeYear later := by
  simp only [daysBeforeYear]
  omega

theorem yearOf_eq {days year : Int} (low : daysBeforeYear year ≤ days)
    (high : days < daysBeforeYear (year + 1)) : yearOf days = year := by
  obtain ⟨foundLow, foundHigh⟩ := yearOf_spec days
  by_cases early : yearOf days < year
  · have step := daysBeforeYear_le (by omega : yearOf days + 1 ≤ year)
    omega
  by_cases late : year < yearOf days
  · have step := daysBeforeYear_le (by omega : year + 1 ≤ yearOf days)
    omega
  · omega

theorem dayNumber_within {date : Date} (valid : date.isValid = true) :
    daysBeforeYear date.year ≤ date.dayNumber + epoch ∧
      date.dayNumber + epoch < daysBeforeYear (date.year + 1) := by
  obtain ⟨_, dayLow, length, isLength, dayHigh⟩ := (isValid_iff date).mp valid
  have total := daysOf_monthLengths date.year
  have month := daysOf_take_succ isLength
  have bound := daysOf_take_le (monthLengths date.year) (date.month - 1 + 1)
  simp only [dayNumber]
  omega

theorem monthAndDay_take (month : Nat) {lengths : List Nat} {index length day : Nat}
    (isLength : lengths[index]? = some length) (within : day < length) :
    monthAndDay month lengths (daysOf (lengths.take index) + day) = (month + index, day + 1) := by
  induction lengths generalizing month index with
  | nil => contradiction
  | cons first rest ih =>
      cases index with
      | zero =>
          rw [List.getElem?_cons_zero] at isLength
          cases isLength
          rw [List.take_zero, monthAndDay, if_pos] <;> simp [daysOf, within]
      | succ index =>
          rw [List.getElem?_cons_succ] at isLength
          have front : daysOf ((first :: rest).take (index + 1)) + day =
              first + (daysOf (rest.take index) + day) := Nat.add_assoc _ _ _
          rw [front, monthAndDay, if_neg (by omega), Nat.add_sub_cancel_left, ih (month + 1) isLength]
          congr 1
          omega

theorem ofDayNumber_dayNumber {date : Date} (valid : date.isValid = true) :
    ofDayNumber date.dayNumber = date := by
  obtain ⟨monthLow, dayLow, length, isLength, dayHigh⟩ := (isValid_iff date).mp valid
  obtain ⟨low, high⟩ := dayNumber_within valid
  have daysEq : (date.dayNumber + epoch - daysBeforeYear date.year).toNat =
      daysOf ((monthLengths date.year).take (date.month - 1)) + (date.day - 1) := by
    simp only [dayNumber]
    omega
  simp only [ofDayNumber, yearOf_eq low high, daysEq]
  rw [monthAndDay_take 1 isLength (by omega)]
  have monthEq : 1 + (date.month - 1) = date.month := by omega
  have dayEq : date.day - 1 + 1 = date.day := by omega
  simp only [monthEq, dayEq]

/-! The calendar day by day -/

def monthLength (date : Date) : Nat := ((monthLengths date.year)[date.month - 1]?).getD 0

def next (date : Date) : Date :=
  if date.day < date.monthLength then ⟨date.year, date.month, date.day + 1⟩
  else if date.month < 12 then ⟨date.year, date.month + 1, 1⟩
  else ⟨date.year + 1, 1, 1⟩

/-- `IsDay date number`: the date is met that many days after the first of January of 1970, or
before it if the number is negative. -/
inductive IsDay : Date → Int → Prop
  | epoch : IsDay ⟨1970, 1, 1⟩ 0
  | after {date : Date} {number : Int} : IsDay date number → IsDay date.next (number + 1)
  | before {date : Date} {number : Int} : date.isValid = true → IsDay date.next (number + 1) →
      IsDay date number

theorem exists_monthLength (year : Int) {index : Nat} (within : index < 12) :
    ∃ length, (monthLengths year)[index]? = some length ∧ 1 ≤ length := by
  have positive : ∀ length ∈ monthLengths year, 1 ≤ length := by
    simp only [monthLengths]
    split <;> decide
  have isLength := List.getElem?_eq_getElem (show index < (monthLengths year).length from within)
  exact ⟨_, isLength, positive _ (List.mem_of_getElem? isLength)⟩

theorem next_spec {date : Date} (valid : date.isValid = true) :
    date.next.isValid = true ∧ date.next.dayNumber = date.dayNumber + 1 := by
  obtain ⟨monthLow, dayLow, length, isLength, dayHigh⟩ := (isValid_iff date).mp valid
  have lengthEq : date.monthLength = length := by rw [monthLength, isLength, Option.getD_some]
  have count : date.month - 1 < 12 := (List.getElem?_eq_some_iff.mp isLength).1
  have month := daysOf_take_succ isLength
  have monthEq : date.month - 1 + 1 = date.month := by omega
  rw [monthEq] at month
  rw [next, lengthEq, isValid_iff]
  by_cases inMonth : date.day < length
  · rw [if_pos inMonth]
    refine ⟨⟨monthLow, Nat.le_add_left 1 _, length, isLength, inMonth⟩, ?_⟩
    simp only [dayNumber]
    omega
  rw [if_neg inMonth]
  by_cases inYear : date.month < 12
  · rw [if_pos inYear]
    obtain ⟨following, isFollowing, positive⟩ := exists_monthLength date.year inYear
    refine ⟨⟨Nat.le_add_left 1 _, Nat.le_refl 1, following, isFollowing, positive⟩, ?_⟩
    simp only [dayNumber, Nat.add_sub_cancel]
    omega
  · rw [if_neg inYear]
    obtain ⟨following, isFollowing, positive⟩ :=
      exists_monthLength (date.year + 1) (by decide : 0 < 12)
    refine ⟨⟨Nat.le_refl 1, Nat.le_refl 1, following, isFollowing, positive⟩, ?_⟩
    have december : date.month = 12 := by omega
    have wholeYear : (monthLengths date.year).take 12 = monthLengths date.year := rfl
    have total := daysOf_monthLengths date.year
    have none : daysOf ((monthLengths (date.year + 1)).take (1 - 1)) = 0 := rfl
    rw [december, wholeYear] at month
    simp only [dayNumber, december, none]
    omega

theorem ofDayNumber_succ (number : Int) :
    ofDayNumber (number + 1) = (ofDayNumber number).next := by
  obtain ⟨valid, numberEq⟩ := ofDayNumber_spec number
  obtain ⟨nextValid, nextEq⟩ := next_spec valid
  rw [← ofDayNumber_dayNumber nextValid, nextEq, numberEq]

theorem isDay_ofDayNumber (number : Int) : IsDay (ofDayNumber number) number := by
  induction number using Int.induction_on with
  | zero => exact .epoch
  | succ count ih =>
      rw [ofDayNumber_succ]
      exact .after ih
  | pred count ih =>
      apply IsDay.before (ofDayNumber_spec _).1
      rw [← ofDayNumber_succ, Int.sub_add_cancel]
      exact ih

theorem year_le_of_dayAfter {number other : Int} (near : other ≤ number + 1) :
    (ofDayNumber other).year ≤ (ofDayNumber number).year + 1 := by
  have yearEq (number : Int) : (ofDayNumber number).year = yearOf (number + epoch) := rfl
  rw [yearEq, yearEq]
  obtain ⟨_, high⟩ := yearOf_spec (number + epoch)
  obtain ⟨low, _⟩ := yearOf_spec (other + epoch)
  by_cases far : yearOf (number + epoch) + 1 + 1 ≤ yearOf (other + epoch)
  · have step := daysBeforeYear_le far
    have year := daysBeforeYear_succ (yearOf (number + epoch) + 1)
    have atLeast : (365 : Int) ≤ if isLeap (yearOf (number + epoch) + 1) then 366 else 365 := by
      split <;> omega
    omega
  · omega

end TopicSieve.Date
