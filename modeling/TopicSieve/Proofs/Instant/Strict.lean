import TopicSieve.Proofs.Instant.Written

/-!
The strict reader of written instants, which takes fixed columns. Main statement: it too reads a
text that denotes an instant as that instant.
-/

namespace TopicSieve

namespace Instant

theorem readColumn_run {digits : Text} (areDigits : ∀ char ∈ digits, Text.isDigit char = true)
    (value : Nat) (back : Text) :
    readColumn digits.length value (digits ++ back) =
      .ok (value * tenTo digits.length + Text.decimalValue digits, back) := by
  induction digits generalizing value with
  | nil => simp [readColumn, tenTo, Text.decimalValue]
  | cons char rest ih =>
      obtain ⟨isDigit, restDigits⟩ := List.forall_mem_cons.mp areDigits
      obtain ⟨digit, digitEq⟩ := Option.isSome_iff_exists.mp isDigit
      rw [List.length_cons, List.cons_append, readColumn, Text.decimalValue_cons, digitEq]
      dsimp only
      rw [ih restDigits, tenTo_succ, Nat.add_mul, Nat.mul_assoc, Nat.mul_comm 10, Nat.add_assoc,
        Option.getD_some]

theorem readColumn_padded {width number : Nat} (positive : 0 < width) (fits : number < tenTo width)
    (back : Text) : readColumn width 0 (Text.padded width number ++ back) = .ok (number, back) := by
  have readEq := readColumn_run (fun _ => @Text.isDigit_padded width number _) 0 back
  rwa [Text.length_padded positive fits, Text.decimalValue_padded, Nat.zero_mul, Nat.zero_add]
    at readEq

theorem expect_cons (char : Char) (back : Text) : expect char (char :: back) = .ok back :=
  if_pos rfl

theorem readDateColumns_written {date : Date} (year : 0 ≤ date.year ∧ date.year ≤ 9999)
    (valid : date.isValid = true) (back : Text) :
    readDateColumns (Text.padded 4 date.year.natAbs ++ '-' :: (Text.padded 2 date.month ++
      '-' :: (Text.padded 2 date.day ++ back))) = .ok (date, back) := by
  obtain ⟨monthBounds, dayBounds⟩ := isValid_bounds valid
  have thousands : tenTo 4 = 10000 := rfl
  have hundred : tenTo 2 = 100 := rfl
  have yearFits : date.year.natAbs < tenTo 4 := by omega
  have monthFits : date.month < tenTo 2 := by omega
  have dayFits : date.day < tenTo 2 := by omega
  have yearEq : (date.year.natAbs : Int) = date.year := by omega
  simp only [readDateColumns, bind, Except.bind, readColumn_padded (by decide : 0 < 4) yearFits,
    readColumn_padded (by decide : 0 < 2) monthFits, readColumn_padded (by decide : 0 < 2) dayFits,
    expect_cons, yearEq, valid, if_true]

theorem readTimeColumns_written {time : TimeOfDay} {fraction back : Text}
    (valid : time.isValid = true) (isFraction : FractionText fraction time.nanos)
    (ends : ∀ next, back.head? = some next → Text.isDigit next = false ∧ next ≠ '.') :
    readTimeColumns (Text.padded 2 time.hour ++ ':' :: (Text.padded 2 time.minute ++
      ':' :: (Text.padded 2 time.second ++ (fraction ++ back)))) = .ok (time, back) := by
  have bounds := valid
  simp only [TimeOfDay.isValid, Bool.and_eq_true, decide_eq_true_eq] at bounds
  obtain ⟨⟨hourHigh, minuteHigh⟩, secondHigh⟩ := bounds
  have hundred : tenTo 2 = 100 := rfl
  have columnRead {number : Nat} (high : number ≤ 60) (back : Text) :
      readColumn 2 0 (Text.padded 2 number ++ back) = .ok (number, back) :=
    readColumn_padded (by decide) (by omega) back
  simp only [readTimeColumns, bind, Except.bind, columnRead (Nat.le_trans hourHigh (by decide)),
    columnRead (Nat.le_succ_of_le minuteHigh), columnRead secondHigh, expect_cons,
    readFraction_written isFraction ends, valid, if_true]

theorem TimeText.strictLength_le {parts : TimeText} (valid : parts.IsValid) :
    strictLength ≤ Text.byteLength parts.text := by
  obtain ⟨⟨yearLow, yearHigh⟩, dateValid, hourHigh, minuteHigh, secondHigh, _⟩ := valid
  obtain ⟨monthBounds, dayBounds⟩ := isValid_bounds dateValid
  have thousands : tenTo 4 = 10000 := rfl
  have hundred : tenTo 2 = 100 := rfl
  have yearLength : (Text.padded 4 parts.date.year.natAbs).length = 4 :=
    Text.length_padded (by decide) (by omega)
  have columnLength {number : Nat} (high : number ≤ 59) : (Text.padded 2 number).length = 2 :=
    Text.length_padded (by decide) (by omega)
  have enough : strictLength ≤ parts.text.length := by
    simp only [strictLength, TimeText.text, List.length_append, List.length_cons, yearLength,
      columnLength (Nat.le_trans monthBounds.2 (by decide)),
      columnLength (Nat.le_trans dayBounds.2 (by decide)),
      columnLength (Nat.le_trans hourHigh (by decide)), columnLength minuteHigh,
      columnLength secondHigh]
    omega
  exact Nat.le_trans enough (Text.length_le_byteLength parts.text)

/-- A text that denotes an instant is read as that instant. -/
theorem readStrict_of_denotes {text : Text} {instant : Instant} (denotes : Denotes text instant)
    (represented : isRepresented instant.date.year = true) : readStrict text = .ok instant := by
  obtain ⟨parts, offset, valid, rfl, isFraction, isZone, secondsEq⟩ := denotes
  have timeValid : (⟨parts.hour, parts.minute, parts.second, instant.nanos⟩ : TimeOfDay).isValid =
      true := by
    have bound := valid.second
    simp only [TimeOfDay.isValid, Bool.and_eq_true, decide_eq_true_eq]
    exact ⟨⟨valid.hour, valid.minute⟩, by omega⟩
  have timeRead := readTimeColumns_written timeValid isFraction isZone.ends
  have dividerRead (back : Text) : expectDivider (parts.divider :: back) = .ok back :=
    if_pos valid.divider
  have zoneRead : readOffset (expect ':') parts.zone = .ok (offset, []) :=
    readOffset_written (fun _ _ => expect_cons ':' _) isZone
  have long := Nat.not_lt.mpr (TimeText.strictLength_le valid)
  have writtenEq := ofWritten_written valid isZone secondsEq represented
  rw [TimeText.written] at writtenEq
  rw [readStrict, if_neg long]
  simp only [TimeText.text, bind, Except.bind, readDateColumns_written valid.year valid.date,
    dividerRead, timeRead, zoneRead, List.isEmpty_nil, Bool.not_true, Bool.false_eq_true, if_false,
    writtenEq]

/-! White space -/

theorem ZoneText.notBlank {zone : Text} {offset : Int} (written : ZoneText zone offset) {char : Char}
    (member : char ∈ zone) : Text.isBlank char = false := by
  have numeric {sign : Char} (notBlank : Text.isBlank sign = false) {hours minutes : Nat}
      (inside : char ∈ sign :: (Text.padded 2 hours ++ ':' :: Text.padded 2 minutes)) :
      Text.isBlank char = false := by
    rw [List.mem_cons, List.mem_append, List.mem_cons] at inside
    rcases inside with rfl | inHours | rfl | inMinutes
    · exact notBlank
    · exact isBlank_of_isDigit (Text.isDigit_padded inHours)
    · decide
    · exact isBlank_of_isDigit (Text.isDigit_padded inMinutes)
  cases written with
  | utc isLetter =>
      rw [List.mem_singleton.mp member]
      rcases isLetter with rfl | rfl <;> decide
  | ahead _ _ => exact numeric (by decide) member
  | behind _ _ => exact numeric (by decide) member

theorem Denotes.trimmed {text : Text} {instant : Instant} (denotes : Denotes text instant) :
    Text.Trimmed text := by
  obtain ⟨parts, offset, _, rfl, _, isZone, _⟩ := denotes
  have yearTrimmed : Text.Trimmed (Text.padded 4 parts.date.year.natAbs) :=
    Text.trimmed_of_notBlank fun _ member => isBlank_of_isDigit (Text.isDigit_padded member)
  have zoneTrimmed : Text.Trimmed parts.zone := Text.trimmed_of_notBlank fun _ => isZone.notBlank
  have yearNonempty : Text.padded 4 parts.date.year.natAbs ≠ [] := by
    intro isNil
    exact Text.ofNat_ne_nil _ (List.append_eq_nil_iff.mp isNil).2
  have zoneNonempty : parts.zone ≠ [] := by
    obtain ⟨first, rest, zoneEq, _⟩ := isZone.head
    rw [zoneEq]
    exact List.cons_ne_nil first rest
  obtain ⟨middle, textEq⟩ : ∃ middle,
      parts.text = Text.padded 4 parts.date.year.natAbs ++ (middle ++ parts.zone) :=
    ⟨'-' :: (Text.padded 2 parts.date.month ++ '-' :: (Text.padded 2 parts.date.day ++
      parts.divider :: (Text.padded 2 parts.hour ++ ':' :: (Text.padded 2 parts.minute ++
        ':' :: (Text.padded 2 parts.second ++ parts.fraction))))), by simp [TimeText.text]⟩
  rw [textEq]
  exact yearTrimmed.around zoneTrimmed yearNonempty zoneNonempty middle

end Instant

end TopicSieve
