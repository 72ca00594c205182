import TopicSieve.Proofs.Json.Reading

/-!
What reading a JSON text says about the text. Nothing of a value depends on where it stands or on
what comes behind it. Main statements: a string that is read spells what it is read as, and a number
that is read once is read the same wherever it stands.
-/

namespace TopicSieve.Json

theorem Yields.eq {α : Type} {outcome : Except Stop (α × Cursor)} {value other : α} {back : Text}
    {after : Cursor} (yields : Yields outcome value back)
    (outcomeEq : outcome = .ok (other, after)) : other = value ∧ after.rest = back := by
  obtain ⟨_, rfl, afterEq⟩ := yields
  obtain ⟨rfl, rfl⟩ := Prod.mk.inj (Except.ok.inj outcomeEq)
  exact ⟨rfl, afterEq⟩

section

variable {cursor after : Cursor} {digits source text back : Text} {char : Char}

/-! Strings -/

theorem HexDigits.code_lt {code : Nat} (isCode : HexDigits digits code) : code < 0x10000 := by
  have digit_lt {digit : Char} {value : Nat} (isDigit : Text.hexValue? digit = some value) :
      value < 16 := by
    unfold Text.hexValue? at isDigit
    simp only [Char.le_def, UInt32.le_iff_toNat_le, Char.toNat_val] at isDigit
    have nineEq : ('9' : Char).toNat = 57 := rfl
    have lowerEq : ('f' : Char).toNat = 102 := rfl
    have upperEq : ('F' : Char).toNat = 70 := rfl
    have zeroEq : ('0' : Char).toNat = 48 := rfl
    have firstLowerEq : ('a' : Char).toNat = 97 := rfl
    have firstUpperEq : ('A' : Char).toNat = 65 := rfl
    split at isDigit
    · cases isDigit
      omega
    · split at isDigit
      · cases isDigit
        omega
      · split at isDigit
        · cases isDigit
          omega
        · contradiction
  cases isCode with
  | digits first second third fourth =>
      have firstLt := digit_lt first
      have secondLt := digit_lt second
      have thirdLt := digit_lt third
      have fourthLt := digit_lt fourth
      omega

theorem expectInPair_ok (passed : expectInPair char cursor = .ok after) :
    cursor.rest = char :: after.rest := by
  cases restEq : cursor.rest with
  | nil =>
      rw [expectInPair, Cursor.next?, restEq] at passed
      contradiction
  | cons next rest =>
      rw [expectInPair, Cursor.next?_of_cons restEq] at passed
      simp only at passed
      split at passed
      · next same =>
          cases passed
          rw [same, Cursor.rest_drop_one restEq]
      · contradiction

theorem IsString.second_escape (isString : IsString source)
    (restEq : source ++ '"' :: back = '\\' :: 'u' :: text) :
    ∃ digits code rest, source = '\\' :: 'u' :: (digits ++ rest) ∧ HexDigits digits code ∧
      IsString rest ∧ text = digits ++ (rest ++ '"' :: back) := by
  cases isString with
  | nil => simp at restEq
  | plain _ notBackslash _ _ =>
      obtain ⟨same, _⟩ := List.cons.inj restEq
      exact absurd same notBackslash
  | letter known _ =>
      obtain ⟨rfl, _⟩ := List.cons.inj (List.cons.inj restEq).2
      contradiction
  | code isCode isRest =>
      have textEq := (List.cons.inj (List.cons.inj restEq).2).2
      exact ⟨_, _, _, rfl, isCode, isRest, textEq.symm.trans (List.append_assoc _ _ _)⟩

theorem readUnicode_ok {code : Nat} (isCode : HexDigits digits code) (isString : IsString source)
    (restEq : cursor.rest = digits ++ (source ++ '"' :: back))
    (escapeRead : readUnicode cursor = .ok (char, after)) :
    ∃ rest, IsString rest ∧ after.rest = rest ++ '"' :: back ∧
      ∀ text, Spells rest text → Spells ('\\' :: 'u' :: (digits ++ source)) (char :: text) := by
  obtain ⟨afterFirst, firstRead, firstEq⟩ := readHex_digits isCode restEq
  have bound := isCode.code_lt
  rw [readUnicode, firstRead] at escapeRead
  simp only [bind, Except.bind] at escapeRead
  by_cases isLow : isLowSurrogate code = true
  · rw [if_pos isLow] at escapeRead
    contradiction
  rw [if_neg isLow] at escapeRead
  by_cases isHigh : isHighSurrogate code = true
  · rw [if_pos isHigh] at escapeRead
    obtain ⟨afterBackslash, backslashPassed, pairRead⟩ := exists_of_bind escapeRead
    obtain ⟨afterLetter, letterPassed, secondRead⟩ := exists_of_bind pairRead
    have pairEq : source ++ '"' :: back = '\\' :: 'u' :: afterLetter.rest := by
      rw [← firstEq, expectInPair_ok backslashPassed, expectInPair_ok letterPassed]
    obtain ⟨second, low, rest, rfl, isSecond, isRest, secondEq⟩ := isString.second_escape pairEq
    obtain ⟨afterSecond, lowRead, afterEq⟩ := readHex_digits isSecond secondEq
    rw [lowRead] at secondRead
    simp only at secondRead
    split at secondRead
    · next inLow =>
        obtain ⟨charEq, rfl⟩ := Prod.mk.inj (Except.ok.inj secondRead)
        have valid : (0x10000 + (code - 0xD800) * 0x400 + (low - 0xDC00)).isValidChar := by
          simp only [isLowSurrogate, isHighSurrogate, Bool.and_eq_true, decide_eq_true_eq]
            at inLow isHigh
          simp only [Nat.isValidChar]
          omega
        have value : char.toNat = 0x10000 + (code - 0xD800) * 0x400 + (low - 0xDC00) := by
          rw [← charEq, Text.toNat_ofNat valid]
        exact ⟨rest, isRest, afterEq, fun text spells =>
          .pair isCode isSecond isHigh inLow value spells⟩
    · contradiction
  · rw [if_neg isHigh] at escapeRead
    cases escapeRead
    have valid : code.isValidChar := by
      simp only [isLowSurrogate, isHighSurrogate, Bool.and_eq_true, decide_eq_true_eq]
        at isLow isHigh
      rw [Nat.isValidChar]
      omega
    rw [← Text.toNat_ofNat valid] at isCode
    exact ⟨source, isString, firstEq, fun text spells => .code isCode spells⟩

theorem readStringFrom_escape_ok {steps : Nat} (restEq : cursor.rest = '\\' :: source)
    (stringRead : readStringFrom (steps + 1) cursor = .ok (text, after)) :
    ∃ char afterEscape tail, readEscape (cursor.drop 1) = .ok (char, afterEscape) ∧
      readStringFrom steps afterEscape = .ok (tail, after) ∧ text = char :: tail := by
  rw [readStringFrom, Cursor.next?_of_cons restEq] at stringRead
  obtain ⟨⟨char, afterEscape⟩, escapeRead, restRead⟩ := exists_of_bind stringRead
  obtain ⟨⟨tail, final⟩, tailRead, resultEq⟩ := exists_of_bind restRead
  cases resultEq
  exact ⟨char, afterEscape, tail, escapeRead, tailRead, rfl⟩

theorem readStringFrom_ok {steps : Nat} (isString : IsString source)
    (restEq : cursor.rest = source ++ '"' :: back)
    (stringRead : readStringFrom steps cursor = .ok (text, after)) :
    Spells source text ∧ after.rest = back := by
  induction steps generalizing cursor source text with
  | zero => contradiction
  | succ steps ih =>
      cases isString with
      | nil =>
          rw [readStringFrom, Cursor.next?_of_cons restEq] at stringRead
          cases stringRead
          exact ⟨.nil, Cursor.rest_drop_one restEq⟩
      | @plain char source notQuote notBackslash printable isRest =>
          rw [readStringFrom, Cursor.next?_of_cons restEq] at stringRead
          simp only [if_neg notQuote, if_neg notBackslash, if_neg (Nat.not_lt.mpr printable)]
            at stringRead
          obtain ⟨⟨tail, final⟩, tailRead, resultEq⟩ := exists_of_bind stringRead
          cases resultEq
          obtain ⟨spells, afterEq⟩ := ih isRest (Cursor.rest_drop_one restEq) tailRead
          exact ⟨.plain notQuote notBackslash printable spells, afterEq⟩
      | letter known isRest =>
          obtain ⟨char, afterEscape, tail, escapeRead, tailRead, rfl⟩ :=
            readStringFrom_escape_ok restEq stringRead
          have letterRead := readEscape_letter known (Cursor.rest_drop_one restEq)
          obtain ⟨rfl, afterEscapeEq⟩ := letterRead.eq escapeRead
          obtain ⟨spells, afterEq⟩ := ih isRest afterEscapeEq tailRead
          exact ⟨.letter known spells, afterEq⟩
      | @code digits source code isCode isRest =>
          obtain ⟨char, afterEscape, tail, escapeRead, tailRead, rfl⟩ :=
            readStringFrom_escape_ok restEq stringRead
          have letterEq : (cursor.drop 1).rest = 'u' :: (digits ++ (source ++ '"' :: back)) := by
            rw [Cursor.rest_drop_one restEq]
            simp
          rw [readEscape_unicode letterEq] at escapeRead
          obtain ⟨rest, isLater, afterEscapeEq, spellsAll⟩ :=
            readUnicode_ok isCode isRest (Cursor.rest_drop_one letterEq) escapeRead
          obtain ⟨spells, afterEq⟩ := ih isLater afterEscapeEq tailRead
          exact ⟨spellsAll tail spells, afterEq⟩

/-- A string that is read spells the text that it is read as. -/
theorem readString_ok (isString : IsString source) (restEq : cursor.rest = source ++ '"' :: back)
    (stringRead : readString cursor = .ok (text, after)) :
    Spells source text ∧ after.rest = back :=
  readStringFrom_ok isString restEq stringRead

theorem Spells.unique {other : Text} (spells : Spells source text)
    (spellsOther : Spells source other) : text = other := by
  obtain ⟨after, readEq, _⟩ :=
    @readString_spelled (Cursor.start (source ++ ['"'])) source text [] spells rfl
  exact ((readString_spelled spellsOther rfl).eq readEq).1

end

/-- What is read from a text somewhere is read from the other text wherever that one stands, and
takes all of it. -/
structure ReadsAlike {α : Type} (read : Cursor → Except Stop (α × Cursor)) (text other : Text) :
    Prop where
  again : ∀ {cursor after : Cursor} {back : Text} {value : α}, cursor.rest = text ++ back →
    EndsValue back → read cursor = .ok (value, after) → after.rest = back ∧
      ∀ {place : Cursor} {behind : Text}, place.rest = other ++ behind → EndsValue behind →
        Yields (read place) value behind

namespace ReadsAlike

variable {α β : Type} {read : Cursor → Except Stop (α × Cursor)} {text other more : Text}

theorem of_yields (value : α) (yields : ∀ {cursor : Cursor} {back : Text},
    cursor.rest = text ++ back → EndsValue back → Yields (read cursor) value back) :
    ReadsAlike read text text := by
  constructor
  intro cursor after back result restEq ends readEq
  obtain ⟨rfl, afterEq⟩ := (yields restEq ends).eq readEq
  exact ⟨afterEq, yields⟩

theorem of_stops (stops : ∀ {cursor after : Cursor} {back : Text} {value : α},
    cursor.rest = text ++ back → EndsValue back → read cursor ≠ .ok (value, after)) :
    ReadsAlike read text other :=
  ⟨fun restEq ends readEq => absurd readEq (stops restEq ends)⟩

theorem of_step {next : Cursor → Except Stop (α × Cursor)} (more : Text)
    (step : ∀ {cursor : Cursor} {back : Text}, cursor.rest = text ++ back → EndsValue back →
      ∃ after : Cursor, after.rest = more ++ back ∧ read cursor = next after)
    (alike : ReadsAlike next more more) : ReadsAlike read text text := by
  constructor
  intro cursor after back value restEq ends readEq
  obtain ⟨between, betweenEq, stepEq⟩ := step restEq ends
  rw [stepEq] at readEq
  obtain ⟨afterEq, again⟩ := alike.again betweenEq ends readEq
  refine ⟨afterEq, fun placeEq placeEnds => ?_⟩
  obtain ⟨place, placeBetween, placeStep⟩ := step placeEq placeEnds
  rw [placeStep]
  exact again placeBetween placeEnds

theorem of_bind {whole : Cursor → Except Stop (β × Cursor)}
    {next : α × Cursor → Except Stop (β × Cursor)} (alike : ReadsAlike read text other)
    (wholeEq : ∀ cursor, whole cursor = read cursor >>= next)
    (nextAlike : ∀ value, ReadsAlike (fun after => next (value, after)) [] []) :
    ReadsAlike whole text other := by
  constructor
  intro cursor after back result restEq ends wholeOk
  rw [wholeEq] at wholeOk
  obtain ⟨⟨value, between⟩, readEq, nextEq⟩ := exists_of_bind wholeOk
  obtain ⟨betweenEq, again⟩ := alike.again restEq ends readEq
  obtain ⟨afterEq, nextAgain⟩ := (nextAlike value).again betweenEq ends nextEq
  refine ⟨afterEq, fun placeEq placeEnds => ?_⟩
  obtain ⟨placeBetween, placeRead, placeRest⟩ := again placeEq placeEnds
  obtain ⟨final, finalEq, finalRest⟩ := nextAgain placeRest placeEnds
  refine ⟨final, ?_, finalRest⟩
  rw [wholeEq, placeRead]
  exact finalEq

theorem pure (value : α) : ReadsAlike (fun cursor => .ok (value, cursor)) [] [] :=
  of_yields value fun restEq _ => ⟨_, rfl, restEq⟩

theorem stopAt (cause : Cause) :
    ReadsAlike (fun cursor => (stopAt cursor cause : Except Stop (α × Cursor))) [] [] :=
  of_stops fun _ _ => nofun

end ReadsAlike

/-! Numbers -/

section

variable (negative : Bool) (significand : Nat) (exponent : Int) {digits part sign : Text}

theorem readsAlike_float :
    ReadsAlike (fun cursor => floatAt cursor negative significand exponent) [] [] := by
  unfold floatAt
  split
  · exact .pure _
  · exact .stopAt _

theorem readsAlike_integer :
    ReadsAlike (fun cursor => integerAt cursor negative significand) [] [] := by
  unfold integerAt
  split
  · exact .pure _
  · split
    · exact readsAlike_float true significand 0
    · exact .pure _

def shifted (exponent : Int) (sign digits : Text) : Int :=
  if sign != ['-'] then exponent + (absorb maxExponent 0 digits).1
  else exponent - (absorb maxExponent 0 digits).1

theorem readExponent_digits {cursor : Cursor} {letter : Char} {back : Text}
    (isSign : sign = [] ∨ sign = ['+'] ∨ sign = ['-']) (isDigits : IsDigits digits)
    (ends : EndsValue back) (restEq : cursor.rest = (letter :: (sign ++ digits)) ++ back) :
    ∃ start : Cursor, start.rest = digits ++ back ∧
      readExponent negative significand exponent cursor =
        if (absorb maxExponent 0 digits).2.isEmpty then
          floatAt (start.drop digits.length) negative significand (shifted exponent sign digits)
        else if significand ≠ 0 ∧ (sign != ['-']) = true then
          stopAt (start.drop (digits.length - (absorb maxExponent 0 digits).2.length))
            .numberOutOfRange
        else .ok (.float negative .zero, start.drop digits.length) := by
  rw [List.cons_append, List.append_assoc] at restEq
  obtain ⟨start, startEq, digitsEq, upwardEq⟩ := exists_afterSign isSign isDigits restEq
  obtain ⟨first, rest, firstEq, digit⟩ := head_digits isDigits
  have peekEq : start.peek? = some first := by
    rw [Cursor.peek?, digitsEq, firstEq]
    rfl
  refine ⟨start, digitsEq, ?_⟩
  simp only [readExponent, startEq, upwardEq, peekEq, digit, if_true, shifted,
    takeWhile_digits isDigits digitsEq ends.notDigit]

theorem readsAlike_exponent {letter : Char} (isSign : sign = [] ∨ sign = ['+'] ∨ sign = ['-'])
    (isDigits : IsDigits digits) :
    ReadsAlike (readExponent negative significand exponent) (letter :: (sign ++ digits))
      (letter :: (sign ++ digits)) := by
  have readEq {cursor : Cursor} {back : Text} (restEq : cursor.rest = _ ++ back)
      (ends : EndsValue back) :=
    @readExponent_digits negative significand exponent _ _ cursor letter _ isSign isDigits ends
      restEq
  by_cases fits : (absorb maxExponent 0 digits).2.isEmpty = true
  · refine .of_step [] (fun restEq ends => ?_)
      (readsAlike_float negative significand (shifted exponent sign digits))
    obtain ⟨start, startEq, outcome⟩ := readEq restEq ends
    rw [if_pos fits] at outcome
    exact ⟨_, Cursor.rest_drop_length startEq, outcome⟩
  by_cases beyond : significand ≠ 0 ∧ (sign != ['-']) = true
  · refine .of_stops fun restEq ends readOk => ?_
    obtain ⟨start, _, outcome⟩ := readEq restEq ends
    rw [if_neg fits, if_pos beyond, readOk] at outcome
    contradiction
  · refine .of_step [] (fun restEq ends => ?_) (.pure (.float negative .zero))
    obtain ⟨start, startEq, outcome⟩ := readEq restEq ends
    rw [if_neg fits, if_neg beyond] at outcome
    exact ⟨_, Cursor.rest_drop_length startEq, outcome⟩

theorem readsAlike_scale (isExponent : IsExponent part) :
    ReadsAlike (readScale negative significand exponent) part part := by
  cases isExponent with
  | none =>
      refine .of_step [] (fun {cursor back} restEq ends => ⟨cursor, restEq, ?_⟩)
        (readsAlike_float negative significand exponent)
      exact if_neg (not_exponentLetter ends restEq)
  | digits isLetter isSign isDigits =>
      refine .of_step _ (fun {cursor back} restEq ends => ⟨cursor, restEq, ?_⟩)
        (readsAlike_exponent negative significand exponent isSign isDigits)
      exact if_pos (exponentLetter isLetter restEq)

theorem readsAlike_fraction (isDigits : IsDigits digits) (isExponent : IsExponent part) :
    ReadsAlike (readFraction negative significand exponent) ('.' :: digits ++ part)
      ('.' :: digits ++ part) := by
  let absorbed := absorb maxSignificand significand digits
  refine .of_step part (fun {cursor back} restEq ends => ?_) (readsAlike_scale negative absorbed.1
    (exponent - (digits.length - absorbed.2.length : Nat)) isExponent)
  rw [List.append_assoc] at restEq
  have digitsEq : (cursor.drop 1).rest = digits ++ (part ++ back) := Cursor.rest_drop_one restEq
  have following := notDigit_exponent isExponent ends
  have taken := takeWhile_digits isDigits digitsEq fun next isNext => (following next isNext).1
  refine ⟨_, Cursor.rest_drop_length digitsEq, ?_⟩
  simp only [readFraction, taken, isEmpty_digits isDigits, Bool.false_eq_true, if_false, absorbed]

def readAfterWhole (excess : Text) (cursor : Cursor) : Except Stop (JsonNumber × Cursor) :=
  if cursor.peek? = some '.' then readFraction negative significand excess.length cursor
  else if cursor.peek? = some 'e' ∨ cursor.peek? = some 'E' then
    readExponent negative significand excess.length cursor
  else if excess.isEmpty then integerAt cursor negative significand
  else floatAt cursor negative significand excess.length

theorem readsAlike_afterWhole (excess : Text) {fraction : Text} (isFraction : IsFraction fraction)
    (isExponent : IsExponent part) :
    ReadsAlike (readAfterWhole negative significand excess) (fraction ++ part)
      (fraction ++ part) := by
  cases isFraction with
  | digits isDigits =>
      refine .of_step _ (fun {cursor back} restEq _ => ⟨cursor, restEq, ?_⟩)
        (readsAlike_fraction negative significand excess.length isDigits isExponent)
      exact if_pos (Cursor.peek?_of_cons restEq)
  | none =>
      have noPoint {cursor : Cursor} {back : Text} (restEq : cursor.rest = part ++ back)
          (ends : EndsValue back) : cursor.peek? ≠ some '.' := by
        rw [Cursor.peek?, restEq]
        exact fun isPoint => (notDigit_exponent isExponent ends '.' isPoint).2 rfl
      cases isExponent with
      | digits isLetter isSign isDigits =>
          refine .of_step _ (fun {cursor back} restEq ends => ⟨cursor, restEq, ?_⟩)
            (readsAlike_exponent negative significand excess.length isSign isDigits)
          rw [readAfterWhole, if_neg (noPoint restEq ends),
            if_pos (exponentLetter isLetter restEq)]
      | none =>
          cases empty : excess.isEmpty with
          | true =>
              refine .of_step [] (fun {cursor back} restEq ends => ⟨cursor, restEq, ?_⟩)
                (readsAlike_integer negative significand)
              rw [readAfterWhole, if_neg (noPoint restEq ends),
                if_neg (not_exponentLetter ends restEq), if_pos empty]
          | false =>
              refine .of_step [] (fun {cursor back} restEq ends => ⟨cursor, restEq, ?_⟩)
                (readsAlike_float negative significand excess.length)
              rw [readAfterWhole, if_neg (noPoint restEq ends),
                if_neg (not_exponentLetter ends restEq), empty, if_neg Bool.false_ne_true]

theorem readsAlike_unsigned {whole fraction : Text} (isWhole : IsDigits whole)
    (noZeros : whole.head? = some '0' → whole.length = 1) (isFraction : IsFraction fraction)
    (isExponent : IsExponent part) :
    ReadsAlike (readUnsigned negative) (whole ++ (fraction ++ part))
      (whole ++ (fraction ++ part)) := by
  let absorbed := absorb maxSignificand 0 whole
  refine .of_step (fraction ++ part) (fun {cursor back} restEq ends => ?_)
    (readsAlike_afterWhole negative absorbed.1 absorbed.2 isFraction isExponent)
  rw [List.append_assoc, List.append_assoc] at restEq
  obtain ⟨first, rest, firstEq, digit⟩ := head_digits isWhole
  have peekEq : cursor.peek? = some first := by
    rw [Cursor.peek?, restEq, firstEq]
    rfl
  have noLeadingZero : ¬ (first = '0' ∧ 1 < whole.length) := by
    rintro ⟨rfl, long⟩
    have single := noZeros (by rw [firstEq]; rfl)
    omega
  have taken := takeWhile_digits isWhole restEq (notDigit_fraction isFraction isExponent ends)
  refine ⟨_, (Cursor.rest_drop_length restEq).trans (List.append_assoc _ _ _).symm, ?_⟩
  simp only [readUnsigned, peekEq, digit, Bool.not_true, Bool.false_eq_true, if_false, taken,
    if_neg noLeadingZero, readAfterWhole, absorbed]

theorem readsAlike_number {text : Text} (isNumber : IsNumber text) :
    ReadsAlike readNumber text text := by
  obtain ⟨isSign, isWhole, noZeros, isFraction, isExponent⟩ := isNumber
  next sign whole fraction exponent =>
    rcases isSign with rfl | rfl
    · refine .of_step (whole ++ (fraction ++ exponent))
        (fun {cursor back} restEq _ => ⟨cursor, restEq, if_neg ?_⟩)
        (readsAlike_unsigned false isWhole noZeros isFraction isExponent)
      obtain ⟨first, rest, firstEq, digit⟩ := head_digits isWhole
      rw [Cursor.peek?, restEq, firstEq]
      exact fun isMinus => ne_of_isDigit digit (by decide) (Option.some.inj isMinus)
    · refine .of_step (whole ++ (fraction ++ exponent))
        (fun {cursor back} restEq _ => ⟨cursor.drop 1, ?_, if_pos ?_⟩)
        (readsAlike_unsigned true isWhole noZeros isFraction isExponent)
      · exact Cursor.rest_drop_one restEq
      · exact Cursor.peek?_of_cons restEq

end

end TopicSieve.Json
