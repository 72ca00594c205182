import TopicSieve.Proofs.Json.Strings

/-!
The grammar of JSON values. Main statement: every value, whatever its spelling and however deep, is
passed over up to its end.
-/

namespace TopicSieve.Json

def IsGap (gap : Text) : Prop := ∀ char ∈ gap, isSpace char = true

theorem isGap_nil : IsGap [] := by simp [IsGap]

structure IsDigits (digits : Text) : Prop where
  nonempty : digits ≠ []
  digit : ∀ char ∈ digits, Text.isDigit char = true

inductive IsFraction : Text → Prop
  | none : IsFraction []
  | digits {digits} : IsDigits digits → IsFraction ('.' :: digits)

inductive IsExponent : Text → Prop
  | none : IsExponent []
  | digits {letter sign digits} : letter = 'e' ∨ letter = 'E' →
      sign = [] ∨ sign = ['+'] ∨ sign = ['-'] → IsDigits digits →
      IsExponent (letter :: (sign ++ digits))

inductive IsNumber : Text → Prop
  | parts {sign whole fraction exponent} : sign = [] ∨ sign = ['-'] → IsDigits whole →
      (whole.head? = some '0' → whole.length = 1) → IsFraction fraction → IsExponent exponent →
      IsNumber (sign ++ (whole ++ (fraction ++ exponent)))

structure Padded where
  front : Text
  core : Text
  back : Text

namespace Padded

def text (padded : Padded) : Text := padded.front ++ (padded.core ++ padded.back)

def HasGaps (padded : Padded) : Prop := IsGap padded.front ∧ IsGap padded.back

end Padded

structure WrittenMember where
  front : Text
  name : Text
  middle : Text
  value : Padded

namespace WrittenMember

def text (member : WrittenMember) : Text :=
  member.front ++ '"' :: (member.name ++ '"' :: (member.middle ++ ':' :: member.value.text))

def HasGaps (member : WrittenMember) : Prop :=
  IsGap member.front ∧ IsGap member.middle ∧ member.value.HasGaps

end WrittenMember

/-- The texts of JSON values. Surrogates in strings and the size of numbers do not matter. -/
inductive IsValue : Text → Prop
  | name {text : Text} : text = "null" ∨ text = "true" ∨ text = "false" → IsValue text
  | number {text} : IsNumber text → IsValue text
  | string {body} : IsString body → IsValue ('"' :: (body ++ ['"']))
  | emptyArray {gap} : IsGap gap → IsValue ('[' :: (gap ++ [']']))
  | array {items : List Padded} : items ≠ [] → (∀ item ∈ items, item.HasGaps) →
      (∀ item ∈ items, IsValue item.core) →
      IsValue ('[' :: (Text.join [','] (items.map Padded.text) ++ [']']))
  | emptyObject {gap} : IsGap gap → IsValue ('\x7b' :: (gap ++ ['\x7d']))
  | object {members : List WrittenMember} : members ≠ [] → (∀ member ∈ members, member.HasGaps) →
      (∀ member ∈ members, IsString member.name) →
      (∀ member ∈ members, IsValue member.value.core) →
      IsValue ('\x7b' :: (Text.join [','] (members.map WrittenMember.text) ++ ['\x7d']))

def EndsValue (back : Text) : Prop := ∀ next, back.head? = some next →
  Text.isDigit next = false ∧ next ≠ '.' ∧ next ≠ 'e' ∧ next ≠ 'E'

section

variable {cursor : Cursor} {gap back : Text}

theorem rest_skipSpace (isGap : IsGap gap) {first : Char} (notSpace : isSpace first = false)
    (restEq : cursor.rest = gap ++ first :: back) : (skipSpace cursor).rest = first :: back := by
  refine Cursor.rest_dropWhile_of_run restEq isGap ?_
  intro next isNext
  cases isNext
  exact notSpace

theorem endsValue_gap (isGap : IsGap gap) {first : Char}
    (ends : first = ',' ∨ first = ']' ∨ first = '\x7d') : EndsValue (gap ++ first :: back) := by
  intro next isNext
  cases gap with
  | nil =>
      cases isNext
      rcases ends with rfl | rfl | rfl <;> decide
  | cons space gap =>
      cases isNext
      have isSpaceChar := isGap next List.mem_cons_self
      simp only [isSpace, Bool.or_eq_true, beq_iff_eq] at isSpaceChar
      rcases isSpaceChar with ((rfl | rfl) | rfl) | rfl <;> decide

/-! Numbers -/

theorem takeWhile_digits {digits : Text} (isDigits : IsDigits digits)
    (restEq : cursor.rest = digits ++ back)
    (ends : ∀ next, back.head? = some next → Text.isDigit next = false) :
    cursor.takeWhile Text.isDigit = (digits, cursor.drop digits.length) :=
  Cursor.takeWhile_of_run restEq isDigits.digit ends

theorem isEmpty_digits {digits : Text} (isDigits : IsDigits digits) : digits.isEmpty = false := by
  obtain ⟨first, rest, rfl⟩ := List.exists_cons_of_ne_nil isDigits.nonempty
  rfl

theorem ne_of_isDigit {char other : Char} (digit : Text.isDigit char = true)
    (notDigit : Text.isDigit other = false) : char ≠ other := by
  rintro rfl
  rw [digit] at notDigit
  contradiction

theorem head_digits {digits : Text} (isDigits : IsDigits digits) :
    ∃ first rest, digits = first :: rest ∧ Text.isDigit first = true := by
  obtain ⟨first, rest, rfl⟩ := List.exists_cons_of_ne_nil isDigits.nonempty
  exact ⟨first, rest, rfl, isDigits.digit first List.mem_cons_self⟩

theorem EndsValue.notDigit (ends : EndsValue back) :
    ∀ next, back.head? = some next → Text.isDigit next = false := fun next isNext =>
  (ends next isNext).1

theorem exists_afterSign {letter : Char} {sign digits : Text}
    (isSign : sign = [] ∨ sign = ['+'] ∨ sign = ['-']) (isDigits : IsDigits digits)
    (restEq : cursor.rest = letter :: (sign ++ (digits ++ back))) :
    ∃ start,
      (if (cursor.drop 1).peek? == some '+' || (cursor.drop 1).peek? == some '-' then
        (cursor.drop 1).drop 1 else cursor.drop 1) = start ∧ start.rest = digits ++ back ∧
      ((cursor.drop 1).peek? != some '-') = (sign != ['-']) := by
  have signEq : (cursor.drop 1).rest = sign ++ (digits ++ back) := Cursor.rest_drop_one restEq
  obtain ⟨first, rest, firstEq, digit⟩ := head_digits isDigits
  rcases isSign with rfl | rfl | rfl
  · have notPlus : first ≠ '+' := ne_of_isDigit digit (by decide)
    have notMinus : first ≠ '-' := ne_of_isDigit digit (by decide)
    have peekEq : (cursor.drop 1).peek? = some first := by
      rw [Cursor.peek?, signEq, firstEq]
      rfl
    refine ⟨cursor.drop 1, by simp [peekEq, notPlus, notMinus], signEq, ?_⟩
    rw [peekEq]
    exact bne_iff_ne.mpr fun same => notMinus (Option.some.inj same)
  · rw [Cursor.peek?_of_cons signEq]
    exact ⟨_, rfl, Cursor.rest_drop_one signEq, rfl⟩
  · rw [Cursor.peek?_of_cons signEq]
    exact ⟨_, rfl, Cursor.rest_drop_one signEq, rfl⟩

theorem skipExponent_digits {letter : Char} {sign digits : Text}
    (isSign : sign = [] ∨ sign = ['+'] ∨ sign = ['-']) (isDigits : IsDigits digits)
    (ends : EndsValue back) (restEq : cursor.rest = letter :: (sign ++ (digits ++ back))) :
    Passes (skipExponent cursor) back := by
  obtain ⟨start, startEq, digitsEq, _⟩ := exists_afterSign isSign isDigits restEq
  refine ⟨start.drop digits.length, ?_, Cursor.rest_drop_length digitsEq⟩
  simp only [skipExponent, startEq, takeWhile_digits isDigits digitsEq ends.notDigit,
    isEmpty_digits isDigits, Bool.false_eq_true, if_false]

theorem notDigit_exponent {exponent : Text} (isExponent : IsExponent exponent)
    (ends : EndsValue back) :
    ∀ next, (exponent ++ back).head? = some next → Text.isDigit next = false ∧ next ≠ '.' := by
  intro next isNext
  cases isExponent with
  | none => exact ⟨(ends next isNext).1, (ends next isNext).2.1⟩
  | digits isLetter _ _ =>
      cases isNext
      rcases isLetter with rfl | rfl <;> decide

theorem notDigit_fraction {fraction exponent : Text} (isFraction : IsFraction fraction)
    (isExponent : IsExponent exponent) (ends : EndsValue back) :
    ∀ next, (fraction ++ (exponent ++ back)).head? = some next → Text.isDigit next = false := by
  intro next isNext
  cases isFraction with
  | none => exact (notDigit_exponent isExponent ends next isNext).1
  | digits _ =>
      cases isNext
      rfl

theorem not_exponentLetter (ends : EndsValue back) (restEq : cursor.rest = back) :
    ¬ (cursor.peek? = some 'e' ∨ cursor.peek? = some 'E') := by
  rw [Cursor.peek?, restEq]
  rintro (isLetter | isLetter)
  · exact (ends 'e' isLetter).2.2.1 rfl
  · exact (ends 'E' isLetter).2.2.2 rfl

theorem exponentLetter {letter : Char} (isLetter : letter = 'e' ∨ letter = 'E')
    (restEq : cursor.rest = letter :: back) :
    cursor.peek? = some 'e' ∨ cursor.peek? = some 'E' := by
  rw [Cursor.peek?_of_cons restEq, Option.some.injEq, Option.some.injEq]
  exact isLetter

theorem skipExponent_optional {exponent : Text} (isExponent : IsExponent exponent)
    (ends : EndsValue back) (restEq : cursor.rest = exponent ++ back) :
    Passes (if cursor.peek? = some 'e' ∨ cursor.peek? = some 'E' then skipExponent cursor
      else .ok cursor) back := by
  cases isExponent with
  | none => exact ⟨cursor, if_neg (not_exponentLetter ends restEq), restEq⟩
  | @digits letter sign digits isLetter isSign isDigits =>
      have letterEq : cursor.rest = letter :: (sign ++ (digits ++ back)) := by
        rw [restEq]
        simp
      rw [if_pos (exponentLetter isLetter letterEq)]
      exact skipExponent_digits isSign isDigits ends letterEq

theorem skipFraction_parts {fraction exponent : Text} (isFraction : IsFraction fraction)
    (isExponent : IsExponent exponent) (ends : EndsValue back)
    (restEq : cursor.rest = fraction ++ (exponent ++ back)) : Passes (skipFraction cursor) back := by
  have following := notDigit_exponent isExponent ends
  unfold skipFraction
  cases isFraction with
  | none =>
      rw [if_neg]
      · exact skipExponent_optional isExponent ends restEq
      · rw [Cursor.peek?, restEq]
        exact fun isPoint => (following '.' isPoint).2 rfl
  | @digits digits isDigits =>
      have digitsEq : (cursor.drop 1).rest = digits ++ (exponent ++ back) :=
        Cursor.rest_drop_one restEq
      have taken := takeWhile_digits isDigits digitsEq fun next isNext => (following next isNext).1
      rw [if_pos (Cursor.peek?_of_cons restEq)]
      simp only [taken, isEmpty_digits isDigits, Bool.false_eq_true, if_false]
      exact skipExponent_optional isExponent ends (Cursor.rest_drop_length digitsEq)

theorem skipNumber_number {text : Text} (isNumber : IsNumber text) (ends : EndsValue back)
    (restEq : cursor.rest = text ++ back) : Passes (skipNumber cursor) back := by
  obtain ⟨isSign, isWhole, noZeros, isFraction, isExponent⟩ := isNumber
  next sign whole fraction exponent =>
    obtain ⟨first, rest, firstEq, digit⟩ := head_digits isWhole
    obtain ⟨start, startEq, wholeEq⟩ : ∃ start,
        (if cursor.peek? = some '-' then cursor.drop 1 else cursor) = start ∧
          start.rest = whole ++ (fraction ++ (exponent ++ back)) := by
      simp only [List.append_assoc] at restEq
      rcases isSign with rfl | rfl
      · refine ⟨cursor, if_neg ?_, restEq⟩
        rw [Cursor.peek?, restEq, firstEq]
        exact fun isMinus => ne_of_isDigit digit (by decide) (Option.some.inj isMinus)
      · exact ⟨cursor.drop 1, if_pos (Cursor.peek?_of_cons restEq), Cursor.rest_drop_one restEq⟩
    have taken :=
      takeWhile_digits isWhole wholeEq (notDigit_fraction isFraction isExponent ends)
    have noLeadingZero : ¬ (start.peek? = some '0' ∧ 1 < whole.length) := by
      rintro ⟨isZero, long⟩
      rw [Cursor.peek?, wholeEq, firstEq] at isZero
      have single := noZeros (by rw [firstEq]; exact isZero)
      omega
    simp only [skipNumber, startEq, taken, isEmpty_digits isWhole, Bool.false_eq_true, if_false,
      if_neg noLeadingZero]
    exact skipFraction_parts isFraction isExponent ends (Cursor.rest_drop_length wholeEq)

/-! Values -/

theorem expectName_letters {letters : Text} (restEq : cursor.rest = letters ++ back) :
    Passes (expectName letters cursor) back := by
  induction letters generalizing cursor with
  | nil => exact ⟨cursor, rfl, restEq⟩
  | cons letter letters ih =>
      obtain ⟨after, passed, afterEq⟩ := ih (Cursor.rest_drop_one restEq)
      refine ⟨after, ?_, afterEq⟩
      rw [expectName, Cursor.next?_of_cons restEq]
      simp only [if_true, passed]

def Skippable (value : Text) : Prop :=
  ∀ {cursor : Cursor} {gap back : Text} {steps : Nat}, IsGap gap →
    cursor.rest = gap ++ (value ++ back) → EndsValue back → 2 * value.length ≤ steps →
    Passes (skipValueFrom steps cursor) back

theorem skippable_name {text : Text} (isName : text = "null" ∨ text = "true" ∨ text = "false") :
    Skippable text := by
  intro cursor gap back steps isGap restEq _ enough
  obtain ⟨steps, rfl⟩ : ∃ fewer, steps = fewer + 1 := by
    refine Nat.exists_eq_succ_of_ne_zero ?_
    rcases isName with rfl | rfl | rfl <;> simp at enough <;> omega
  rw [skipValueFrom]
  rcases isName with rfl | rfl | rfl
  all_goals
    have startEq := rest_skipSpace isGap (by decide) restEq
    simp only [Cursor.peek?_of_cons startEq]
    exact expectName_letters (Cursor.rest_drop_one startEq)

theorem skipValueFrom_number {first : Char} (steps : Nat)
    (peekEq : (skipSpace cursor).peek? = some first)
    (starts : first = '-' ∨ Text.isDigit first = true) :
    skipValueFrom (steps + 1) cursor = skipNumber (skipSpace cursor) := by
  rw [skipValueFrom]
  simp only [peekEq]
  split
  case h_8 found =>
    cases found
    exact if_pos starts
  all_goals
    next found =>
      cases found
      all_goals exact absurd starts (by decide)

theorem IsNumber.head {text : Text} (isNumber : IsNumber text) :
    ∃ first rest, text = first :: rest ∧ (first = '-' ∨ Text.isDigit first = true) := by
  obtain ⟨isSign, isWhole, _, _, _⟩ := isNumber
  obtain ⟨first, rest, rfl, digit⟩ := head_digits isWhole
  rcases isSign with rfl | rfl
  · exact ⟨first, _, rfl, Or.inr digit⟩
  · exact ⟨'-', _, rfl, Or.inl rfl⟩

theorem isSpace_numberStart {first : Char} (starts : first = '-' ∨ Text.isDigit first = true) :
    isSpace first = false := by
  rcases starts with rfl | digit
  · rfl
  · have differs (other : Char) (notDigit : Text.isDigit other = false) : first ≠ other :=
      ne_of_isDigit digit notDigit
    simp [isSpace, differs ' ' (by decide), differs '\n' (by decide), differs '\t' (by decide),
      differs '\r' (by decide)]

theorem skippable_number {text : Text} (isNumber : IsNumber text) : Skippable text := by
  intro cursor gap back steps isGap restEq ends enough
  obtain ⟨first, rest, rfl, starts⟩ := isNumber.head
  obtain ⟨steps, rfl⟩ := Nat.exists_eq_succ_of_ne_zero
    (by simp only [List.length_cons] at enough; omega : steps ≠ 0)
  have startEq := rest_skipSpace isGap (isSpace_numberStart starts) restEq
  rw [skipValueFrom_number steps (Cursor.peek?_of_cons startEq) starts]
  exact skipNumber_number isNumber ends startEq

theorem skippable_string {body : Text} (isString : IsString body) :
    Skippable ('"' :: (body ++ ['"'])) := by
  intro cursor gap back steps isGap restEq _ enough
  obtain ⟨steps, rfl⟩ := Nat.exists_eq_succ_of_ne_zero
    (by simp only [List.length_cons] at enough; omega : steps ≠ 0)
  have startEq : (skipSpace cursor).rest = '"' :: (body ++ '"' :: back) := by
    rw [rest_skipSpace isGap (by decide) restEq]
    simp
  rw [skipValueFrom]
  simp only [Cursor.peek?_of_cons startEq]
  exact skipString_string isString (Cursor.rest_drop_one startEq)

theorem skipMoreItemsFrom_items {items : List Padded} (gaps : ∀ item ∈ items, item.HasGaps)
    (skippable : ∀ item ∈ items, Skippable item.core) {steps : Nat} (isGap : IsGap gap)
    (restEq : cursor.rest =
      gap ++ ((items.map Padded.text).flatMap (',' :: ·) ++ ']' :: back))
    (enough : 2 * ((items.map Padded.text).flatMap (',' :: ·)).length + 2 ≤ steps) :
    Passes (skipMoreItemsFrom steps cursor) back := by
  induction items generalizing cursor gap steps with
  | nil =>
      obtain ⟨steps, rfl⟩ := Nat.exists_eq_succ_of_ne_zero (by omega : steps ≠ 0)
      have startEq := rest_skipSpace isGap (by decide) restEq
      refine ⟨(skipSpace cursor).drop 1, ?_, Cursor.rest_drop_one startEq⟩
      rw [skipMoreItemsFrom]
      simp only [Cursor.peek?_of_cons startEq]
  | cons item items ih =>
      obtain ⟨steps, rfl⟩ := Nat.exists_eq_succ_of_ne_zero (by omega : steps ≠ 0)
      rw [List.forall_mem_cons] at gaps skippable
      let behind := (items.map Padded.text).flatMap (',' :: ·) ++ ']' :: back
      have commaEq : cursor.rest =
          gap ++ ',' :: (item.front ++ (item.core ++ (item.back ++ behind))) := by
        simpa [behind, Padded.text] using restEq
      have startEq := rest_skipSpace isGap (by decide) commaEq
      simp only [List.map_cons, List.flatMap_cons, Padded.text, List.length_append,
        List.length_cons] at enough
      have ends : EndsValue (item.back ++ behind) := by
        cases items with
        | nil => exact endsValue_gap gaps.1.2 (Or.inr (Or.inl rfl))
        | cons next more => exact endsValue_gap gaps.1.2 (Or.inl rfl)
      obtain ⟨after, passed, afterEq⟩ := @skippable.1 _ _ _ steps gaps.1.1
        (Cursor.rest_drop_one startEq) ends (by omega)
      obtain ⟨final, restPassed, finalEq⟩ :=
        @ih after item.back gaps.2 skippable.2 steps gaps.1.2 afterEq (by omega)
      refine ⟨final, ?_, finalEq⟩
      rw [skipMoreItemsFrom]
      simp only [Cursor.peek?_of_cons startEq, bind, Except.bind, passed, restPassed]

theorem IsValue.head {value : Text} (isValue : IsValue value) :
    ∃ first rest, value = first :: rest ∧ isSpace first = false ∧ first ≠ ']' := by
  cases isValue with
  | name isName => rcases isName with rfl | rfl | rfl <;> exact ⟨_, _, rfl, by decide⟩
  | number isNumber =>
      obtain ⟨first, rest, rfl, starts⟩ := isNumber.head
      refine ⟨first, rest, rfl, isSpace_numberStart starts, ?_⟩
      rintro rfl
      exact absurd starts (by decide)
  | string => exact ⟨_, _, rfl, by decide⟩
  | emptyArray => exact ⟨_, _, rfl, by decide⟩
  | array => exact ⟨_, _, rfl, by decide⟩
  | emptyObject => exact ⟨_, _, rfl, by decide⟩
  | object => exact ⟨_, _, rfl, by decide⟩

theorem skipValueFrom_list (steps : Nat) (startEq : (skipSpace cursor).rest = '[' :: back) :
    skipValueFrom (steps + 1) cursor = skipItemsFrom steps ((skipSpace cursor).drop 1) := by
  rw [skipValueFrom]
  simp only [Cursor.peek?_of_cons startEq]

theorem skippable_emptyArray (isGap : IsGap gap) : Skippable ('[' :: (gap ++ [']'])) := by
  intro cursor outerGap back steps isOuterGap restEq _ enough
  obtain ⟨steps, rfl⟩ : ∃ fewer, steps = fewer + 1 + 1 :=
    ⟨steps - 2, by simp only [List.length_cons] at enough; omega⟩
  have startEq : (skipSpace cursor).rest = '[' :: (gap ++ ']' :: back) := by
    rw [rest_skipSpace isOuterGap (by decide) restEq]
    simp
  have closingEq := rest_skipSpace isGap (by decide) (Cursor.rest_drop_one startEq)
  refine ⟨_, ?_, Cursor.rest_drop_one closingEq⟩
  rw [skipValueFrom_list _ startEq, skipItemsFrom]
  simp only [Cursor.peek?_of_cons closingEq]

theorem skippable_array {items : List Padded} (nonempty : items ≠ [])
    (gaps : ∀ item ∈ items, item.HasGaps) (values : ∀ item ∈ items, IsValue item.core)
    (skippable : ∀ item ∈ items, Skippable item.core) :
    Skippable ('[' :: (Text.join [','] (items.map Padded.text) ++ [']'])) := by
  intro cursor gap back steps isGap restEq _ enough
  obtain ⟨item, items, rfl⟩ := List.exists_cons_of_ne_nil nonempty
  rw [List.forall_mem_cons] at gaps values skippable
  let behind := (items.map Padded.text).flatMap (',' :: ·) ++ ']' :: back
  have listEq : cursor.rest = gap ++ '[' :: (item.front ++ (item.core ++ (item.back ++ behind))) := by
    rw [restEq, List.map_cons, Text.join_cons]
    simp [behind, Padded.text]
  obtain ⟨steps, rfl⟩ : ∃ fewer, steps = fewer + 1 + 1 :=
    ⟨steps - 2, by simp only [List.length_cons] at enough; omega⟩
  rw [List.map_cons, Text.join_cons] at enough
  simp only [Padded.text, List.length_append, List.length_cons, List.length_nil] at enough
  have startEq := rest_skipSpace isGap (by decide) listEq
  obtain ⟨first, rest, coreEq, notSpace, notClosing⟩ := values.1.head
  have itemEq : (skipSpace ((skipSpace cursor).drop 1)).rest =
      item.core ++ (item.back ++ behind) := by
    have frontEq := Cursor.rest_drop_one startEq
    rw [coreEq] at frontEq ⊢
    exact rest_skipSpace gaps.1.1 notSpace frontEq
  have ends : EndsValue (item.back ++ behind) := by
    cases items with
    | nil => exact endsValue_gap gaps.1.2 (Or.inr (Or.inl rfl))
    | cons next more => exact endsValue_gap gaps.1.2 (Or.inl rfl)
  obtain ⟨after, passed, afterEq⟩ := @skippable.1 _ [] _ steps isGap_nil itemEq ends
    (by omega)
  obtain ⟨final, restPassed, finalEq⟩ :=
    skipMoreItemsFrom_items gaps.2 skippable.2 gaps.1.2 afterEq (by omega : _ ≤ steps)
  refine ⟨final, ?_, finalEq⟩
  have peekEq : (skipSpace ((skipSpace cursor).drop 1)).peek? = some first := by
    rw [Cursor.peek?, itemEq, coreEq]
    rfl
  rw [skipValueFrom_list _ startEq, skipItemsFrom]
  simp only [peekEq, bind, Except.bind, passed, restPassed]

/-! Objects -/

theorem expectColon_gap (isGap : IsGap gap) (restEq : cursor.rest = gap ++ ':' :: back) :
    Passes (expectColon cursor) back := by
  have colonEq := rest_skipSpace isGap (by decide) restEq
  refine ⟨(skipSpace cursor).drop 1, ?_, Cursor.rest_drop_one colonEq⟩
  simp only [expectColon, Cursor.peek?_of_cons colonEq]

def moreMembers (members : List WrittenMember) (back : Text) : Text :=
  (members.map WrittenMember.text).flatMap (',' :: ·) ++ '\x7d' :: back

theorem endsValue_moreMembers (isGap : IsGap gap) (members : List WrittenMember) :
    EndsValue (gap ++ moreMembers members back) := by
  cases members with
  | nil => exact endsValue_gap isGap (Or.inr (Or.inr rfl))
  | cons member members => exact endsValue_gap isGap (Or.inl rfl)

theorem skipMemberFrom_member {member : WrittenMember} (gaps : member.HasGaps)
    (isString : IsString member.name) (skippable : Skippable member.value.core) {steps : Nat}
    {rest : Text} (restEq : cursor.rest = member.text ++ rest)
    (ends : EndsValue (member.value.back ++ rest))
    (enough : 2 * member.value.core.length ≤ steps)
    (restPassed : ∀ {cursor : Cursor}, cursor.rest = member.value.back ++ rest →
      Passes (skipMoreMembersFrom steps cursor) back) :
    Passes (skipMemberFrom (steps + 1) cursor) back := by
  obtain ⟨frontGap, middleGap, valueGap, _⟩ := gaps
  have nameEq : cursor.rest = member.front ++ '"' :: (member.name ++ '"' ::
      (member.middle ++ ':' ::
        (member.value.front ++ (member.value.core ++ (member.value.back ++ rest))))) := by
    rw [restEq]
    simp [WrittenMember.text, Padded.text]
  have quoteEq := rest_skipSpace frontGap (by decide) nameEq
  obtain ⟨afterName, namePassed, afterNameEq⟩ :=
    skipString_string isString (Cursor.rest_drop_one quoteEq)
  obtain ⟨afterColon, colonPassed, afterColonEq⟩ := expectColon_gap middleGap afterNameEq
  obtain ⟨afterValue, valuePassed, afterValueEq⟩ :=
    skippable valueGap afterColonEq ends enough
  obtain ⟨final, finalPassed, finalEq⟩ := restPassed afterValueEq
  refine ⟨final, ?_, finalEq⟩
  rw [skipMemberFrom]
  simp only [Cursor.peek?_of_cons quoteEq, bind, Except.bind, namePassed, colonPassed,
    valuePassed, finalPassed]

theorem skipMoreMembersFrom_members {members : List WrittenMember}
    (gaps : ∀ member ∈ members, member.HasGaps)
    (strings : ∀ member ∈ members, IsString member.name)
    (skippable : ∀ member ∈ members, Skippable member.value.core) {steps : Nat} (isGap : IsGap gap)
    (restEq : cursor.rest = gap ++ moreMembers members back)
    (enough : 2 * ((members.map WrittenMember.text).flatMap (',' :: ·)).length + 2 ≤ steps) :
    Passes (skipMoreMembersFrom steps cursor) back := by
  induction members generalizing cursor gap steps with
  | nil =>
      obtain ⟨steps, rfl⟩ := Nat.exists_eq_succ_of_ne_zero (by omega : steps ≠ 0)
      have startEq := rest_skipSpace isGap (by decide) restEq
      refine ⟨(skipSpace cursor).drop 1, ?_, Cursor.rest_drop_one startEq⟩
      rw [skipMoreMembersFrom]
      simp only [Cursor.peek?_of_cons startEq]
  | cons member members ih =>
      obtain ⟨steps, rfl⟩ : ∃ fewer, steps = fewer + 1 + 1 := ⟨steps - 2, by omega⟩
      rw [List.forall_mem_cons] at gaps strings skippable
      have commaEq : cursor.rest = gap ++ ',' :: (member.text ++ moreMembers members back) := by
        simpa [moreMembers] using restEq
      have startEq := rest_skipSpace isGap (by decide) commaEq
      simp only [List.map_cons, List.flatMap_cons, WrittenMember.text, Padded.text,
        List.length_append, List.length_cons] at enough
      have passed := skipMemberFrom_member gaps.1 strings.1 skippable.1
        (Cursor.rest_drop_one startEq) (endsValue_moreMembers gaps.1.2.2.2 members)
        (by omega : _ ≤ steps)
        fun afterEq => ih gaps.2 strings.2 skippable.2 gaps.1.2.2.2 afterEq (by omega)
      rw [skipMoreMembersFrom]
      simp only [Cursor.peek?_of_cons startEq]
      exact passed

theorem skipValueFrom_members (steps : Nat) (startEq : (skipSpace cursor).rest = '\x7b' :: back) :
    skipValueFrom (steps + 1) cursor = skipMembersFrom steps ((skipSpace cursor).drop 1) := by
  rw [skipValueFrom]
  simp only [Cursor.peek?_of_cons startEq]

theorem skippable_emptyObject (isGap : IsGap gap) : Skippable ('\x7b' :: (gap ++ ['\x7d'])) := by
  intro cursor outerGap back steps isOuterGap restEq _ enough
  obtain ⟨steps, rfl⟩ : ∃ fewer, steps = fewer + 1 + 1 :=
    ⟨steps - 2, by simp only [List.length_cons] at enough; omega⟩
  have startEq : (skipSpace cursor).rest = '\x7b' :: (gap ++ '\x7d' :: back) := by
    rw [rest_skipSpace isOuterGap (by decide) restEq]
    simp
  have closingEq := rest_skipSpace isGap (by decide) (Cursor.rest_drop_one startEq)
  refine ⟨_, ?_, Cursor.rest_drop_one closingEq⟩
  rw [skipValueFrom_members _ startEq, skipMembersFrom]
  simp only [Cursor.peek?_of_cons closingEq]

theorem skippable_object {members : List WrittenMember} (nonempty : members ≠ [])
    (gaps : ∀ member ∈ members, member.HasGaps)
    (strings : ∀ member ∈ members, IsString member.name)
    (skippable : ∀ member ∈ members, Skippable member.value.core) :
    Skippable ('\x7b' :: (Text.join [','] (members.map WrittenMember.text) ++ ['\x7d'])) := by
  intro cursor gap back steps isGap restEq _ enough
  obtain ⟨member, members, rfl⟩ := List.exists_cons_of_ne_nil nonempty
  rw [List.forall_mem_cons] at gaps strings skippable
  have objectEq : cursor.rest = gap ++ '\x7b' :: (member.text ++ moreMembers members back) := by
    rw [restEq, List.map_cons, Text.join_cons]
    simp [moreMembers]
  obtain ⟨steps, rfl⟩ : ∃ fewer, steps = fewer + 1 + 1 + 1 :=
    ⟨steps - 3, by
      rw [List.map_cons, Text.join_cons] at enough
      simp only [List.length_cons, List.length_append, WrittenMember.text] at enough
      omega⟩
  rw [List.map_cons, Text.join_cons] at enough
  simp only [WrittenMember.text, Padded.text, List.length_append, List.length_cons,
    List.length_nil] at enough
  have startEq := rest_skipSpace isGap (by decide) objectEq
  let bare : WrittenMember := { member with front := [] }
  have bareText : member.text = member.front ++ bare.text := rfl
  have frontEq := Cursor.rest_drop_one startEq
  rw [bareText, List.append_assoc] at frontEq
  have memberEq := rest_skipSpace gaps.1.1 (by decide) frontEq
  have bareGaps : bare.HasGaps := ⟨by simp [IsGap, bare], gaps.1.2⟩
  obtain ⟨final, passed, finalEq⟩ := skipMemberFrom_member bareGaps strings.1 skippable.1 memberEq
    (endsValue_moreMembers gaps.1.2.2.2 members)
    (by change 2 * member.value.core.length ≤ steps; omega)
    fun afterEq =>
      skipMoreMembersFrom_members gaps.2 strings.2 skippable.2 gaps.1.2.2.2 afterEq (by omega)
  refine ⟨final, ?_, finalEq⟩
  rw [skipValueFrom_members _ startEq, skipMembersFrom]
  simp only [Cursor.peek?_of_cons memberEq]
  exact passed

theorem IsValue.skippable {value : Text} (isValue : IsValue value) : Skippable value := by
  induction isValue with
  | name isName => exact skippable_name isName
  | number isNumber => exact skippable_number isNumber
  | string isString => exact skippable_string isString
  | emptyArray isGap => exact skippable_emptyArray isGap
  | array nonempty gaps values ih => exact skippable_array nonempty gaps values ih
  | emptyObject isGap => exact skippable_emptyObject isGap
  | object nonempty gaps strings _ ih => exact skippable_object nonempty gaps strings ih

theorem skipValue_value {value : Text} (isValue : IsValue value) (isGap : IsGap gap)
    (restEq : cursor.rest = gap ++ (value ++ back)) (ends : EndsValue back) :
    Passes (skipValue cursor) back := by
  refine isValue.skippable isGap restEq ends ?_
  rw [stepsFor, restEq]
  simp only [List.length_append]
  omega

end

end TopicSieve.Json
