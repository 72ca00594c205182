import TopicSieve.Json.Reader
import TopicSieve.Proofs.Text.Cursors

/-!
Strings of JSON texts, in all their spellings. Main statements: a string is read as the text that it
spells, and any string is passed over, even one whose surrogates form no character.
-/

namespace TopicSieve.Json

/-- A reader gives a value and stops in front of `back`. -/
def Yields {α : Type} (outcome : Except Stop (α × Cursor)) (value : α) (back : Text) : Prop :=
  ∃ after, outcome = .ok (value, after) ∧ after.rest = back

theorem exists_of_bind {α β : Type} {outcome : Except Stop α} {next : α → Except Stop β} {result : β}
    (bindEq : (outcome >>= next) = .ok result) :
    ∃ value, outcome = .ok value ∧ next value = .ok result := by
  cases outcome with
  | error => contradiction
  | ok value => exact ⟨value, rfl, bindEq⟩

def Passes (outcome : Except Stop Cursor) (back : Text) : Prop :=
  ∃ after, outcome = .ok after ∧ after.rest = back

inductive HexDigits : Text → Nat → Prop
  | digits {first second third fourth : Char} {a b c d : Nat} : Text.hexValue? first = some a →
      Text.hexValue? second = some b → Text.hexValue? third = some c →
      Text.hexValue? fourth = some d →
      HexDigits [first, second, third, fourth] (((a * 16 + b) * 16 + c) * 16 + d)

/-- `Spells source text`: what stands between the quotes of a string, and the text that it stands
for. -/
inductive Spells : Text → Text → Prop
  | nil : Spells [] []
  | plain {char source text} : char ≠ '"' → char ≠ '\\' → 0x20 ≤ char.toNat → Spells source text →
      Spells (char :: source) (char :: text)
  | letter {letter char source text} : shortEscape? letter = some char → Spells source text →
      Spells ('\\' :: letter :: source) (char :: text)
  | code {digits source text} {char : Char} : HexDigits digits char.toNat → Spells source text →
      Spells ('\\' :: 'u' :: (digits ++ source)) (char :: text)
  | pair {first second source text high low} {char : Char} : HexDigits first high →
      HexDigits second low → isHighSurrogate high = true → isLowSurrogate low = true →
      char.toNat = 0x10000 + (high - 0xD800) * 0x400 + (low - 0xDC00) → Spells source text →
      Spells ('\\' :: 'u' :: (first ++ '\\' :: 'u' :: (second ++ source))) (char :: text)

/-- What may stand between the quotes of a string, whether or not it spells a text. -/
inductive IsString : Text → Prop
  | nil : IsString []
  | plain {char source} : char ≠ '"' → char ≠ '\\' → 0x20 ≤ char.toNat → IsString source →
      IsString (char :: source)
  | letter {letter char source} : shortEscape? letter = some char → IsString source →
      IsString ('\\' :: letter :: source)
  | code {digits source code} : HexDigits digits code → IsString source →
      IsString ('\\' :: 'u' :: (digits ++ source))

theorem Spells.isString {source text : Text} (spells : Spells source text) : IsString source := by
  induction spells with
  | nil => exact .nil
  | plain notQuote notBackslash printable _ ih => exact .plain notQuote notBackslash printable ih
  | letter known _ ih => exact .letter known ih
  | code digits _ ih => exact .code digits ih
  | pair first second _ _ _ _ ih => exact .code first (.code second ih)

theorem IsString.feed_not_mem {source : Text} (isString : IsString source) : '\n' ∉ source := by
  induction isString with
  | nil => exact List.not_mem_nil
  | @plain char source _ _ printable _ ih =>
      have notFeed : char ≠ '\n' := by
        rintro rfl
        exact absurd printable (by decide)
      simp [notFeed.symm, ih]
  | @letter letter char source known _ ih =>
      have notFeed : letter ≠ '\n' := by
        rintro rfl
        contradiction
      simp [notFeed.symm, ih]
  | @code digits source code isCode _ ih =>
      have notFeed {digit : Char} {value : Nat} (isDigit : Text.hexValue? digit = some value) :
          digit ≠ '\n' := by
        rintro rfl
        contradiction
      cases isCode with
      | digits first second third fourth =>
          simp [(notFeed first).symm, (notFeed second).symm, (notFeed third).symm,
            (notFeed fourth).symm, ih]

theorem Spells.length_le {source text : Text} (spells : Spells source text) :
    text.length ≤ source.length := by
  induction spells with
  | nil => exact Nat.le_refl 0
  | plain _ _ _ _ ih => exact Nat.succ_le_succ ih
  | letter _ _ ih =>
      simp only [List.length_cons]
      omega
  | code _ _ ih =>
      simp only [List.length_cons, List.length_append]
      omega
  | pair _ _ _ _ _ _ ih =>
      simp only [List.length_cons, List.length_append]
      omega

section

variable {cursor : Cursor} {digits source text back : Text}

theorem readHex_digits {code : Nat} (isCode : HexDigits digits code)
    (restEq : cursor.rest = digits ++ back) : Yields (readHex cursor) code back := by
  cases isCode with
  | digits first second third fourth =>
      have long : ¬ Text.byteLength cursor.rest < 4 := by
        have bound := Text.length_le_byteLength cursor.rest
        rw [restEq] at bound ⊢
        simp only [List.length_append, List.length_cons] at bound
        omega
      refine ⟨cursor.drop 4, ?_, Cursor.rest_drop_length restEq⟩
      rw [readHex, if_neg long, restEq]
      simp [first, second, third, fourth]

theorem readUnicode_code {char : Char} (isCode : HexDigits digits char.toNat)
    (restEq : cursor.rest = digits ++ back) : Yields (readUnicode cursor) char back := by
  obtain ⟨after, hexRead, afterEq⟩ := readHex_digits isCode restEq
  have notLow : isLowSurrogate char.toNat = false := by
    have valid : char.toNat.isValidChar := char.valid
    simp only [isLowSurrogate, Bool.and_eq_false_iff, decide_eq_false_iff_not]
    simp only [Nat.isValidChar] at valid
    omega
  have notHigh : isHighSurrogate char.toNat = false := by
    have valid : char.toNat.isValidChar := char.valid
    simp only [isHighSurrogate, Bool.and_eq_false_iff, decide_eq_false_iff_not]
    simp only [Nat.isValidChar] at valid
    omega
  refine ⟨after, ?_, afterEq⟩
  rw [readUnicode, hexRead]
  simp [bind, Except.bind, notLow, notHigh, Char.ofNat_toNat]

theorem expectInPair_of_cons {char : Char} (restEq : cursor.rest = char :: back) :
    expectInPair char cursor = .ok (cursor.drop 1) := by
  rw [expectInPair, Cursor.next?_of_cons restEq]
  simp

theorem readUnicode_pair {first second : Text} {high low : Nat} {char : Char}
    (isHigh : HexDigits first high) (isLow : HexDigits second low)
    (inHigh : isHighSurrogate high = true) (inLow : isLowSurrogate low = true)
    (value : char.toNat = 0x10000 + (high - 0xD800) * 0x400 + (low - 0xDC00))
    (restEq : cursor.rest = first ++ '\\' :: 'u' :: (second ++ back)) :
    Yields (readUnicode cursor) char back := by
  obtain ⟨afterFirst, firstRead, firstEq⟩ := readHex_digits isHigh restEq
  have letterEq : (afterFirst.drop 1).rest = 'u' :: (second ++ back) :=
    Cursor.rest_drop_one firstEq
  obtain ⟨after, secondRead, afterEq⟩ :=
    readHex_digits isLow (Cursor.rest_drop_one letterEq)
  have notLow : isLowSurrogate high = false := by
    simp only [isHighSurrogate, Bool.and_eq_true, decide_eq_true_eq] at inHigh
    simp only [isLowSurrogate, Bool.and_eq_false_iff, decide_eq_false_iff_not]
    omega
  refine ⟨after, ?_, afterEq⟩
  rw [readUnicode, firstRead]
  simp [bind, Except.bind, notLow, inHigh, expectInPair_of_cons firstEq,
    expectInPair_of_cons letterEq, secondRead, inLow, ← value, Char.ofNat_toNat]

theorem shortEscape?_unicode : shortEscape? 'u' = none := rfl

theorem readEscape_letter {letter char : Char} (known : shortEscape? letter = some char)
    (restEq : cursor.rest = letter :: back) : Yields (readEscape cursor) char back := by
  refine ⟨cursor.drop 1, ?_, Cursor.rest_drop_one restEq⟩
  rw [readEscape, Cursor.next?_of_cons restEq]
  simp only [known]

theorem readEscape_unicode (restEq : cursor.rest = 'u' :: back) :
    readEscape cursor = readUnicode (cursor.drop 1) := by
  rw [readEscape, Cursor.next?_of_cons restEq]
  simp only [shortEscape?_unicode, if_true]

theorem readStringFrom_escape {char : Char} {steps : Nat} (restEq : cursor.rest = '\\' :: source)
    {between : Text} (escapeRead : Yields (readEscape (cursor.drop 1)) char between)
    (tailRead : ∀ {cursor : Cursor}, cursor.rest = between →
      Yields (readStringFrom steps cursor) text back) :
    Yields (readStringFrom (steps + 1) cursor) (char :: text) back := by
  obtain ⟨next, escapeEq, nextEq⟩ := escapeRead
  obtain ⟨after, tailEq, afterEq⟩ := tailRead nextEq
  refine ⟨after, ?_, afterEq⟩
  rw [readStringFrom, Cursor.next?_of_cons restEq]
  simp [bind, Except.bind, escapeEq, tailEq]

theorem readStringFrom_spelled (spells : Spells source text) {steps : Nat}
    (restEq : cursor.rest = source ++ '"' :: back) (enough : text.length < steps) :
    Yields (readStringFrom steps cursor) text back := by
  induction spells generalizing cursor steps with
  | nil =>
      obtain ⟨steps, rfl⟩ := Nat.exists_eq_succ_of_ne_zero (by omega : steps ≠ 0)
      refine ⟨cursor.drop 1, ?_, Cursor.rest_drop_one restEq⟩
      rw [readStringFrom, Cursor.next?_of_cons restEq]
      rfl
  | plain notQuote notBackslash printable _ ih =>
      obtain ⟨steps, rfl⟩ := Nat.exists_eq_succ_of_ne_zero (by omega : steps ≠ 0)
      obtain ⟨after, tailEq, afterEq⟩ :=
        ih (Cursor.rest_drop_one restEq) (Nat.lt_of_succ_lt_succ enough)
      refine ⟨after, ?_, afterEq⟩
      rw [readStringFrom, Cursor.next?_of_cons restEq]
      simp [bind, Except.bind, notQuote, notBackslash, Nat.not_lt.mpr printable, tailEq]
  | letter known _ ih =>
      obtain ⟨steps, rfl⟩ := Nat.exists_eq_succ_of_ne_zero (by omega : steps ≠ 0)
      have letterRead := readEscape_letter known (Cursor.rest_drop_one restEq)
      exact readStringFrom_escape restEq letterRead fun tailEq =>
        ih tailEq (Nat.lt_of_succ_lt_succ enough)
  | @code digits source text char isCode _ ih =>
      obtain ⟨steps, rfl⟩ := Nat.exists_eq_succ_of_ne_zero (by omega : steps ≠ 0)
      have letterEq : (cursor.drop 1).rest = 'u' :: (digits ++ (source ++ '"' :: back)) := by
        rw [Cursor.rest_drop_one restEq]
        simp
      have codeRead := readUnicode_code isCode (Cursor.rest_drop_one letterEq)
      rw [← readEscape_unicode letterEq] at codeRead
      exact readStringFrom_escape restEq codeRead fun tailEq =>
        ih tailEq (Nat.lt_of_succ_lt_succ enough)
  | @pair first second source text high low char isHigh isLow inHigh inLow value _ ih =>
      obtain ⟨steps, rfl⟩ := Nat.exists_eq_succ_of_ne_zero (by omega : steps ≠ 0)
      have letterEq : (cursor.drop 1).rest =
          'u' :: (first ++ '\\' :: 'u' :: (second ++ (source ++ '"' :: back))) := by
        rw [Cursor.rest_drop_one restEq]
        simp
      have pairRead :=
        readUnicode_pair isHigh isLow inHigh inLow value (Cursor.rest_drop_one letterEq)
      rw [← readEscape_unicode letterEq] at pairRead
      exact readStringFrom_escape restEq pairRead fun tailEq =>
        ih tailEq (Nat.lt_of_succ_lt_succ enough)

theorem readString_spelled (spells : Spells source text)
    (restEq : cursor.rest = source ++ '"' :: back) : Yields (readString cursor) text back := by
  refine readStringFrom_spelled spells restEq ?_
  have bound := spells.length_le
  rw [restEq, List.length_append]
  omega

theorem skipEscape_letter {letter char : Char} (known : shortEscape? letter = some char)
    (restEq : cursor.rest = letter :: back) : Passes (skipEscape cursor) back := by
  refine ⟨cursor.drop 1, ?_, Cursor.rest_drop_one restEq⟩
  rw [skipEscape, Cursor.next?_of_cons restEq]
  simp only [known]

theorem skipEscape_unicode {code : Nat} (isCode : HexDigits digits code)
    (restEq : cursor.rest = 'u' :: (digits ++ back)) : Passes (skipEscape cursor) back := by
  obtain ⟨after, hexRead, afterEq⟩ := readHex_digits isCode (Cursor.rest_drop_one restEq)
  refine ⟨after, ?_, afterEq⟩
  rw [skipEscape, Cursor.next?_of_cons restEq]
  simp only [shortEscape?_unicode, if_true, hexRead]
  rfl

theorem skipStringFrom_escape {steps : Nat} (restEq : cursor.rest = '\\' :: source)
    {between : Text} (escapePassed : Passes (skipEscape (cursor.drop 1)) between)
    (tailPassed : ∀ {cursor : Cursor}, cursor.rest = between →
      Passes (skipStringFrom steps cursor) back) :
    Passes (skipStringFrom (steps + 1) cursor) back := by
  obtain ⟨next, escapeEq, nextEq⟩ := escapePassed
  obtain ⟨after, tailEq, afterEq⟩ := tailPassed nextEq
  refine ⟨after, ?_, afterEq⟩
  rw [skipStringFrom, Cursor.next?_of_cons restEq]
  simp [bind, Except.bind, escapeEq, tailEq]

theorem skipStringFrom_string (isString : IsString source) {steps : Nat}
    (restEq : cursor.rest = source ++ '"' :: back) (enough : source.length < steps) :
    Passes (skipStringFrom steps cursor) back := by
  induction isString generalizing cursor steps with
  | nil =>
      obtain ⟨steps, rfl⟩ := Nat.exists_eq_succ_of_ne_zero (by omega : steps ≠ 0)
      refine ⟨cursor.drop 1, ?_, Cursor.rest_drop_one restEq⟩
      rw [skipStringFrom, Cursor.next?_of_cons restEq]
      rfl
  | plain notQuote notBackslash printable _ ih =>
      obtain ⟨steps, rfl⟩ := Nat.exists_eq_succ_of_ne_zero (by omega : steps ≠ 0)
      obtain ⟨after, tailEq, afterEq⟩ :=
        ih (Cursor.rest_drop_one restEq) (Nat.lt_of_succ_lt_succ enough)
      refine ⟨after, ?_, afterEq⟩
      rw [skipStringFrom, Cursor.next?_of_cons restEq]
      simp [notQuote, notBackslash, Nat.not_lt.mpr printable, tailEq]
  | letter known _ ih =>
      obtain ⟨steps, rfl⟩ := Nat.exists_eq_succ_of_ne_zero (by omega : steps ≠ 0)
      simp only [List.length_cons] at enough
      have letterPassed := skipEscape_letter known (Cursor.rest_drop_one restEq)
      exact skipStringFrom_escape restEq letterPassed fun tailEq => ih tailEq (by omega)
  | @code digits source code isCode _ ih =>
      obtain ⟨steps, rfl⟩ := Nat.exists_eq_succ_of_ne_zero (by omega : steps ≠ 0)
      simp only [List.length_cons, List.length_append] at enough
      have letterEq : (cursor.drop 1).rest = 'u' :: (digits ++ (source ++ '"' :: back)) := by
        rw [Cursor.rest_drop_one restEq]
        simp
      have codePassed := skipEscape_unicode isCode letterEq
      exact skipStringFrom_escape restEq codePassed fun tailEq => ih tailEq (by omega)

theorem skipString_string (isString : IsString source)
    (restEq : cursor.rest = source ++ '"' :: back) : Passes (skipString cursor) back := by
  refine skipStringFrom_string isString restEq ?_
  rw [restEq, List.length_append]
  omega

end

end TopicSieve.Json
