import TopicSieve.Text.Utf8

/-!
What the decoder accepts. A character takes one to four bytes, and the decoder gives it for these
bytes only. Main statement: the decoder gives a text exactly for the bytes that encode it.
-/

namespace TopicSieve.Utf8

def IsTail (byte : UInt8) : Prop := 0x80 ≤ byte.toNat ∧ byte.toNat ≤ 0xBF

inductive CharForm (char : Char) : Bytes → Prop
  | one {first} : first.toNat < 0x80 → char.toNat = first.toNat → CharForm char [first]
  | two {first second} : 0xC0 ≤ first.toNat → first.toNat < 0xE0 → IsTail second →
      0x80 ≤ char.toNat → char.toNat = (first.toNat - 0xC0) * 64 + (second.toNat - 0x80) →
      CharForm char [first, second]
  | three {first second third} : 0xE0 ≤ first.toNat → first.toNat < 0xF0 → IsTail second →
      IsTail third → 0x800 ≤ char.toNat →
      char.toNat = ((first.toNat - 0xE0) * 64 + (second.toNat - 0x80)) * 64 +
        (third.toNat - 0x80) →
      CharForm char [first, second, third]
  | four {first second third fourth} : 0xF0 ≤ first.toNat → IsTail second →
      IsTail third → IsTail fourth → 0x10000 ≤ char.toNat →
      char.toNat = (((first.toNat - 0xF0) * 64 + (second.toNat - 0x80)) * 64 +
        (third.toNat - 0x80)) * 64 + (fourth.toNat - 0x80) →
      CharForm char [first, second, third, fourth]

/-! The encoded form of a character is its one form. -/

theorem isTail_ofNat (value : Nat) :
    IsTail (UInt8.ofNat (value % 64 + 0x80)) ∧
      (UInt8.ofNat (value % 64 + 0x80)).toNat - 0x80 = value % 64 := by
  have small : value % 64 + 0x80 < 2 ^ 8 := by omega
  rw [IsTail, UInt8.toNat_ofNat_of_lt' small]
  omega

theorem toNat_eq {value : Nat} {char : Char} (charEq : some (Char.ofNat value) = some char)
    (valid : value.isValidChar) : char.toNat = value := by
  rw [← Option.some.inj charEq, Text.toNat_ofNat valid]

theorem toNat_lead {lead : Nat} (small : lead < 0x100) : (UInt8.ofNat lead).toNat = lead :=
  UInt8.toNat_ofNat_of_lt' small

theorem charForm_encode (char : Char) : CharForm char (String.utf8EncodeChar char) := by
  have valid : char.toNat.isValidChar := char.valid
  have below : char.toNat < 0x110000 := by
    rcases valid with low | high <;> omega
  have numberEq : char.val.toNat = char.toNat := rfl
  simp only [String.utf8EncodeChar, numberEq]
  have third := isTail_ofNat (char.toNat / 4096)
  have second := isTail_ofNat (char.toNat / 64)
  have last := isTail_ofNat char.toNat
  split
  · refine .one ?_ (toNat_lead (by omega)).symm
    rw [toNat_lead (by omega)]
    omega
  split
  · refine .two ?_ ?_ last.1 (by omega) ?_
    all_goals rw [toNat_lead (by omega)]; omega
  split
  · refine .three ?_ ?_ second.1 last.1 (by omega) ?_
    all_goals rw [toNat_lead (by omega)]; omega
  · refine .four ?_ third.1 second.1 last.1 (by omega) ?_
    all_goals rw [toNat_lead (by omega)]; omega

theorem byte_eq {value : Nat} {byte : UInt8} (same : value = byte.toNat) :
    UInt8.ofNat value = byte := by
  rw [same, UInt8.ofNat_toNat]

theorem CharForm.encode_eq {char : Char} {bytes : Bytes} (form : CharForm char bytes) :
    String.utf8EncodeChar char = bytes := by
  have below : char.toNat < 0x110000 := by
    rcases char.valid with low | high
    · exact Nat.lt_trans low (by decide)
    · exact high.2
  have numberEq : char.val.toNat = char.toNat := rfl
  simp only [String.utf8EncodeChar, numberEq]
  cases form with
  | one low charEq =>
      rw [if_pos (by omega), byte_eq charEq]
  | two lower upper second least charEq =>
      rw [IsTail] at second
      rw [if_neg (by omega), if_pos (by omega)]
      simp only [List.cons.injEq, and_true]
      exact ⟨byte_eq (by omega), byte_eq (by omega)⟩
  | three lower upper second third least charEq =>
      rw [IsTail] at second third
      rw [if_neg (by omega), if_neg (by omega), if_pos (by omega)]
      simp only [List.cons.injEq, and_true]
      exact ⟨byte_eq (by omega), byte_eq (by omega), byte_eq (by omega)⟩
  | four lower second third fourth least charEq =>
      rw [IsTail] at second third fourth
      rw [if_neg (by omega), if_neg (by omega), if_neg (by omega)]
      simp only [List.cons.injEq, and_true]
      exact ⟨byte_eq (by omega), byte_eq (by omega), byte_eq (by omega), byte_eq (by omega)⟩

/-! The automaton reads a form as one character, and reads a character from nothing else. -/

inductive StartForm (byte : Nat) : Start → Prop
  | char : byte < 0x80 → StartForm byte (.char (Char.ofNat byte))
  | two : 0xC2 ≤ byte → byte < 0xE0 → StartForm byte (.inside (byte - 0xC0) 0x80 0xBF 0)
  | three {low high} : 0xE0 ≤ byte → byte < 0xF0 →
      (∀ next, low ≤ next ∧ next ≤ high ↔ (0x80 ≤ next ∧ next ≤ 0xBF) ∧
        0x20 ≤ (byte - 0xE0) * 64 + (next - 0x80) ∧
        ((byte - 0xE0) * 64 + (next - 0x80)) / 0x20 ≠ 0x1B) →
      StartForm byte (.inside (byte - 0xE0) low high 1)
  | four {low high} : 0xF0 ≤ byte → byte < 0xF5 →
      (∀ next, low ≤ next ∧ next ≤ high ↔ (0x80 ≤ next ∧ next ≤ 0xBF) ∧
        0x10 ≤ (byte - 0xF0) * 64 + (next - 0x80) ∧
        (byte - 0xF0) * 64 + (next - 0x80) < 0x110) →
      StartForm byte (.inside (byte - 0xF0) low high 2)
  | malformed : 0x80 ≤ byte ∧ byte < 0xC2 ∨ 0xF5 ≤ byte → StartForm byte .malformed

theorem start_form (byte : Nat) : StartForm byte (start byte) := by
  rw [start]
  split
  · exact .char (by omega)
  split
  · exact .malformed (by omega)
  split
  · exact .two (by omega) (by omega)
  split
  case isTrue found => 
    subst found
    exact .three (by omega) (by omega) (by omega)
  split
  case isTrue found =>
    subst found
    exact .three (by omega) (by omega) (by omega)
  split
  · exact .three (by omega) (by omega) (by omega)
  split
  case isTrue found =>
    subst found
    exact .four (by omega) (by omega) (by omega)
  split
  · exact .four (by omega) (by omega) (by omega)
  split
  case isTrue found =>
    subst found
    exact .four (by omega) (by omega) (by omega)
  · exact .malformed (by omega)

def piecesFrom : Start → Bytes → List (Option Char)
  | .char char, rest => some char :: pieces .between rest
  | .inside value low high following, rest => pieces (.inside value low high following) rest
  | .malformed, rest => none :: pieces .between rest

theorem pieces_between (first : UInt8) (rest : Bytes) :
    pieces .between (first :: rest) = piecesFrom (start first.toNat) rest := by
  rw [pieces]
  cases start first.toNat <;> rfl

theorem pieces_inside_ne_nil (value low high following : Nat) (bytes : Bytes) :
    pieces (.inside value low high following) bytes ≠ [] := by
  induction bytes generalizing value low high following with
  | nil => simp [pieces]
  | cons byte rest ih =>
      rw [pieces]
      split
      · cases following with
        | zero => simp
        | succ following => exact ih _ _ _ following
      · split <;> simp

theorem pieces_cons_ne_nil (first : UInt8) (rest : Bytes) : pieces .between (first :: rest) ≠ [] := by
  rw [pieces_between]
  cases start first.toNat with
  | char char => simp [piecesFrom]
  | inside value low high following => exact pieces_inside_ne_nil value low high following rest
  | malformed => simp [piecesFrom]

section

variable {value low high following : Nat} {byte : UInt8} {rest bytes : Bytes}

theorem pieces_last (within : low ≤ byte.toNat ∧ byte.toNat ≤ high) :
    pieces (.inside value low high 0) (byte :: rest) =
      some (Char.ofNat (value * 64 + (byte.toNat - 0x80))) :: pieces .between rest := by
  rw [pieces, if_pos within]

theorem pieces_next (within : low ≤ byte.toNat ∧ byte.toNat ≤ high) :
    pieces (.inside value low high (following + 1)) (byte :: rest) =
      pieces (.inside (value * 64 + (byte.toNat - 0x80)) 0x80 0xBF following) rest := by
  rw [pieces, if_pos within]

theorem next_of_pieces {char : Char} {more : List (Option Char)}
    (given : pieces (.inside value low high following) bytes = some char :: more) :
    ∃ byte rest, bytes = byte :: rest ∧ (low ≤ byte.toNat ∧ byte.toNat ≤ high) := by
  cases bytes with
  | nil => simp [pieces] at given
  | cons byte rest =>
      refine ⟨byte, rest, rfl, ?_⟩
      apply Classical.byContradiction
      intro outside
      rw [pieces, if_neg outside] at given
      cases startEq : start byte.toNat <;> simp [startEq] at given

end

theorem CharForm.pieces {char : Char} {front : Bytes} (form : CharForm char front) (rest : Bytes) :
    pieces .between (front ++ rest) = some char :: pieces .between rest := by
  have valid : char.toNat.isValidChar := char.valid
  rw [Nat.isValidChar] at valid
  cases form with
  | @one first low charEq =>
      have started := start_form first.toNat
      simp only [List.cons_append, List.nil_append, pieces_between]
      generalize start first.toNat = begun at started ⊢
      cases started with
      | char => rw [piecesFrom, ← charEq, Char.ofNat_toNat]
      | _ => omega
  | @two first second lower upper secondTail least charEq =>
      rw [IsTail] at secondTail
      have started := start_form first.toNat
      simp only [List.cons_append, List.nil_append, pieces_between]
      generalize start first.toNat = begun at started ⊢
      cases started with
      | two =>
          rw [piecesFrom, pieces_last secondTail, ← charEq, Char.ofNat_toNat]
      | _ => omega
  | @three first second third lower upper secondTail thirdTail least charEq =>
      rw [IsTail] at secondTail thirdTail
      have started := start_form first.toNat
      simp only [List.cons_append, List.nil_append, pieces_between]
      generalize start first.toNat = begun at started ⊢
      cases started with
      | three _ _ bounds =>
          have within := (bounds second.toNat).mpr (by omega)
          rw [piecesFrom, pieces_next within, pieces_last thirdTail, ← charEq, Char.ofNat_toNat]
      | _ => omega
  | @four first second third fourth lower secondTail thirdTail fourthTail least charEq =>
      rw [IsTail] at secondTail thirdTail fourthTail
      have started := start_form first.toNat
      simp only [List.cons_append, List.nil_append, pieces_between]
      generalize start first.toNat = begun at started ⊢
      cases started with
      | four _ _ bounds =>
          have within := (bounds second.toNat).mpr (by omega)
          rw [piecesFrom, pieces_next within, pieces_next thirdTail, pieces_last fourthTail, ← charEq,
            Char.ofNat_toNat]
      | _ => omega

theorem charForm_of_pieces {char : Char} {bytes : Bytes} {more : List (Option Char)}
    (given : Utf8.pieces .between bytes = some char :: more) :
    ∃ front rest, bytes = front ++ rest ∧ CharForm char front ∧ Utf8.pieces .between rest = more := by
  cases bytes with
  | nil => simp [Utf8.pieces] at given
  | cons first after =>
      have started := start_form first.toNat
      rw [pieces_between] at given
      generalize start first.toNat = begun at started given
      cases started with
      | char low =>
          obtain ⟨charEq, moreEq⟩ := List.cons.inj given
          have numberEq := toNat_eq charEq (by rw [Nat.isValidChar]; omega)
          exact ⟨[first], after, rfl, .one low numberEq, moreEq⟩
      | two lower upper =>
          rw [piecesFrom] at given
          obtain ⟨second, rest, rfl, secondTail⟩ := next_of_pieces given
          rw [pieces_last secondTail] at given
          obtain ⟨charEq, moreEq⟩ := List.cons.inj given
          have numberEq := toNat_eq charEq (by rw [Nat.isValidChar]; omega)
          exact ⟨[first, second], rest, rfl,
            .two (by omega) upper secondTail (by omega) numberEq, moreEq⟩
      | three lower upper bounds =>
          rw [piecesFrom] at given
          obtain ⟨second, rest, rfl, within⟩ := next_of_pieces given
          rw [pieces_next within] at given
          obtain ⟨third, rest, rfl, thirdTail⟩ := next_of_pieces given
          rw [pieces_last thirdTail] at given
          obtain ⟨charEq, moreEq⟩ := List.cons.inj given
          obtain ⟨secondTail, least, noSurrogate⟩ := (bounds second.toNat).mp within
          have numberEq := toNat_eq charEq (by rw [Nat.isValidChar]; omega)
          exact ⟨[first, second, third], rest, rfl,
            .three lower upper secondTail thirdTail (by omega) numberEq, moreEq⟩
      | four lower upper bounds =>
          rw [piecesFrom] at given
          obtain ⟨second, rest, rfl, within⟩ := next_of_pieces given
          rw [pieces_next within] at given
          obtain ⟨third, rest, rfl, thirdTail⟩ := next_of_pieces given
          rw [pieces_next thirdTail] at given
          obtain ⟨fourth, rest, rfl, fourthTail⟩ := next_of_pieces given
          rw [pieces_last fourthTail] at given
          obtain ⟨charEq, moreEq⟩ := List.cons.inj given
          obtain ⟨secondTail, least, most⟩ := (bounds second.toNat).mp within
          have numberEq := toNat_eq charEq (by rw [Nat.isValidChar]; omega)
          exact ⟨[first, second, third, fourth], rest, rfl,
            .four lower secondTail thirdTail fourthTail (by omega) numberEq, moreEq⟩
      | malformed => simp [piecesFrom] at given

/-! Whole texts. -/

theorem pieces_encode_append (text : Text) (back : Bytes) :
    pieces .between (encode text ++ back) = text.map some ++ pieces .between back := by
  induction text with
  | nil => rfl
  | cons char rest ih =>
      have form := charForm_encode char
      rw [encode, List.flatMap_cons, List.append_assoc, form.pieces, List.map_cons,
        List.cons_append, ← ih]
      rfl

theorem pieces_encode (text : Text) : pieces .between (encode text) = text.map some := by
  have given := pieces_encode_append text []
  rwa [List.append_nil, pieces, List.append_nil] at given

theorem encode_of_pieces (text : Text) (bytes : Bytes)
    (given : pieces .between bytes = text.map some) : encode text = bytes := by
  induction text generalizing bytes with
  | nil =>
      cases bytes with
      | nil => rfl
      | cons first rest => exact absurd given (pieces_cons_ne_nil first rest)
  | cons char rest ih =>
      obtain ⟨front, back, rfl, form, restGiven⟩ := charForm_of_pieces given
      rw [encode, List.flatMap_cons, form.encode_eq, ← ih back restGiven]
      rfl

theorem mapM_id_eq_some_iff (given : List (Option Char)) (text : Text) :
    given.mapM id = some text ↔ given = text.map some := by
  induction given generalizing text with
  | nil => cases text <;> simp
  | cons first rest ih =>
      cases first with
      | none => cases text <;> simp
      | some char =>
          cases text with
          | nil => simp [Option.bind_eq_some_iff]
          | cons head tail => simpa [Option.bind_eq_some_iff, ih] using And.comm

/-- The decoder gives a text exactly for the bytes that encode it. -/
theorem decode?_eq_some_iff (bytes : Bytes) (text : Text) :
    decode? bytes = some text ↔ encode text = bytes := by
  rw [decode?, mapM_id_eq_some_iff]
  constructor
  · exact encode_of_pieces text bytes
  · rintro rfl
    exact pieces_encode text

theorem encode_injective {text other : Text} (same : encode text = encode other) :
    text = other :=
  Option.some.inj (((decode?_eq_some_iff _ text).mpr same).symm.trans
    ((decode?_eq_some_iff _ other).mpr rfl))

theorem CharForm.eq_singleton {char : Char} {bytes : Bytes} (form : CharForm char bytes)
    {byte : UInt8} (isLast : bytes.getLast? = some byte) (ascii : byte.toNat < 0x80) :
    bytes = [byte] ∧ char.toNat = byte.toNat := by
  cases form with
  | one low charEq =>
      obtain rfl := Option.some.inj isLast
      exact ⟨rfl, charEq⟩
  | two _ _ tail | three _ _ _ tail | four _ _ _ tail =>
      simp only [List.getLast?_cons_cons, List.getLast?_singleton, Option.some.injEq] at isLast
      rw [IsTail, isLast] at tail
      omega

theorem encode_eq_concat_iff {char : Char} {byte : UInt8} (ascii : byte.toNat < 0x80)
    (charEq : char.toNat = byte.toNat) (text : Text) (bytes : Bytes) :
    encode text = bytes ++ [byte] ↔ ∃ front, text = front ++ [char] ∧ encode front = bytes := by
  have own : String.utf8EncodeChar char = [byte] := (CharForm.one ascii charEq).encode_eq
  constructor
  · intro encoded
    rcases List.eq_nil_or_concat text with rfl | ⟨front, last, rfl⟩
    · simp [encode] at encoded
    · have form := charForm_encode last
      rw [List.concat_eq_append, encode, List.flatMap_append, List.flatMap_singleton] at encoded
      generalize String.utf8EncodeChar last = lastBytes at form encoded
      have lastNonempty : lastBytes ≠ [] := by cases form <;> simp
      have lastEq := List.getLast?_eq_some_getLast lastNonempty
      have sameLast := congrArg List.getLast? encoded
      rw [List.getLast?_append, lastEq, Option.some_or, List.getLast?_concat] at sameLast
      obtain ⟨rfl, numberEq⟩ := form.eq_singleton (lastEq.trans sameLast) ascii
      have sameChar : last = char := Char.ext (UInt32.toNat_inj.mp (numberEq.trans charEq.symm))
      exact ⟨front, by rw [List.concat_eq_append, sameChar], List.append_cancel_right encoded⟩
  · rintro ⟨front, rfl, rfl⟩
    rw [encode, List.flatMap_append, List.flatMap_singleton, own]
    rfl

theorem feed_mem_encode {text : Text} (feed : 0x0A ∈ encode text) : '\n' ∈ text := by
  obtain ⟨char, member, inChar⟩ := List.mem_flatMap.mp feed
  have isFeed : char.toNat = 0x0A := by
    have form := charForm_encode char
    generalize String.utf8EncodeChar char = bytes at form inChar
    have feedEq : (0x0A : UInt8).toNat = 10 := rfl
    cases form with
    | one low charEq =>
        simp only [List.mem_singleton] at inChar
        rw [charEq, ← inChar]
        rfl
    | two lower _ second =>
        rw [IsTail] at second
        simp only [List.mem_cons, List.not_mem_nil, or_false] at inChar
        rcases inChar with rfl | rfl <;> omega
    | three lower _ second third =>
        rw [IsTail] at second third
        simp only [List.mem_cons, List.not_mem_nil, or_false] at inChar
        rcases inChar with rfl | rfl | rfl <;> omega
    | four lower second third fourth =>
        rw [IsTail] at second third fourth
        simp only [List.mem_cons, List.not_mem_nil, or_false] at inChar
        rcases inChar with rfl | rfl | rfl | rfl <;> omega
  have charEq : char = '\n' := Char.ext (UInt32.toNat_inj.mp isFeed)
  rwa [charEq] at member

/-! Text among bytes that are no text. No byte that begins a character is one that can go on with
another, so whatever has begun before it is given up and nothing of it is lost. -/

def State.Waits : State → Prop
  | .between => True
  | .inside _ low high _ => ∀ byte : UInt8, low ≤ byte.toNat ∧ byte.toNat ≤ high → IsTail byte

theorem waits_between : State.between.Waits := trivial

theorem start_waits {byte value low high following : Nat}
    (begun : start byte = .inside value low high following) :
    (State.inside value low high following).Waits := by
  intro next within
  have started := start_form byte
  generalize start byte = outcome at begun started
  cases started with
  | two =>
      obtain ⟨-, rfl, rfl, -⟩ := Start.inside.inj begun
      exact within
  | three _ _ bounds =>
      obtain ⟨-, rfl, rfl, -⟩ := Start.inside.inj begun
      exact ((bounds next.toNat).mp within).1
  | four _ _ bounds =>
      obtain ⟨-, rfl, rfl, -⟩ := Start.inside.inj begun
      exact ((bounds next.toNat).mp within).1
  | char | malformed => contradiction

theorem pieces_broken {value low high following : Nat} {byte : UInt8}
    (outside : ¬ (low ≤ byte.toNat ∧ byte.toNat ≤ high)) (rest : Bytes) :
    pieces (.inside value low high following) (byte :: rest) =
      none :: pieces .between (byte :: rest) := by
  rw [pieces_between, pieces, if_neg outside]
  cases start byte.toNat <;> rfl

theorem pieces_append {state : State} (waits : state.Waits) (front : Bytes) {first : UInt8}
    (begins : ¬ IsTail first) (rest : Bytes) :
    pieces state (front ++ first :: rest) =
      pieces state front ++ pieces .between (first :: rest) := by
  induction front generalizing state with
  | nil =>
      cases state with
      | between => rfl
      | inside value low high following =>
          apply pieces_broken
          intro within
          exact begins (waits first within)
  | cons byte front ih =>
      have fromBetween : pieces .between (byte :: (front ++ first :: rest)) =
          pieces .between (byte :: front) ++ pieces .between (first :: rest) := by
        rw [pieces_between, pieces_between]
        cases begun : start byte.toNat with
        | char char => exact congrArg (some char :: ·) (ih waits_between)
        | inside value low high following => exact ih (start_waits begun)
        | malformed => exact congrArg (none :: ·) (ih waits_between)
      cases state with
      | between => exact fromBetween
      | inside value low high following =>
          rw [List.cons_append]
          by_cases within : low ≤ byte.toNat ∧ byte.toNat ≤ high
          · cases following with
            | zero =>
                rw [pieces_last within, pieces_last within, ih waits_between]
                rfl
            | succ following =>
                rw [pieces_next within, pieces_next within]
                apply ih
                intro next tail
                exact tail
          · rw [pieces_broken within, pieces_broken within, fromBetween]
            rfl

theorem CharForm.begins {char : Char} {bytes : Bytes} (form : CharForm char bytes) :
    ∃ first rest, bytes = first :: rest ∧ ¬ IsTail first := by
  cases form with
  | @one first low =>
      refine ⟨first, [], rfl, ?_⟩
      rintro ⟨lower, _⟩
      omega
  | @two first second lower =>
      refine ⟨first, [second], rfl, ?_⟩
      rintro ⟨_, upper⟩
      omega
  | @three first second third lower =>
      refine ⟨first, [second, third], rfl, ?_⟩
      rintro ⟨_, upper⟩
      omega
  | @four first second third fourth lower =>
      refine ⟨first, [second, third, fourth], rfl, ?_⟩
      rintro ⟨_, upper⟩
      omega

/-- Text is decoded as it is, whatever bytes stand around it. -/
theorem decodeLossy_around {text : Text} (nonempty : text ≠ []) (front back : Bytes) :
    decodeLossy (front ++ (encode text ++ back)) =
      decodeLossy front ++ (text ++ decodeLossy back) := by
  obtain ⟨char, text, rfl⟩ := List.exists_cons_of_ne_nil nonempty
  obtain ⟨first, rest, firstEq, begins⟩ := (charForm_encode char).begins
  have piecesEq := pieces_encode_append (char :: text) back
  rw [encode, List.flatMap_cons, firstEq] at piecesEq ⊢
  simp only [List.cons_append] at piecesEq ⊢
  rw [decodeLossy, pieces_append waits_between front begins, piecesEq]
  simp [decodeLossy, Function.comp_def]

theorem decodeLossy_encode (text : Text) : decodeLossy (encode text) = text := by
  rw [decodeLossy, pieces_encode, List.map_map]
  exact List.map_id text

end TopicSieve.Utf8
