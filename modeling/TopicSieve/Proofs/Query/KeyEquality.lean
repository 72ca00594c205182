import TopicSieve.Proofs.Query.Accounting
import TopicSieve.Proofs.Query.LastWrite
import TopicSieve.Proofs.Text.Utf8

/-!
When two keys are one key. The quick test looks at the encoded keys byte by byte and lowers nothing
but ASCII letters; the slow one folds whole characters. Main statement: the quick test never joins
keys that folding keeps apart, so keys are one key exactly if they fold alike, and the warnings about
keys that are given again follow the same rule.
-/

namespace TopicSieve

namespace Utf8

def isCapitalByte (byte : UInt8) : Bool := 0x41 ≤ byte.toNat && byte.toNat ≤ 0x5A

def lowerByte (byte : UInt8) : UInt8 := if isCapitalByte byte then byte + 0x20 else byte

def sameLetters (left right : Bytes) : Bool :=
  left.length == right.length &&
    (left.zip right).all fun (byte, other) => lowerByte byte == lowerByte other

theorem sameLetters_iff (left right : Bytes) :
    sameLetters left right = true ↔ left.map lowerByte = right.map lowerByte := by
  induction left generalizing right with
  | nil => cases right <;> simp [sameLetters]
  | cons byte left ih =>
      cases right with
      | nil => simp [sameLetters]
      | cons other right =>
          have tail := ih right
          simp only [sameLetters, Bool.and_eq_true, beq_iff_eq] at tail
          simp only [sameLetters, List.length_cons, List.zip_cons_cons, List.all_cons,
            Bool.and_eq_true, beq_iff_eq, List.map_cons, List.cons.injEq, Nat.add_right_cancel_iff]
          rw [← tail]
          exact and_left_comm

theorem lowerByte_of_high {byte : UInt8} (high : 0x80 ≤ byte.toNat) : lowerByte byte = byte := by
  have notCapital : isCapitalByte byte = false := by
    simp only [isCapitalByte, Bool.and_eq_false_iff, decide_eq_false_iff_not]
    omega
  rw [lowerByte, notCapital]
  rfl

theorem lowerByte_ascii : ∀ code < 128, String.utf8EncodeChar (Char.ofNat code).toLower =
    [lowerByte (UInt8.ofNat code)] := by
  decide

theorem CharForm.map_lowerByte {char : Char} {bytes : Bytes} (form : CharForm char bytes)
    (beyond : 0x80 ≤ char.toNat) : bytes.map lowerByte = bytes := by
  have lowered : ∀ byte ∈ bytes, lowerByte byte = byte := by
    cases form with
    | one low charEq => omega
    | two lower _ second =>
        rw [List.forall_mem_cons, List.forall_mem_singleton]
        exact ⟨lowerByte_of_high (by omega), lowerByte_of_high second.1⟩
    | three lower _ second third =>
        rw [List.forall_mem_cons, List.forall_mem_cons, List.forall_mem_singleton]
        exact ⟨lowerByte_of_high (by omega), lowerByte_of_high second.1, lowerByte_of_high third.1⟩
    | four lower second third fourth =>
        rw [List.forall_mem_cons, List.forall_mem_cons, List.forall_mem_cons,
          List.forall_mem_singleton]
        exact ⟨lowerByte_of_high (by omega), lowerByte_of_high second.1, lowerByte_of_high third.1,
          lowerByte_of_high fourth.1⟩
  rw [List.map_congr_left lowered, List.map_id']

theorem map_lowerByte_char (char : Char) :
    (String.utf8EncodeChar char).map lowerByte = String.utf8EncodeChar char.toLower := by
  have form := charForm_encode char
  by_cases ascii : char.toNat < 128
  · have lowered := lowerByte_ascii char.toNat ascii
    rw [Char.ofNat_toNat] at lowered
    have own : CharForm char [UInt8.ofNat char.toNat] := by
      have byteEq := @toNat_lead char.toNat (by omega)
      exact .one (by omega) byteEq.symm
    rw [lowered, own.encode_eq, List.map_singleton]
  · rw [Text.toLower_of_not_ascii ascii]
    exact form.map_lowerByte (by omega)

theorem map_lowerByte_encode (text : Text) :
    (encode text).map lowerByte = encode (Text.asciiLower text) := by
  induction text with
  | nil => rfl
  | cons char rest ih =>
      rw [encode, encode] at ih
      rw [encode, encode, List.flatMap_cons, List.map_append, map_lowerByte_char, ih]
      rfl

theorem sameLetters_encode (left right : Text) :
    sameLetters (encode left) (encode right) = Text.sameAscii left right := by
  rw [Bool.eq_iff_iff, sameLetters_iff, map_lowerByte_encode, map_lowerByte_encode,
    Text.sameAscii, beq_iff_eq]
  exact ⟨encode_injective, congrArg encode⟩

end Utf8

theorem sameKey_equivalence : Equivalence fun left right => sameKey left right = true where
  refl key := (sameKey_iff key key).mpr rfl
  symm := by
    intro left right same
    rw [sameKey_iff] at same ⊢
    exact same.symm
  trans := by
    intro first second third same next
    rw [sameKey_iff] at same next ⊢
    exact same.trans next

theorem sameKey_eq_beq (left right : Text) :
    sameKey left right = (Text.fold left == Text.fold right) := by
  rw [Bool.eq_iff_iff, sameKey_iff, beq_iff_eq]

namespace QueryWarning

open FilterMap (segmentPair?)

variable {segment key value : Text}

theorem ofSegments_concat_key (pair : segmentPair? segment = some (key, value))
    (seen earlier : List Text) :
    ofSegments seen (earlier ++ [segment]) = ofSegments seen earlier ++
      if seen.contains (Text.fold key) || hasKey (earlier.filterMap segmentPair?) key
      then [.duplicateKey key] else [] := by
  induction earlier generalizing seen with
  | nil =>
      obtain ⟨split, keyed⟩ := Option.filter_eq_some_iff.mp pair
      obtain ⟨first, more, rfl⟩ := List.exists_cons_of_ne_nil (by simpa using keyed : key ≠ [])
      simp [ofSegments, split, hasKey]
  | cons previous earlier ih =>
      cases split : splitTerm? previous with
      | none =>
          have dropped := FilterMap.segmentPair?_of_none split
          simp only [List.cons_append, ofSegments, split, ih, List.filterMap_cons_none dropped]
      | some other =>
          obtain ⟨otherKey, otherValue⟩ := other
          cases otherKey with
          | nil =>
              have dropped := FilterMap.segmentPair?_of_blankKey split
              simp only [List.cons_append, ofSegments, split, ih, List.filterMap_cons_none dropped]
          | cons first more =>
              have kept := FilterMap.segmentPair?_of_key split
              rw [List.filterMap_cons_some kept, hasKey_cons, sameKey_eq_beq]
              by_cases known : Text.fold (first :: more) ∈ seen
              · -- The seen keys stay as they are, and have this one among them.
                have absorbed : (seen.contains (Text.fold key) ||
                    Text.fold (first :: more) == Text.fold key) = seen.contains (Text.fold key) := by
                  refine (Bool.eq_self_or.mpr ?_).symm
                  intro same
                  rw [← beq_iff_eq.mp same]
                  exact List.contains_iff_mem.mpr known
                simp only [List.cons_append, ofSegments, split, List.contains_iff_mem.mpr known,
                  if_true, ih, ← Bool.or_assoc, absorbed]
              · have fresh : seen.contains (Text.fold (first :: more)) = false := by
                  simpa using known
                simp only [List.cons_append, ofSegments, split, fresh, Bool.false_eq_true, if_false,
                  ih, List.contains_cons, Bool.or_assoc, Bool.or_left_comm, BEq.comm]

end QueryWarning

/-- Keys are one key exactly if they fold alike: comparing their bytes with ASCII letters lowered
never joins keys that folding keeps apart. The warnings compare keys by the same rule. -/
theorem sameKey_isFoldEquality :
    (∀ left right : Text,
      sameKey left right = (Utf8.sameLetters (Utf8.encode left) (Utf8.encode right) ||
        Text.fold left == Text.fold right) ∧
      (Utf8.sameLetters (Utf8.encode left) (Utf8.encode right) = true →
        Text.fold left = Text.fold right) ∧
      (sameKey left right = true ↔ Text.fold left = Text.fold right)) ∧
    Equivalence (fun left right => sameKey left right = true) ∧
    ∀ (earlier : List Text) (segment key value : Text),
      FilterMap.segmentPair? segment = some (key, value) →
      QueryWarning.ofSegments [] (earlier ++ [segment]) = QueryWarning.ofSegments [] earlier ++
        if (earlier.filterMap FilterMap.segmentPair?).any fun pair => sameKey pair.1 key
        then [.duplicateKey key] else [] := by
  refine ⟨?_, sameKey_equivalence, ?_⟩
  · intro left right
    rw [Utf8.sameLetters_encode]
    have joined (quick : Text.sameAscii left right = true) : sameKey left right = true := by
      rw [sameKey, quick, Bool.true_or]
    exact ⟨rfl, fun quick => (sameKey_iff left right).mp (joined quick), sameKey_iff left right⟩
  · intro earlier segment key value pair
    exact QueryWarning.ofSegments_concat_key pair [] earlier

def kelvinSign : Text := "\u212A"

theorem sameKey_isFoldEquality_kelvinSign :
    FilterMap.segmentPair? (kelvinSign ++ "=2") = some (kelvinSign, ['2']) ∧
      QueryWarning.ofSegments [] ([['k', '=', '1']] ++ [kelvinSign ++ "=2"]) =
        QueryWarning.ofSegments [] [['k', '=', '1']] ++ [.duplicateKey kelvinSign] := by
  have pair : FilterMap.segmentPair? (kelvinSign ++ "=2") = some (kelvinSign, ['2']) := by decide
  refine ⟨pair, ?_⟩
  exact sameKey_isFoldEquality.2.2 [['k', '=', '1']] (kelvinSign ++ "=2") kelvinSign ['2'] pair

end TopicSieve
