import TopicSieve.Text.Case

/-!
Folding a text again. Every character folds to one character that has no lower-case form of its own,
except for the capital I with a dot above, which folds to two. Main statement: a folded text folds
to itself.
-/

namespace TopicSieve.Text

namespace CaseRange

def Maps (range : CaseRange) (code : Nat) : Prop :=
  range.first ≤ code ∧ code ≤ range.last ∧ (code - range.first) % range.step = 0

instance (range : CaseRange) (code : Nat) : Decidable (range.Maps code) :=
  inferInstanceAs (Decidable (_ ∧ _ ∧ _))

def image (range : CaseRange) : CaseRange :=
  ⟨range.lower, range.lower + (range.last - range.first), range.step, range.lower⟩

theorem image_maps {range : CaseRange} {code : Nat} (mapped : range.Maps code) :
    range.image.Maps (range.lower + (code - range.first)) := by
  obtain ⟨lower, upper, onStep⟩ := mapped
  refine ⟨Nat.le_add_right _ _, ?_, ?_⟩
  · simp only [image]
    omega
  · simpa only [image, Nat.add_sub_cancel_left] using onStep

def betweenSteps (codes range : CaseRange) : Bool :=
  (codes.first == codes.last || codes.step % 2 == 0) && range.step % 2 == 0 &&
    (codes.first + range.first) % 2 == 1

theorem not_maps_of_betweenSteps {codes range : CaseRange}
    (between : codes.betweenSteps range = true) {code : Nat} (isCode : codes.Maps code) :
    ¬ range.Maps code := by
  obtain ⟨lower, upper, onStep⟩ := isCode
  rintro ⟨rangeLower, _, rangeOnStep⟩
  have even_of_onStep {distance step : Nat} (even : step % 2 = 0) (multiple : distance % step = 0) :
      distance % 2 = 0 :=
    Nat.mod_eq_zero_of_dvd
      (Nat.dvd_trans (Nat.dvd_of_mod_eq_zero even) (Nat.dvd_of_mod_eq_zero multiple))
  simp only [betweenSteps, Bool.or_eq_true, Bool.and_eq_true, beq_iff_eq] at between
  obtain ⟨⟨singleOrEven, rangeEven⟩, odd⟩ := between
  -- Both distances are even, but the starts differ by an odd number.
  have rangeDistance := even_of_onStep rangeEven rangeOnStep
  rcases singleOrEven with single | even
  · omega
  · have distance := even_of_onStep even onStep
    omega

end CaseRange

theorem lowerCode_cases (ranges : List CaseRange) (code : Nat) :
    lowerCode ranges code = code ∨ ∃ range ∈ ranges, range.Maps code ∧
      lowerCode ranges code = range.lower + (code - range.first) := by
  induction ranges with
  | nil => exact Or.inl rfl
  | cons range rest ih =>
      rw [lowerCode]
      split
      · exact Or.inl rfl
      · split
        · split
          · next lower upper onStep =>
              exact Or.inr ⟨range, List.mem_cons_self, ⟨by omega, upper, onStep⟩, rfl⟩
          · exact Or.inl rfl
        · rcases ih with same | ⟨found, member, mapped, result⟩
          · exact Or.inl same
          · exact Or.inr ⟨found, List.mem_cons_of_mem range member, mapped, result⟩

-- Like the search for a single code point, the check stops at the first range that lies beyond.
def misses (codes : CaseRange) : List CaseRange → Bool
  | [] => true
  | range :: rest =>
      if range.last < codes.first then misses codes rest
      else codes.last < range.first || codes.betweenSteps range && misses codes rest

theorem lowerCode_of_misses {codes : CaseRange} {ranges : List CaseRange}
    (missed : misses codes ranges = true) {code : Nat} (isCode : codes.Maps code) :
    lowerCode ranges code = code := by
  have lower := isCode.1
  have upper := isCode.2.1
  induction ranges with
  | nil => rfl
  | cons range rest ih =>
      rw [misses] at missed
      rw [lowerCode]
      split at missed
      · -- No order of the ranges is assumed, so the search may end here all the same.
        split
        · rfl
        · rw [if_neg (by omega)]
          exact ih missed
      · rw [Bool.or_eq_true, decide_eq_true_eq, Bool.and_eq_true] at missed
        rcases missed with beyond | ⟨between, restMissed⟩
        · rw [if_pos (by omega)]
        · have unmapped := CaseRange.not_maps_of_betweenSteps between isCode
          split
          · rfl
          · split
            · rw [if_neg fun onStep => unmapped ⟨by omega, by omega, onStep⟩]
            · exact ih restMissed

theorem misses_caseRanges : ∀ range ∈ caseRanges, misses range.image caseRanges = true := by
  decide +kernel

theorem lowerCode_lowerCode (code : Nat) :
    lowerCode caseRanges (lowerCode caseRanges code) = lowerCode caseRanges code := by
  rcases lowerCode_cases caseRanges code with same | ⟨range, inTable, mapped, result⟩
  · rw [same, same]
  · rw [result]
    exact lowerCode_of_misses (misses_caseRanges range inTable) (CaseRange.image_maps mapped)

theorem not_image_maps_dotted : ∀ range ∈ caseRanges, ¬ range.image.Maps 0x130 := by
  decide +kernel

theorem lowerCode_ne_dotted {code : Nat} (undotted : code ≠ 0x130) :
    lowerCode caseRanges code ≠ 0x130 := by
  rcases lowerCode_cases caseRanges code with same | ⟨range, inTable, mapped, result⟩
  · rwa [same]
  · intro dotted
    have isImage := CaseRange.image_maps mapped
    rw [← result, dotted] at isImage
    exact not_image_maps_dotted range inTable isImage

theorem image_valid : ∀ range ∈ caseRanges,
    range.image.last < 0xD800 ∨ 0xDFFF < range.image.first ∧ range.image.last < 0x110000 := by
  decide +kernel

theorem isValidChar_lowerCode (char : Char) : (lowerCode caseRanges char.toNat).isValidChar := by
  rcases lowerCode_cases caseRanges char.toNat with same | ⟨range, inTable, mapped, result⟩
  · rw [same]
    exact char.valid
  · obtain ⟨lower, upper, _⟩ := CaseRange.image_maps mapped
    have bounds := image_valid range inTable
    rw [result, Nat.isValidChar]
    omega

theorem lowerChar_dotted : lowerChar '\u0130' = ['i', '\u0307'] := rfl

theorem lowerChar_of_ne_dotted {char : Char} (undotted : char ≠ '\u0130') :
    ∃ lower, lowerChar char = [lower] ∧ lowerChar lower = [lower] := by
  refine ⟨Char.ofNat (lowerCode caseRanges char.toNat), if_neg undotted, ?_⟩
  have code := toNat_ofNat (isValidChar_lowerCode char)
  have charUndotted : char.toNat ≠ 0x130 := fun same => undotted (Char.toNat_inj.mp same)
  have lowerUndotted : Char.ofNat (lowerCode caseRanges char.toNat) ≠ '\u0130' := by
    intro same
    rw [same] at code
    exact lowerCode_ne_dotted charUndotted code.symm
  rw [lowerChar, if_neg lowerUndotted, code, lowerCode_lowerCode]

theorem lowerChar_ne_nil (char : Char) : lowerChar char ≠ [] := by
  rw [lowerChar]
  split <;> simp

theorem fold_cons (char : Char) (rest : Text) : fold (char :: rest) = lowerChar char ++ fold rest :=
  rfl

theorem fold_singleton (char : Char) : fold [char] = lowerChar char := List.flatMap_singleton _ _

theorem fold_lowerChar (char : Char) : fold (lowerChar char) = lowerChar char := by
  by_cases dotted : char = '\u0130'
  · rw [dotted]
    decide
  · obtain ⟨lower, lowerEq, fixed⟩ := lowerChar_of_ne_dotted dotted
    rw [lowerEq, fold_singleton, fixed]

@[simp] theorem fold_fold (text : Text) : fold (fold text) = fold text := by
  have step : (fun char => (lowerChar char).flatMap lowerChar) = lowerChar := funext fold_lowerChar
  simp only [fold, List.flatMap_assoc, step]

theorem fold_eq_nil_iff (text : Text) : fold text = [] ↔ text = [] := by
  cases text with
  | nil => simp
  | cons char rest => simp [fold_cons, lowerChar_ne_nil]

theorem fold_infix {piece text : Text} (inside : piece <:+: text) : fold piece <:+: fold text := by
  obtain ⟨front, back, rfl⟩ := inside
  rw [fold_append, fold_append]
  exact List.infix_append _ _ _

end TopicSieve.Text
