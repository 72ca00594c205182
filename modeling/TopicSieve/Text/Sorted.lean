import TopicSieve.Text.Basic

/-!
Sorted lists of names. Texts are ordered by their code points. Main statement: sorting leaves each
name once, in strictly ascending order.
-/

namespace TopicSieve.Text

def insertName (name : Text) : List Text → List Text
  | [] => [name]
  | head :: rest =>
      if name < head then name :: head :: rest
      else if name = head then head :: rest
      else head :: insertName name rest

def distinctSorted (names : List Text) : List Text := names.foldr insertName []

theorem mem_insertName (name other : Text) (names : List Text) :
    other ∈ insertName name names ↔ other = name ∨ other ∈ names := by
  induction names with
  | nil => simp [insertName]
  | cons head rest ih =>
      unfold insertName
      split
      · simp
      · split
        · next same => simp [same]
        · rw [List.mem_cons, ih, List.mem_cons]
          constructor
          · rintro (isHead | isName | inRest)
            · exact Or.inr (Or.inl isHead)
            · exact Or.inl isName
            · exact Or.inr (Or.inr inRest)
          · rintro (isName | isHead | inRest)
            · exact Or.inr (Or.inl isName)
            · exact Or.inl isHead
            · exact Or.inr (Or.inr inRest)

theorem mem_distinctSorted (name : Text) (names : List Text) :
    name ∈ distinctSorted names ↔ name ∈ names := by
  induction names with
  | nil => simp [distinctSorted]
  | cons head rest ih =>
      have step : distinctSorted (head :: rest) = insertName head (distinctSorted rest) := rfl
      rw [step, mem_insertName, ih, List.mem_cons]

theorem pairwise_insertName (name : Text) (names : List Text)
    (sorted : names.Pairwise (· < ·)) : (insertName name names).Pairwise (· < ·) := by
  induction names with
  | nil => exact List.pairwise_singleton _ _
  | cons head rest ih =>
      have headFirst := (List.pairwise_cons.mp sorted).1
      have restSorted := (List.pairwise_cons.mp sorted).2
      unfold insertName
      split
      · next before =>
          refine List.pairwise_cons.mpr ⟨?_, sorted⟩
          intro other member
          rcases List.mem_cons.mp member with isHead | inRest
          · rw [isHead]
            exact before
          · exact List.lt_trans before (headFirst other inRest)
      · split
        · exact sorted
        · next notBefore different =>
            refine List.pairwise_cons.mpr ⟨?_, ih restSorted⟩
            intro other member
            rcases (mem_insertName name other rest).mp member with isName | inRest
            · rw [isName]
              rcases List.le_iff_lt_or_eq.mp (List.not_lt.mp notBefore) with before | same
              · exact before
              · exact absurd same.symm different
            · exact headFirst other inRest

theorem pairwise_distinctSorted (names : List Text) :
    (distinctSorted names).Pairwise (· < ·) := by
  induction names with
  | nil => exact List.Pairwise.nil
  | cons head rest ih => exact pairwise_insertName head _ ih

end TopicSieve.Text
