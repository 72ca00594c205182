import TopicSieve.Console.Files

/-!
A tree of files of which one file is given another content. Main statement: every path opens the
same as before, except for those that lead to that file.
-/

namespace TopicSieve.Files

def put (files : Files) (names : List Text) (content : Bytes) : Files :=
  ⟨(names, some content) :: files.entries⟩

theorem placeAt_put_self (files : Files) (names : List Text) (content : Bytes) :
    (files.put names content).placeAt names = .file content := by
  simp [put, placeAt]

theorem placeAt_put_other (files : Files) {names other : List Text} (different : other ≠ names)
    (left right : Bytes) :
    (files.put names left).placeAt other = (files.put names right).placeAt other := by
  have notHere : (names == other) = false := beq_eq_false_iff_ne.mpr (Ne.symm different)
  simp only [put, placeAt, List.find?_cons, notHere, List.any_cons]
  rfl

theorem follow_put (files : Files) (names : List Text) (left right : Bytes)
    (start parts : List Text) :
    (files.put names left).follow start parts = (files.put names right).follow start parts := by
  induction parts generalizing start with
  | nil => rfl
  | cons part rest ih =>
      by_cases here : start = names
      · rw [here, follow, follow, placeAt_put_self, placeAt_put_self]
      · rw [follow, follow, placeAt_put_other files here left right]
        simp only [ih]

structure LeadsTo (files : Files) (path : Text) (names : List Text) : Prop where
  noZero : path.contains '\x00' = false
  nonempty : path.isEmpty = false
  followed : files.follow [] (pathParts path) = .ok names

variable {files : Files} {names : List Text} {path : Text}

theorem leadsTo_put (left right : Bytes) :
    (files.put names left).LeadsTo path names ↔ (files.put names right).LeadsTo path names := by
  constructor
  · rintro ⟨noZero, nonempty, followed⟩
    exact ⟨noZero, nonempty, (follow_put files names left right _ _).symm.trans followed⟩
  · rintro ⟨noZero, nonempty, followed⟩
    exact ⟨noZero, nonempty, (follow_put files names left right _ _).trans followed⟩

def openPlace : Place → Except InputFault OpenFile
  | .missing => .error .notFound
  | .file content => .ok (.content content)
  | .directory => .ok (.unreadable .isDirectory)

theorem openPath_of_follow (noZero : path.contains '\x00' = false)
    (nonempty : path.isEmpty = false) :
    files.openPath path =
      files.follow [] (pathParts path) >>= fun names => openPlace (files.placeAt names) := by
  rw [openPath, if_neg (Bool.eq_false_iff.mp noZero), if_neg (Bool.eq_false_iff.mp nonempty)]
  rfl

theorem LeadsTo.openPath_eq {content : Bytes}
    (leads : (files.put names content).LeadsTo path names) :
    (files.put names content).openPath path = .ok (.content content) := by
  rw [openPath_of_follow leads.noZero leads.nonempty, leads.followed]
  exact congrArg openPlace (placeAt_put_self files names content)

theorem openPath_put {left : Bytes} (elsewhere : ¬ (files.put names left).LeadsTo path names)
    (right : Bytes) :
    (files.put names left).openPath path = (files.put names right).openPath path := by
  by_cases noZero : path.contains '\x00' = false
  · by_cases nonempty : path.isEmpty = false
    · rw [openPath_of_follow noZero nonempty, openPath_of_follow noZero nonempty,
        ← follow_put files names left right]
      cases followed : (files.put names left).follow [] (pathParts path) with
      | error fault => rfl
      | ok place =>
          have different : place ≠ names := by
            rintro rfl
            exact elsewhere ⟨noZero, nonempty, followed⟩
          exact congrArg openPlace (placeAt_put_other files different left right)
    · rw [Bool.not_eq_false] at nonempty
      rw [openPath, openPath, if_pos nonempty, if_pos nonempty]
  · rw [Bool.not_eq_false] at noZero
    rw [openPath, openPath, if_pos noZero, if_pos noZero]

end TopicSieve.Files
