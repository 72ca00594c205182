import TopicSieve.Text.Blank

/-!
Cutting a text at a separator and trimming it, told by the pieces of the text. Main statements:
pieces without the separator come back from their joined text, and trimming takes off the white
space around a text that has none at its ends.
-/

namespace TopicSieve.Text

theorem splitFirst_eq_none_iff (separator : Char) (text : Text) :
    splitFirst separator text = none ↔ separator ∉ text := by
  induction text with
  | nil => simp [splitFirst]
  | cons head rest ih =>
      by_cases same : head = separator
      · simp [splitFirst, same]
      · simp only [splitFirst, same, if_false, Option.map_eq_none_iff, ih, List.mem_cons, not_or]
        exact ⟨fun absent => ⟨Ne.symm same, absent⟩, fun absent => absent.2⟩

theorem splitFirst_eq_some_iff (separator : Char) (text before after : Text) :
    splitFirst separator text = some (before, after) ↔
      text = before ++ separator :: after ∧ separator ∉ before := by
  induction text generalizing before with
  | nil => simp [splitFirst]
  | cons head rest ih =>
      by_cases same : head = separator
      · subst same
        simp only [splitFirst, if_true, Option.some.injEq, Prod.mk.injEq]
        constructor
        · rintro ⟨rfl, rfl⟩
          simp
        · rintro ⟨split, absent⟩
          cases before with
          | nil => simpa using split
          | cons first more =>
              obtain ⟨rfl, _⟩ := List.cons.inj split
              exact absurd List.mem_cons_self absent
      · simp only [splitFirst, same, if_false, Option.map_eq_some_iff, Prod.mk.injEq]
        constructor
        · rintro ⟨⟨front, back⟩, found, rfl, rfl⟩
          obtain ⟨rfl, absent⟩ := (ih front).mp found
          exact ⟨rfl, by simp [Ne.symm same, absent]⟩
        · rintro ⟨split, absent⟩
          cases before with
          | nil => exact absurd (List.cons.inj split).1 same
          | cons first more =>
              obtain ⟨rfl, restSplit⟩ := List.cons.inj split
              simp only [List.mem_cons, not_or] at absent
              exact ⟨(more, after), (ih more).mpr ⟨restSplit, absent.2⟩, rfl, rfl⟩

theorem splitOn_ne_nil (separator : Char) (text : Text) : splitOn separator text ≠ [] := by
  cases text with
  | nil => simp [splitOn]
  | cons head rest =>
      rw [splitOn]
      split
      · simp
      · split <;> simp

theorem splitOn_append (separator : Char) (front back : Text) :
    splitOn separator (front ++ separator :: back) =
      splitOn separator front ++ splitOn separator back := by
  induction front with
  | nil => simp [splitOn]
  | cons head rest ih =>
      by_cases same : head = separator
      · simp [splitOn, same, ih]
      · cases pieces : splitOn separator rest with
        | nil => exact absurd pieces (splitOn_ne_nil separator rest)
        | cons piece more => simp [splitOn, same, ih, pieces]

theorem splitOn_of_not_mem {separator : Char} {text : Text} (absent : separator ∉ text) :
    splitOn separator text = [text] := by
  induction text with
  | nil => rfl
  | cons head rest ih =>
      simp only [List.mem_cons, not_or] at absent
      rw [splitOn, if_neg (Ne.symm absent.1), ih absent.2]

theorem length_splitOn (separator : Char) (text : Text) :
    (splitOn separator text).length = text.count separator + 1 := by
  induction text with
  | nil => rfl
  | cons head rest ih =>
      rw [splitOn]
      by_cases same : head = separator
      · rw [if_pos same, same, List.length_cons, List.count_cons_self, ih]
      · rw [if_neg same, List.count_cons_of_ne same, ← ih]
        cases pieces : splitOn separator rest with
        | nil => exact absurd pieces (splitOn_ne_nil separator rest)
        | cons piece more => rfl

theorem splitOn_join {separator : Char} {pieces : List Text}
    (absent : ∀ piece ∈ pieces, separator ∉ piece) (nonempty : pieces ≠ []) :
    splitOn separator (join [separator] pieces) = pieces := by
  induction pieces with
  | nil => contradiction
  | cons first rest ih =>
      have firstEq := splitOn_of_not_mem (absent first List.mem_cons_self)
      cases rest with
      | nil => exact firstEq
      | cons next more =>
          have restEq := ih (fun piece member => absent piece (List.mem_cons_of_mem _ member))
            (List.cons_ne_nil next more)
          rw [join, List.append_assoc, List.singleton_append, splitOn_append, firstEq, restEq,
            List.singleton_append]

theorem join_cons (separator : Char) (first : Text) (rest : List Text) :
    join [separator] (first :: rest) = first ++ rest.flatMap (separator :: ·) := by
  induction rest generalizing first with
  | nil => exact (List.append_nil first).symm
  | cons next more ih => rw [join, ih next, List.flatMap_cons, List.append_assoc]; rfl

theorem length_le_flatMap (separator : Char) (parts : List Text) :
    parts.length ≤ (parts.flatMap (separator :: ·)).length := by
  induction parts with
  | nil => exact Nat.le_refl 0
  | cons part parts ih =>
      simp only [List.flatMap_cons, List.length_append, List.length_cons]
      omega

theorem not_mem_of_mem_splitOn {separator : Char} {text piece : Text}
    (member : piece ∈ splitOn separator text) : separator ∉ piece := by
  induction text generalizing piece with
  | nil => simp_all [splitOn]
  | cons head rest ih =>
      rw [splitOn] at member
      split at member
      · rcases List.mem_cons.mp member with rfl | later
        · exact List.not_mem_nil
        · exact ih later
      · next different =>
          cases pieces : splitOn separator rest with
          | nil => exact absurd pieces (splitOn_ne_nil separator rest)
          | cons first more =>
              simp only [pieces, List.mem_cons] at member ih
              rcases member with rfl | later
              · simp [Ne.symm different, ih (Or.inl rfl)]
              · exact ih (Or.inr later)

theorem of_mem_takeWhile {test : Char → Bool} {text : Text} {char : Char}
    (member : char ∈ text.takeWhile test) : test char = true :=
  List.all_eq_true.mp List.all_takeWhile char member

theorem of_head?_dropWhile {test : Char → Bool} {text : Text} {char : Char}
    (found : (text.dropWhile test).head? = some char) : test char = false := by
  have stopped := List.head?_dropWhile_not test text
  rwa [found] at stopped

theorem drop_length_takeWhile (test : Char → Bool) (text : Text) :
    text.drop (text.takeWhile test).length = text.dropWhile test := by
  induction text with
  | nil => rfl
  | cons char rest ih =>
      by_cases holds : test char = true
      · rw [List.takeWhile_cons_of_pos holds, List.dropWhile_cons_of_pos holds]
        exact ih
      · rw [List.takeWhile_cons_of_neg holds, List.dropWhile_cons_of_neg holds]
        rfl

theorem length_le_byteLength (text : Text) : text.length ≤ byteLength text := by
  induction text with
  | nil => exact Nat.le_refl 0
  | cons char text ih =>
      have positive := Char.utf8Size_pos char
      have lengthEq : byteLength (char :: text) = char.utf8Size + byteLength text := rfl
      rw [List.length_cons, lengthEq]
      omega

theorem takeWhile_run {test : Char → Bool} {run rest : Text}
    (holds : ∀ char ∈ run, test char = true)
    (ends : ∀ next, rest.head? = some next → test next = false) :
    (run ++ rest).takeWhile test = run := by
  rw [List.takeWhile_append_of_pos holds]
  cases rest with
  | nil => exact List.append_nil run
  | cons next more => simp [ends next rfl]

theorem dropWhile_run {test : Char → Bool} {run rest : Text}
    (holds : ∀ char ∈ run, test char = true)
    (ends : ∀ next, rest.head? = some next → test next = false) :
    (run ++ rest).dropWhile test = rest := by
  rw [List.dropWhile_append_of_pos holds]
  cases rest with
  | nil => rfl
  | cons next more => simp [ends next rfl]

theorem dropWhile_eq_nil_iff (test : Char → Bool) (text : Text) :
    text.dropWhile test = [] ↔ ∀ char ∈ text, test char = true := by
  induction text with
  | nil => simp
  | cons head rest ih =>
      by_cases holds : test head = true
      · rw [List.dropWhile_cons_of_pos holds, ih]
        simp [holds]
      · rw [List.dropWhile_cons_of_neg holds]
        simp [holds]

theorem trim_eq_nil_iff (text : Text) : trim text = [] ↔ ∀ char ∈ text, isBlank char = true := by
  simp only [trim, trimEnd, List.reverse_eq_nil_iff, dropWhile_eq_nil_iff, List.mem_reverse]
  constructor
  · intro startBlank
    -- Were there a first character that is not blank, trimming the end would keep it.
    rw [← dropWhile_eq_nil_iff]
    cases keptEq : text.dropWhile isBlank with
    | nil => rfl
    | cons head rest =>
        have headEq : (text.dropWhile isBlank).head? = some head := by rw [keptEq, List.head?_cons]
        have blank := startBlank head (by rw [trimStart, keptEq]; exact List.mem_cons_self)
        rw [of_head?_dropWhile headEq] at blank
        contradiction
  · intro allBlank char member
    exact allBlank char ((List.dropWhile_sublist _).subset member)

theorem dropEndWhile_split (test : Char → Bool) (text : Text) :
    ∃ ends, text = dropEndWhile test text ++ ends ∧ (∀ char ∈ ends, test char = true) ∧
      ∀ last ∈ (dropEndWhile test text).getLast?, test last = false := by
  refine ⟨(text.reverse.takeWhile test).reverse, ?_, ?_, ?_⟩
  · rw [dropEndWhile, ← List.reverse_append, List.takeWhile_append_dropWhile, List.reverse_reverse]
  · intro char member
    exact of_mem_takeWhile (List.mem_reverse.mp member)
  · intro last isLast
    rw [dropEndWhile, List.getLast?_reverse, Option.mem_def] at isLast
    exact of_head?_dropWhile isLast

structure Trimmed (text : Text) : Prop where
  head : ∀ first, text.head? = some first → isBlank first = false
  last : ∀ final, text.getLast? = some final → isBlank final = false

theorem trimmed_of_notBlank {text : Text} (notBlank : ∀ char ∈ text, isBlank char = false) :
    Trimmed text where
  head first isFirst := notBlank first (List.mem_of_head? isFirst)
  last final isFinal := notBlank final (List.mem_of_getLast? isFinal)

theorem trim_split (text : Text) :
    ∃ front back, text = front ++ (trim text ++ back) ∧
      (∀ char ∈ front, isBlank char = true) ∧ ∀ char ∈ back, isBlank char = true := by
  obtain ⟨back, startEq, backBlank, _⟩ := dropEndWhile_split isBlank (trimStart text)
  refine ⟨text.takeWhile isBlank, back, ?_, fun _ => of_mem_takeWhile, backBlank⟩
  have trimEq : dropEndWhile isBlank (trimStart text) = trim text := rfl
  rw [← trimEq, ← startEq]
  exact List.takeWhile_append_dropWhile.symm

theorem trimmed_trim (text : Text) : Trimmed (trim text) := by
  obtain ⟨back, startEq, _, lastNotBlank⟩ := dropEndWhile_split isBlank (trimStart text)
  have trimEq : dropEndWhile isBlank (trimStart text) = trim text := rfl
  rw [trimEq] at startEq lastNotBlank
  refine ⟨?_, lastNotBlank⟩
  intro first isFirst
  have startFirst : (text.dropWhile isBlank).head? = some first := by
    rw [← trimStart, startEq, List.head?_append, isFirst, Option.some_or]
  exact of_head?_dropWhile startFirst

theorem trim_between {front core back : Text} (trimmed : Trimmed core)
    (frontBlank : ∀ char ∈ front, isBlank char = true)
    (backBlank : ∀ char ∈ back, isBlank char = true) : trim (front ++ (core ++ back)) = core := by
  cases core with
  | nil =>
      rw [trim_eq_nil_iff]
      intro char member
      rcases List.mem_append.mp member with inFront | inBack
      · exact frontBlank char inFront
      · exact backBlank char inBack
  | cons first more =>
      have startEq : trimStart (front ++ (first :: more ++ back)) = first :: more ++ back :=
        dropWhile_run frontBlank trimmed.head
      rw [trim, startEq, trimEnd, List.reverse_append, dropWhile_run, List.reverse_reverse]
      · intro char member
        exact backBlank char (List.mem_reverse.mp member)
      · intro final isFinal
        rw [List.head?_reverse] at isFinal
        exact trimmed.last final isFinal

theorem Trimmed.trim_eq {text : Text} (trimmed : Trimmed text) : trim text = text := by
  have nothing : ∀ char ∈ ([] : Text), isBlank char = true := by simp
  have between := trim_between trimmed nothing nothing
  rwa [List.nil_append, List.append_nil] at between

theorem trimmed_iff (text : Text) : Trimmed text ↔ trim text = text :=
  ⟨Trimmed.trim_eq, fun same => same ▸ trimmed_trim text⟩

instance (text : Text) : Decidable (Trimmed text) := decidable_of_iff' _ (trimmed_iff text)

theorem Trimmed.around {front back : Text} (frontTrimmed : Trimmed front)
    (backTrimmed : Trimmed back) (frontNonempty : front ≠ []) (backNonempty : back ≠ [])
    (middle : Text) : Trimmed (front ++ (middle ++ back)) where
  head := by
    cases front with
    | nil => contradiction
    | cons first more => exact frontTrimmed.head
  last := by
    intro final isFinal
    rw [List.getLast?_append, List.getLast?_append] at isFinal
    cases lastEq : back.getLast? with
    | none => exact absurd (List.getLast?_eq_none_iff.mp lastEq) backNonempty
    | some last =>
        rw [lastEq, Option.some_or, Option.some_or] at isFinal
        exact backTrimmed.last final (lastEq.trans isFinal)

theorem mem_of_mem_trim {text : Text} {char : Char} (member : char ∈ trim text) : char ∈ text := by
  obtain ⟨front, back, split, _, _⟩ := trim_split text
  rw [split]
  exact List.mem_append_right front (List.mem_append_left back member)

end TopicSieve.Text
