import TopicSieve.Proofs.Query.Explanation
import TopicSieve.Proofs.Text.FoldCut

/-!
Where the characters stand that make a pair be found in a body. Main statements: a pair is found
wherever characters of the body fold to one of its forms, whatever surrounds them; and where a pair
is found, there are characters of the body that fold to its form, except that half of a capital I
with a dot above may hang over at either end.
-/

namespace TopicSieve

namespace Text

/-- The runs of characters of a text, by where they start and how long they are. -/
def runs (text : Text) : List Text :=
  (List.range (text.length + 1)).flatMap fun start =>
    (List.range (text.length + 1)).map fun size => (text.drop start).take size

theorem mem_runs_iff (run text : Text) : run ∈ runs text ↔ run <:+: text := by
  simp only [runs, List.mem_flatMap, List.mem_map, List.mem_range]
  constructor
  · rintro ⟨start, _, size, _, rfl⟩
    exact (List.take_prefix _ _).isInfix.trans (List.drop_suffix _ _).isInfix
  · rintro ⟨front, back, rfl⟩
    refine ⟨front.length, ?_, run.length, ?_, ?_⟩
    · simp only [List.length_append]
      omega
    · simp only [List.length_append]
      omega
    · rw [List.append_assoc, List.drop_left, List.take_left]

end Text

namespace Pattern

theorem fold_render (key value : Text) (pattern : Pattern) :
    Text.fold (pattern.render key value) = pattern.render (Text.fold key) (Text.fold value) := by
  cases pattern with
  | keyEquals => simp only [render, Text.fold_append]; rfl
  | spacedJson => simp only [render, Text.fold_append]; rfl
  | singleQuoted => simp only [render, Text.fold_append]; rfl
  | compactJson => simp only [render, Text.fold_append]; rfl

theorem isSome_find?_iff (body : Text) (pair : Pair) :
    (find? (Text.fold body) pair).isSome = true ↔
      ∃ pattern : Pattern, pattern.Occurs pair body := by
  simp only [find?, List.find?_isSome, mem_all, true_and, Text.occursIn_iff, Occurs]

theorem occurs_of_piece {pattern : Pattern} {pair : Pair} {body piece : Text}
    (inside : piece <:+: body)
    (folded : Text.fold piece = Text.fold (pattern.render pair.1 pair.2)) :
    pattern.Occurs pair body := by
  rw [Occurs, ← fold_render, ← folded]
  exact Text.fold_infix inside

theorem Occurs.around {pattern : Pattern} {pair : Pair} {body : Text}
    (occurs : pattern.Occurs pair body) (front back : Text) :
    pattern.Occurs pair (front ++ body ++ back) :=
  List.IsInfix.trans occurs (Text.fold_infix (List.infix_append front body back))

end Pattern

namespace FilterMap

theorem accepts_iff_occurs (map : FilterMap) (body : Text) :
    map.accepts body = true ↔ ∀ pair ∈ map.pairs,
      body ≠ [] ∧ (pair.1 ≠ [] → ∃ pattern : Pattern, pattern.Occurs pair body) := by
  simp only [accepts_iff, Fulfils, Pattern.isSome_find?_iff]

/-- No pair is missed that some piece of the body shows in one of the four forms, and no text around
a body that is accepted makes a difference. -/
theorem accepts_of_pieces (map : FilterMap) (body : Text) :
    (body ≠ [] → (∀ pair ∈ map.pairs, pair.1 ≠ [] → ∃ piece, piece <:+: body ∧
        ∃ pattern : Pattern, Text.fold piece = Text.fold (pattern.render pair.1 pair.2)) →
      map.accepts body = true) ∧
    ∀ front back, map.accepts body = true → map.accepts (front ++ body ++ back) = true := by
  simp only [accepts_iff_occurs]
  constructor
  · intro nonempty shown pair member
    refine ⟨nonempty, ?_⟩
    intro keyed
    obtain ⟨piece, inside, pattern, folded⟩ := shown pair member keyed
    exact ⟨pattern, Pattern.occurs_of_piece inside folded⟩
  · intro front back accepted pair member
    obtain ⟨nonempty, found⟩ := accepted pair member
    refine ⟨by simp [nonempty], ?_⟩
    intro keyed
    obtain ⟨pattern, occurs⟩ := found keyed
    exact ⟨pattern, occurs.around front back⟩

theorem accepts_of_pieces_sigma :
    let map := ofList [("Σ", "1"), ([], "x"), ("İd", "İ")]
    let body : Text := "ΑΣ=1,[\"i̇D\":İ]"
    (body ≠ [] ∧ (∀ pair ∈ map.pairs, pair.1 ≠ [] → ∃ piece, piece <:+: body ∧
        ∃ pattern : Pattern, Text.fold piece = Text.fold (pattern.render pair.1 pair.2))) ∧
      map.accepts body = true ∧ map.accepts ("σ" ++ body ++ "ς") = true := by
  intro map body
  have nonempty : body ≠ [] := by decide
  have shown : ∀ pair ∈ map.pairs, pair.1 ≠ [] → ∃ piece, piece <:+: body ∧
      ∃ pattern : Pattern, Text.fold piece = Text.fold (pattern.render pair.1 pair.2) := by
    have pairsEq : map.pairs = ([("Σ", "1"), ([], "x"), ("İd", "İ")] : List Pair) := by decide
    rw [pairsEq, List.forall_mem_cons, List.forall_mem_cons, List.forall_mem_singleton]
    refine ⟨fun _ => ?_, fun keyed => absurd rfl keyed, fun _ => ?_⟩
    · exact ⟨"Σ=1", ⟨"Α", ",[\"i̇D\":İ]", by decide⟩, .keyEquals, by decide⟩
    · exact ⟨"\"i̇D\":İ", ⟨"ΑΣ=1,[", "]", by decide⟩, .compactJson, by decide⟩
  have accepted := (accepts_of_pieces map body).1 nonempty shown
  exact ⟨⟨nonempty, shown⟩, accepted, (accepts_of_pieces map body).2 "σ" "ς" accepted⟩

end FilterMap

namespace Pattern

def OccursWhole (pattern : Pattern) (pair : Pair) (body : Text) : Prop :=
  ∃ run, run <:+: body ∧
    Text.fold run = pattern.render (Text.fold pair.1) (Text.fold pair.2)

instance (pattern : Pattern) (pair : Pair) (body : Text) :
    Decidable (pattern.OccursWhole pair body) :=
  decidable_of_iff (∃ run ∈ Text.runs body,
      Text.fold run = pattern.render (Text.fold pair.1) (Text.fold pair.2)) (by
    simp only [OccursWhole, Text.mem_runs_iff])

/-- Characters of a body show a pair in the form of a pattern. The other half of a capital I with a
dot above may hang over in front of a key that begins with the dot and behind a value that ends
in `i`. -/
structure ShownBy (pattern : Pattern) (pair : Pair) (run lead tail : Text) : Prop where
  fold_eq : Text.fold run = lead ++ pattern.render (Text.fold pair.1) (Text.fold pair.2) ++ tail
  front : lead = [] ∨ lead = ['i'] ∧ run.head? = some '\u0130' ∧ pattern = keyEquals ∧
    (Text.fold pair.1).head? = some '\u0307'
  back : tail = [] ∨ tail = ['\u0307'] ∧ run.getLast? = some '\u0130' ∧ pattern ≠ singleQuoted ∧
    (Text.fold pair.2).getLast? = some 'i'

theorem of_head?_render {pattern : Pattern} {key value : Text}
    (dot : (pattern.render key value).head? = some '\u0307') :
    pattern = keyEquals ∧ key.head? = some '\u0307' := by
  cases pattern with
  | keyEquals =>
      cases key with
      | nil => exact absurd (Option.some.inj dot) (by decide)
      | cons first rest => exact ⟨rfl, dot⟩
  | spacedJson | singleQuoted | compactJson => exact absurd (Option.some.inj dot) (by decide)

theorem getLast?_of_append {front back : Text} {char : Char}
    (found : (front ++ back).getLast? = some char) (different : front.getLast? ≠ some char) :
    back.getLast? = some char := by
  rw [List.getLast?_append] at found
  cases last : back.getLast? with
  | none =>
      rw [last, Option.none_or] at found
      contradiction
  | some other => rwa [last, Option.some_or] at found

theorem of_getLast?_render {pattern : Pattern} {key value : Text}
    (letter : (pattern.render key value).getLast? = some 'i') :
    pattern ≠ singleQuoted ∧ value.getLast? = some 'i' := by
  cases pattern with
  | keyEquals | spacedJson | compactJson =>
      refine ⟨by decide, getLast?_of_append letter ?_⟩
      rw [Text.getLast?_append_right (by decide)]
      decide
  | singleQuoted =>
      rw [render, Text.getLast?_append_right (by decide)] at letter
      exact absurd letter (by decide)

theorem Occurs.shownBy {pattern : Pattern} {pair : Pair} {body : Text}
    (occurs : pattern.Occurs pair body) :
    ∃ run lead tail, run <:+: body ∧ pattern.ShownBy pair run lead tail := by
  obtain ⟨run, lead, tail, inside, shows⟩ :=
    Text.exists_shows_of_infix (render_ne_nil _ _ pattern) occurs
  refine ⟨run, lead, tail, inside, shows.fold_eq, ?_, ?_⟩
  · rcases shows.front with none | ⟨lead, dotted, dot⟩
    · exact Or.inl none
    · exact Or.inr ⟨lead, dotted, of_head?_render dot⟩
  · rcases shows.back with none | ⟨tail, dotted, letter⟩
    · exact Or.inl none
    · exact Or.inr ⟨tail, dotted, of_getLast?_render letter⟩

theorem ShownBy.occursWhole {pattern : Pattern} {pair : Pair} {body run lead tail : Text}
    (shown : pattern.ShownBy pair run lead tail) (inside : run <:+: body)
    (undotted : '\u0130' ∉ body) : pattern.OccursWhole pair body := by
  have notInRun : '\u0130' ∉ run := fun member => undotted (inside.subset member)
  have noLead : lead = [] := by
    rcases shown.front with none | ⟨_, dotted, _⟩
    · exact none
    · exact absurd (List.mem_of_head? dotted) notInRun
  have noTail : tail = [] := by
    rcases shown.back with none | ⟨_, dotted, _⟩
    · exact none
    · exact absurd (List.mem_of_getLast? dotted) notInRun
  refine ⟨run, inside, ?_⟩
  rw [shown.fold_eq, noLead, noTail, List.nil_append, List.append_nil]

end Pattern

namespace FilterMap

theorem find?_of_mem_explain {map : FilterMap} {body : Text} {pair : Pair} {report : Option Pattern}
    (member : pair ∈ map.pairs) (reported : (pair.1, report) ∈ map.explain body) :
    Pattern.find? (Text.fold body) pair = report := by
  obtain ⟨other, searched, entryEq⟩ := List.mem_map.mp reported
  obtain ⟨keyEq, reportEq⟩ := Prod.mk.inj entryEq
  have otherMember := ((map.mem_searched other).mp searched).1
  have same : pair = other :=
    eq_of_distinct map.pairs_distinct member otherMember (congrArg Text.fold keyEq.symm)
  rw [same, reportEq]

/-- Where a pair is reported as found, characters of the body show it in the form of the reported
pattern; they show nothing more if the body holds no capital I with a dot above. -/
theorem shownBy_of_reported {map : FilterMap} {body : Text} {pair : Pair} {pattern : Pattern}
    (member : pair ∈ map.pairs) (reported : (pair.1, some pattern) ∈ map.explain body) :
    (∃ run lead tail, run <:+: body ∧ pattern.ShownBy pair run lead tail) ∧
      ('\u0130' ∉ body → pattern.OccursWhole pair body) := by
  have reports := reports_find? body pair
  rw [find?_of_mem_explain member reported] at reports
  cases reports with
  | found _ _ occurs =>
      obtain ⟨run, lead, tail, inside, shown⟩ := occurs.shownBy
      exact ⟨⟨run, lead, tail, inside, shown⟩, shown.occursWhole inside⟩

theorem shownBy_of_reported_dotted :
    let map := ofList [("B", []), ("\u0307a", "I")]
    let pair : Pair := ("\u0307a", "I")
    let dotted : Text := "xİA=İy"
    let plain : Text := "x\u0307A=iy"
    (pair ∈ map.pairs ∧ (pair.1, some Pattern.keyEquals) ∈ map.explain dotted ∧
        (pair.1, some Pattern.keyEquals) ∈ map.explain plain ∧ '\u0130' ∉ plain) ∧
      (∃ run lead tail, run <:+: dotted ∧ Pattern.keyEquals.ShownBy pair run lead tail) ∧
      Pattern.keyEquals.OccursWhole pair plain := by
  intro map pair dotted plain
  have member : pair ∈ map.pairs := by decide
  have inDotted : (pair.1, some Pattern.keyEquals) ∈ map.explain dotted := by decide
  have inPlain : (pair.1, some Pattern.keyEquals) ∈ map.explain plain := by decide
  have undotted : '\u0130' ∉ plain := by decide
  exact ⟨⟨member, inDotted, inPlain, undotted⟩, (shownBy_of_reported member inDotted).1,
    (shownBy_of_reported member inPlain).2 undotted⟩

/-- At neither end can the other half be left out. In both bodies the pair is found as it would be
if the dot were a character of its own, but no characters of the body fold to its text. -/
theorem reported_not_occursWhole :
    let value : Pair := ("a", "i")
    let key : Pair := ("\u0307a", "1")
    ((value.1, some Pattern.keyEquals) ∈ (ofList [value]).explain "a=İ" ∧
        ¬ Pattern.keyEquals.OccursWhole value "a=İ") ∧
      ((key.1, some Pattern.keyEquals) ∈ (ofList [key]).explain "İa=1" ∧
        ¬ Pattern.keyEquals.OccursWhole key "İa=1") := by
  decide

end FilterMap

end TopicSieve
