import TopicSieve.Proofs.Query.Accounting
import TopicSieve.Proofs.Query.Merging
import TopicSieve.Proofs.Query.RoundTrip
import Mathlib.Logic.Relation

/-!
White space next to the characters that divide a query. All that a query gives is told by the terms
of its segments, and trimming makes these the same. Main statement: however often white space is put
next to commas, to the first equals signs of segments and to the ends of a query, the query requires
the same pairs, and its segments get the same kinds of warnings in the same order.
-/

namespace TopicSieve

theorem Gap.trim_around (front back : Gap) (text : Text) :
    Text.trim (front.text ++ (text ++ back.text)) = Text.trim text := by
  obtain ⟨leading, trailing, split, leadingBlank, trailingBlank⟩ := Text.trim_split text
  have regrouped : front.text ++ (text ++ back.text) =
      (front.text ++ leading) ++ (Text.trim text ++ (trailing ++ back.text)) := by
    conv => lhs; rw [split]
    simp only [List.append_assoc]
  rw [regrouped]
  refine Text.trim_between (Text.trimmed_trim text) ?_ ?_
  · exact List.forall_mem_append.mpr ⟨front.blank, leadingBlank⟩
  · exact List.forall_mem_append.mpr ⟨trailingBlank, back.blank⟩

theorem Gap.trim_before (gap : Gap) (text : Text) :
    Text.trim (gap.text ++ text) = Text.trim text := by
  have around := gap.trim_around Gap.empty text
  rwa [Gap.empty, List.append_nil] at around

theorem Gap.trim_behind (gap : Gap) (text : Text) :
    Text.trim (text ++ gap.text) = Text.trim text :=
  Gap.empty.trim_around gap text

theorem Gap.segments_before (gap : Gap) (query : Text) :
    segments (gap.text ++ query) = segments query := by
  have noComma : ',' ∉ gap.text := gap.not_mem (by decide)
  -- The white space comes to the first piece of the query.
  by_cases comma : ',' ∈ query
  · obtain ⟨first, rest, rfl, absent⟩ := List.eq_append_cons_of_mem comma
    have absentToo : ',' ∉ gap.text ++ first := by simp [noComma, absent]
    rw [← List.append_assoc, segments_comma, segments_comma, segments_of_not_mem absentToo,
      gap.trim_before, ← segments_of_not_mem absent]
  · have absentToo : ',' ∉ gap.text ++ query := by simp [noComma, comma]
    rw [segments_of_not_mem absentToo, gap.trim_before, ← segments_of_not_mem comma]

theorem eq_append_of_last_comma {query : Text} (comma : ',' ∈ query) :
    ∃ front last, query = front ++ ',' :: last ∧ ',' ∉ last := by
  obtain ⟨last, front, reversed, absent⟩ :=
    List.eq_append_cons_of_mem (List.mem_reverse.mpr comma)
  refine ⟨front.reverse, last.reverse, ?_, by rwa [List.mem_reverse]⟩
  rw [← List.reverse_reverse query, reversed]
  simp

theorem Gap.segments_behind (gap : Gap) (query : Text) :
    segments (query ++ gap.text) = segments query := by
  have noComma : ',' ∉ gap.text := gap.not_mem (by decide)
  by_cases comma : ',' ∈ query
  · obtain ⟨front, last, rfl, absent⟩ := eq_append_of_last_comma comma
    have absentToo : ',' ∉ last ++ gap.text := by simp [noComma, absent]
    rw [List.append_assoc, List.cons_append, segments_comma, segments_comma,
      segments_of_not_mem absentToo, gap.trim_behind, ← segments_of_not_mem absent]
  · have absentToo : ',' ∉ query ++ gap.text := by simp [noComma, comma]
    rw [segments_of_not_mem absentToo, gap.trim_behind, ← segments_of_not_mem comma]

def OpensSegment (front : Text) : Prop := front = [] ∨ front.getLast? = some ','

theorem OpensSegment.segments_append {front : Text} (opens : OpensSegment front) (rest : Text) :
    segments (front ++ rest) = segments front ++ segments rest := by
  rcases opens with rfl | endsInComma
  · rfl
  · obtain ⟨before, rfl⟩ := List.getLast?_eq_some_iff.mp endsInComma
    have nothing : segments [] = [] := rfl
    rw [List.append_assoc, List.singleton_append, segments_comma, segments_comma, nothing,
      List.append_nil]

/-- `Spaced query wider`: white space is put around the whole query, around one of its commas, or
around the first equals sign of one of its segments. -/
inductive Spaced : Text → Text → Prop
  | ends {query} (before after : Gap) : Spaced query (before.text ++ (query ++ after.text))
  | comma {front back} (before after : Gap) :
      Spaced (front ++ ',' :: back) (front ++ (before.text ++ ',' :: (after.text ++ back)))
  | equals {front key back} (before after : Gap) :
      OpensSegment front → ',' ∉ key → '=' ∉ key →
      Spaced (front ++ (key ++ '=' :: back))
        (front ++ (key ++ (before.text ++ '=' :: (after.text ++ back))))

def terms (query : Text) : List (Option Pair) := (segments query).map splitTerm?

theorem terms_comma (front back : Text) : terms (front ++ ',' :: back) = terms front ++ terms back := by
  rw [terms, segments_comma, List.map_append, terms, terms]

theorem trim_of_equals {key : Text} (keyEquals : '=' ∉ key) (value : Text) :
    ∃ front back, Text.trim (key ++ '=' :: value) = front ++ '=' :: back ∧ '=' ∉ front ∧
      Text.trim front = Text.trim key ∧ Text.trim back = Text.trim value := by
  obtain ⟨leading, trailing, split, leadingBlank, trailingBlank⟩ :=
    Text.trim_split (key ++ '=' :: value)
  let leadingGap : Gap := ⟨leading, leadingBlank⟩
  let trailingGap : Gap := ⟨trailing, trailingBlank⟩
  have notLeading : '=' ∉ leading := leadingGap.not_mem (by decide)
  have notTrailing : '=' ∉ trailing := trailingGap.not_mem (by decide)
  have kept : '=' ∈ Text.trim (key ++ '=' :: value) := by
    have written : '=' ∈ key ++ '=' :: value := by simp
    rw [split] at written
    simpa [notLeading, notTrailing] using written
  obtain ⟨front, back, trimEq, frontEquals⟩ := List.eq_append_cons_of_mem kept
  have whole : key ++ '=' :: value = (leading ++ front) ++ '=' :: (back ++ trailing) := by
    rw [split, trimEq]
    simp only [List.append_assoc, List.cons_append]
  have outside : '=' ∉ leading ++ front := by simp [notLeading, frontEquals]
  -- A text has one first equals sign, so both ways to cut at it are the same.
  obtain ⟨rfl, rfl⟩ : key = leading ++ front ∧ value = back ++ trailing := by
    have written := (Text.splitFirst_eq_some_iff '=' _ key value).mpr ⟨rfl, keyEquals⟩
    have trimmed := (Text.splitFirst_eq_some_iff _ _ _ _).mpr ⟨whole, outside⟩
    rw [written] at trimmed
    exact Prod.mk.inj (Option.some.inj trimmed)
  exact ⟨front, back, trimEq, frontEquals, (leadingGap.trim_before front).symm,
    (trailingGap.trim_behind back).symm⟩

theorem terms_of_equals {key value : Text} (keyComma : ',' ∉ key) (keyEquals : '=' ∉ key)
    (valueComma : ',' ∉ value) :
    terms (key ++ '=' :: value) = [some (Text.trim key, stripQuotes (Text.trim value))] := by
  have noComma : ',' ∉ key ++ '=' :: value := by simp [keyComma, valueComma]
  obtain ⟨front, back, trimEq, frontEquals, frontEq, backEq⟩ := trim_of_equals keyEquals value
  have termEq : splitTerm? (front ++ '=' :: back) =
      some (Text.trim key, stripQuotes (Text.trim value)) := by
    rw [splitTerm?_eq_some_iff, ← frontEq, ← backEq]
    exact ⟨front, back, rfl, frontEquals, rfl⟩
  rw [terms, segments_of_not_mem noComma, trimEq]
  simp [termEq]

theorem terms_equals {key : Text} (keyComma : ',' ∉ key) (keyEquals : '=' ∉ key) (before after : Gap)
    (back : Text) :
    terms (key ++ (before.text ++ '=' :: (after.text ++ back))) = terms (key ++ '=' :: back) := by
  have noComma (gap : Gap) : ',' ∉ gap.text := gap.not_mem (by decide)
  have noEquals : '=' ∉ before.text := before.not_mem (by decide)
  have widerComma : ',' ∉ key ++ before.text := by simp [keyComma, noComma before]
  have widerEquals : '=' ∉ key ++ before.text := by simp [keyEquals, noEquals]
  have alone {value : Text} (valueComma : ',' ∉ value) :
      terms ((key ++ before.text) ++ '=' :: (after.text ++ value)) =
        terms (key ++ '=' :: value) := by
    have afterValue : ',' ∉ after.text ++ value := by simp [noComma after, valueComma]
    rw [terms_of_equals widerComma widerEquals afterValue,
      terms_of_equals keyComma keyEquals valueComma, before.trim_behind, after.trim_before]
  rw [← List.append_assoc]
  -- What stands behind the comma after the value is the same on both sides.
  by_cases comma : ',' ∈ back
  · obtain ⟨value, later, rfl, valueComma⟩ := List.eq_append_cons_of_mem comma
    have wider := terms_comma ((key ++ before.text) ++ '=' :: (after.text ++ value)) later
    have narrow := terms_comma (key ++ '=' :: value) later
    simp only [List.append_assoc, List.cons_append] at wider narrow alone ⊢
    rw [wider, narrow, alone valueComma]
  · exact alone comma

theorem Spaced.terms_eq {query wider : Text} (spaced : Spaced query wider) :
    terms wider = terms query := by
  cases spaced with
  | ends before after =>
      rw [terms, before.segments_before, after.segments_behind, terms]
  | @comma front back before after =>
      rw [← List.append_assoc, terms, segments_comma, before.segments_behind,
        after.segments_before, ← segments_comma, terms]
  | equals before after opens keyComma keyEquals =>
      have behind := terms_equals keyComma keyEquals before after
      simp only [terms] at behind ⊢
      rw [opens.segments_append, opens.segments_append, List.map_append, List.map_append, behind]

namespace FilterMap

theorem parse_eq_ofTerms (query : Text) :
    parse query =
      ofList ((terms query).filterMap fun term => term.filter fun pair => !pair.1.isEmpty) := by
  rw [terms, List.filterMap_map]
  rfl

end FilterMap

namespace QueryWarning

inductive Kind where
  | missingEquals
  | emptyKey
  | duplicateKey
  | unsupportedOperator
deriving DecidableEq

def kind : QueryWarning → Kind
  | missingEquals _ => .missingEquals
  | emptyKey _ => .emptyKey
  | duplicateKey _ => .duplicateKey
  | unsupportedOperator .. => .unsupportedOperator

theorem kinds_ofSegments {segments others : List Text}
    (same : segments.map splitTerm? = others.map splitTerm?) (seen : List Text) :
    (ofSegments seen segments).map kind = (ofSegments seen others).map kind := by
  induction segments generalizing others seen with
  | nil =>
      rw [List.map_nil, eq_comm, List.map_eq_nil_iff] at same
      rw [same]
  | cons segment rest ih =>
      cases others with
      | nil => contradiction
      | cons other more =>
          obtain ⟨termEq, restEq⟩ := List.cons.inj same
          simp only [ofSegments, ← termEq]
          cases splitTerm? segment with
          | none => simp only [List.map_cons, kind, ih restEq]
          | some pair =>
              obtain ⟨key, value⟩ := pair
              cases key with
              | nil => simp only [List.map_cons, kind, ih restEq]
              | cons first key =>
                  by_cases found : seen.contains (Text.fold (first :: key)) = true
                  · simp only [found, if_true, List.map_cons, kind, ih restEq]
                  · simp only [found, Bool.false_eq_true, if_false, ih restEq]

theorem filter_isAboutSegment (query : Text) :
    (ofQuery query).filter isAboutSegment = ofSegments [] (segments query) := by
  obtain ⟨warnings, account, ownEq⟩ := ofSegments_account (segments query) agrees_empty
  have own : (ofSegments [] (segments query)).filter isAboutSegment =
      ofSegments [] (segments query) := by
    rw [ownEq, List.filter_eq_self]
    exact account.about
  have operators : (ofTokens (tokenize query)).filter isAboutSegment = [] := by
    rw [List.filter_eq_nil_iff]
    intro warning member
    rw [ofTokens_about _ warning member]
    exact Bool.false_ne_true
  rw [ofQuery, List.filter_append, own, operators, List.append_nil]

end QueryWarning

/-- White space next to what divides a query changes neither the pairs, their casing and order, nor
the kinds and the order of the warnings about segments, in any number of places at once. -/
theorem reads_of_spaced {query wider : Text} (spaced : Relation.ReflTransGen Spaced query wider) :
    FilterMap.parse wider = FilterMap.parse query ∧
    ((QueryWarning.ofQuery wider).filter QueryWarning.isAboutSegment).map QueryWarning.kind =
      ((QueryWarning.ofQuery query).filter QueryWarning.isAboutSegment).map QueryWarning.kind := by
  have sameTerms : terms wider = terms query := by
    induction spaced with
    | refl => rfl
    | tail _ step ih => rw [step.terms_eq, ih]
  constructor
  · rw [FilterMap.parse_eq_ofTerms, FilterMap.parse_eq_ofTerms, sameTerms]
  · rw [QueryWarning.filter_isAboutSegment, QueryWarning.filter_isAboutSegment]
    exact QueryWarning.kinds_ofSegments sameTerms []

theorem reads_of_spaced_quotes :
    let gap : Gap := Gap.ofText " \t\u3000" (by decide)
    let query : Text := "A=1," ++ ("a" ++ '=' :: "' x = y ',=,oops")
    let once : Text := "A=1," ++ ("a" ++ (gap.text ++ '=' :: (gap.text ++ "' x = y ',=,oops")))
    let wider : Text := gap.text ++ (once ++ gap.text)
    Relation.ReflTransGen Spaced query wider ∧
    (FilterMap.parse query).pairs = ([("a", " x = y ")] : List Pair) ∧
    FilterMap.parse wider = FilterMap.parse query ∧
    ((QueryWarning.ofQuery wider).filter QueryWarning.isAboutSegment).map QueryWarning.kind =
      [.duplicateKey, .emptyKey, .missingEquals] := by
  intro gap query once wider
  have step : Spaced query once := .equals gap gap (Or.inr (by decide)) (by decide) (by decide)
  have spaced : Relation.ReflTransGen Spaced query wider :=
    .tail (.single step) (.ends gap gap)
  obtain ⟨samePairs, sameKinds⟩ := reads_of_spaced spaced
  refine ⟨spaced, by decide, samePairs, ?_⟩
  rw [sameKinds, QueryWarning.filter_isAboutSegment]
  decide

end TopicSieve
