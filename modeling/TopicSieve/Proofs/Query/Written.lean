import TopicSieve.Proofs.Query.LastWrite
import TopicSieve.Proofs.Query.TokenForm

/-!
Terms with a quoted value as they can be written, with white space around their parts. Main
statement: a query of such terms is cut into exactly these terms, and requires their pairs.
-/

namespace TopicSieve

/-- A pair as a query can give it. The key has characters, but none that ends a key or cuts the
query, and no white space around it; the value has no comma. -/
structure PlainPair (pair : Pair) : Prop where
  key_ne_nil : pair.1 ≠ []
  key_trimmed : Text.Trimmed pair.1
  key_comma : ',' ∉ pair.1
  key_equals : '=' ∉ pair.1
  value_comma : ',' ∉ pair.2

theorem plainPair_iff (pair : Pair) : PlainPair pair ↔
    pair.1 ≠ [] ∧ Text.Trimmed pair.1 ∧ ',' ∉ pair.1 ∧ '=' ∉ pair.1 ∧ ',' ∉ pair.2 :=
  ⟨fun ⟨keyed, trimmed, keyComma, keyEquals, valueComma⟩ =>
      ⟨keyed, trimmed, keyComma, keyEquals, valueComma⟩,
    fun ⟨keyed, trimmed, keyComma, keyEquals, valueComma⟩ =>
      ⟨keyed, trimmed, keyComma, keyEquals, valueComma⟩⟩

instance (pair : Pair) : Decidable (PlainPair pair) := decidable_of_iff' _ (plainPair_iff pair)

structure Gap where
  text : Text
  blank : ∀ char ∈ text, Text.isBlank char = true
deriving DecidableEq

namespace Gap

def empty : Gap := ⟨[], by simp⟩

def ofText (text : Text) (blank : text.all Text.isBlank = true) : Gap :=
  ⟨text, List.all_eq_true.mp blank⟩

theorem not_mem (gap : Gap) {char : Char} (notBlank : Text.isBlank char = false) :
    char ∉ gap.text := by
  intro member
  rw [gap.blank char member] at notBlank
  contradiction

end Gap

theorem segments_join {pieces : List Text} (absent : ∀ piece ∈ pieces, ',' ∉ piece) :
    segments (Text.join [','] pieces) =
      (pieces.map Text.trim).filter fun segment => !segment.isEmpty := by
  cases pieces with
  | nil => rfl
  | cons first rest => rw [segments, Text.splitOn_join absent (List.cons_ne_nil first rest)]

theorem stripQuotes_quoted {quote : Char} (isQuote : IsQuote quote) (value : Text) :
    stripQuotes (quote :: (value ++ [quote])) = value := by
  have quoted : isQuotedBy quote (quote :: (value ++ [quote])) = true := by
    simp [isQuotedBy, List.getLast?_cons]
  have either : (isQuotedBy '"' (quote :: (value ++ [quote])) ||
      isQuotedBy '\'' (quote :: (value ++ [quote]))) = true := by
    rcases isQuote with rfl | rfl
    · rw [quoted, Bool.true_or]
    · rw [quoted, Bool.or_true]
  rw [stripQuotes, if_pos either, List.tail_cons, List.dropLast_concat]

structure WrittenTerm where
  key : Text
  value : Text
  quote : Char
  isQuote : IsQuote quote
  beforeKey : Gap
  afterKey : Gap
  beforeValue : Gap
  afterValue : Gap

namespace WrittenTerm

def pair (term : WrittenTerm) : Pair := (term.key, term.value)

def literal (term : WrittenTerm) : Text := term.quote :: (term.value ++ [term.quote])

def core (term : WrittenTerm) : Text :=
  term.key ++ (term.afterKey.text ++ '=' :: (term.beforeValue.text ++ term.literal))

def text (term : WrittenTerm) : Text :=
  term.beforeKey.text ++ (term.core ++ term.afterValue.text)

def query (terms : List WrittenTerm) : Text := Text.join [','] (terms.map text)

theorem trimmed_literal (term : WrittenTerm) : Text.Trimmed term.literal where
  head := by
    intro first isFirst
    rw [literal, List.head?_cons, Option.some.injEq] at isFirst
    exact isFirst ▸ term.isQuote.isBlank
  last := by
    intro final isFinal
    rw [literal, ← List.cons_append, List.getLast?_concat, Option.some.injEq] at isFinal
    exact isFinal ▸ term.isQuote.isBlank

variable {term : WrittenTerm}

theorem comma_not_mem_text (plain : PlainPair term.pair) : ',' ∉ term.text := by
  have notQuote := term.isQuote.ne_comma.symm
  have noGap (gap : Gap) : ',' ∉ gap.text := gap.not_mem (by decide)
  simp only [text, core, literal, List.mem_append, List.mem_cons, List.not_mem_nil, noGap, notQuote,
    or_false, false_or, not_or]
  exact ⟨plain.key_comma, by decide, plain.value_comma⟩

theorem trim_text (plain : PlainPair term.pair) : Text.trim term.text = term.core := by
  have around := plain.key_trimmed.around term.trimmed_literal plain.key_ne_nil
    (List.cons_ne_nil _ _) (term.afterKey.text ++ '=' :: term.beforeValue.text)
  rw [List.append_assoc, List.cons_append] at around
  exact Text.trim_between around term.beforeKey.blank term.afterValue.blank

theorem splitTerm?_core (plain : PlainPair term.pair) : splitTerm? term.core = some term.pair := by
  have split : Text.splitFirst '=' term.core =
      some (term.key ++ term.afterKey.text, term.beforeValue.text ++ term.literal) := by
    rw [Text.splitFirst_eq_some_iff]
    refine ⟨by simp [core], ?_⟩
    rw [List.mem_append, not_or]
    exact ⟨plain.key_equals, term.afterKey.not_mem (by decide)⟩
  have keyEq : Text.trim (term.key ++ term.afterKey.text) = term.key :=
    Text.trim_between plain.key_trimmed Gap.empty.blank term.afterKey.blank
  have literalEq : Text.trim (term.beforeValue.text ++ term.literal) = term.literal := by
    have between := Text.trim_between term.trimmed_literal term.beforeValue.blank Gap.empty.blank
    rwa [Gap.empty, List.append_nil] at between
  have valueEq : stripQuotes term.literal = term.value := stripQuotes_quoted term.isQuote term.value
  simp only [splitTerm?, split, Option.map_some, keyEq, literalEq, valueEq, pair]

theorem segmentPair?_core (plain : PlainPair term.pair) :
    FilterMap.segmentPair? term.core = some term.pair := by
  rw [FilterMap.segmentPair?, splitTerm?_core plain]
  simpa using plain.key_ne_nil

variable {terms : List WrittenTerm}

theorem segments_query (plain : ∀ term ∈ terms, PlainPair term.pair) :
    segments (query terms) = terms.map core := by
  have absent : ∀ piece ∈ terms.map text, ',' ∉ piece := by
    rw [List.forall_mem_map]
    exact fun term member => comma_not_mem_text (plain term member)
  have trimEq : terms.map (Text.trim ∘ text) = terms.map core :=
    List.map_congr_left fun term member => trim_text (plain term member)
  rw [query, segments_join absent, List.map_map, trimEq, List.filter_eq_self, List.forall_mem_map]
  intro term member
  have keyed := (plain term member).key_ne_nil
  rw [Bool.not_eq_true', List.isEmpty_eq_false_iff]
  exact List.append_ne_nil_of_left_ne_nil keyed _

theorem filterMap_segmentPair?_core (plain : ∀ term ∈ terms, PlainPair term.pair) :
    (terms.map core).filterMap FilterMap.segmentPair? = terms.map pair := by
  induction terms with
  | nil => rfl
  | cons first rest ih =>
      obtain ⟨firstPlain, restPlain⟩ := List.forall_mem_cons.mp plain
      rw [List.map_cons, List.filterMap_cons_some (segmentPair?_core firstPlain), ih restPlain,
        List.map_cons]

theorem parse_query (plain : ∀ term ∈ terms, PlainPair term.pair) :
    FilterMap.parse (query terms) = FilterMap.ofList (terms.map pair) := by
  rw [FilterMap.parse, segments_query plain, filterMap_segmentPair?_core plain]

end WrittenTerm

end TopicSieve
