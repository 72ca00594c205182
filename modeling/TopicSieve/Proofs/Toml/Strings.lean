import TopicSieve.Proofs.Text.Cursors
import TopicSieve.Toml.Writer

/-!
Strings of a TOML document that were written are read back. Main statement: in front of anything
but a quote, a written string is read as the text that it was written for.
-/

namespace TopicSieve.Toml

def Yields {α : Type} (outcome : Option (α × Cursor)) (value : α) (back : Text) : Prop :=
  ∃ after, outcome = some (value, after) ∧ after.rest = back

/-! Escapes -/

def Escapes (source : Text) (char : Char) : Prop :=
  ∀ {cursor : Cursor} {back : Text}, cursor.rest = source ++ back →
    Yields (escape? cursor) char back

theorem isForbidden_lt {char : Char} (forbidden : isForbidden char = true) : char.toNat < 0x80 := by
  simp only [isForbidden, Bool.or_eq_true, Bool.and_eq_true, decide_eq_true_eq, beq_iff_eq]
    at forbidden
  omega

def hexDigits (code : Nat) : Text :=
  let digits := (Text.ofNatHex code).map Char.toUpper
  List.replicate (4 - digits.length) '0' ++ digits

theorem hexDigits_value : ∀ code < 0x80,
    (hexDigits code).length = 4 ∧ ((hexDigits code).filterMap Text.hexValue?).length = 4 ∧
    ((hexDigits code).filterMap Text.hexValue?).foldl (fun value digit => value * 16 + digit) 0 =
      code := by
  decide +kernel

theorem escapes_hex {char : Char} (small : char.toNat < 0x80) :
    Escapes ('u' :: hexDigits char.toNat) char := by
  intro cursor back restEq
  obtain ⟨lengthEq, countEq, valueEq⟩ := hexDigits_value char.toNat small
  have afterEq : (cursor.drop 1).rest = hexDigits char.toNat ++ back := Cursor.rest_drop_one restEq
  have taken : (cursor.drop 1).rest.take 4 = hexDigits char.toNat := by
    rw [afterEq, ← lengthEq, List.take_left]
  refine ⟨(cursor.drop 1).drop 4, ?_, ?_⟩
  · have valid : (char.toNat).isValidChar := char.valid
    simp only [escape?, Cursor.next?_of_cons restEq, hexChar?, taken, countEq, valueEq, valid,
      true_and, if_true, Char.ofNat_toNat]
  · rw [← lengthEq]
    exact Cursor.rest_drop_length afterEq

def letterEscapes : List (Char × Char) :=
  [('b', '\x08'), ('t', '\t'), ('n', '\n'), ('f', '\x0c'), ('r', '\r'), ('"', '"'), ('\\', '\\')]

theorem escapes_letter {letter char : Char} (known : (letter, char) ∈ letterEscapes) :
    Escapes [letter] char := by
  intro cursor back restEq
  refine ⟨cursor.drop 1, ?_, Cursor.rest_drop_one restEq⟩
  rw [escape?, Cursor.next?_of_cons restEq]
  simp only [letterEscapes, List.mem_cons, Prod.mk.injEq, List.not_mem_nil, or_false] at known
  rcases known with ⟨rfl, rfl⟩ | ⟨rfl, rfl⟩ | ⟨rfl, rfl⟩ | ⟨rfl, rfl⟩ | ⟨rfl, rfl⟩ | ⟨rfl, rfl⟩ |
    ⟨rfl, rfl⟩
  all_goals rfl

inductive WritesChar (char : Char) : Text → Prop
  | plain : char ≠ '"' → char ≠ '\\' → isForbidden char = false → WritesChar char [char]
  | escape {first : Char} {more : Text} : Escapes (first :: more) char → isSpace first = false →
      first ≠ '\n' → first ≠ '\r' → WritesChar char ('\\' :: first :: more)

theorem writesChar_escapedChar (char : Char) : WritesChar char (escapedChar char) := by
  have short {char : Char} (letter : Char) (known : (letter, char) ∈ letterEscapes)
      (visible : isSpace letter = false ∧ letter ≠ '\n' ∧ letter ≠ '\r') :
      WritesChar char ['\\', letter] :=
    .escape (escapes_letter known) visible.1 visible.2.1 visible.2.2
  unfold escapedChar
  split
  case h_1 => exact short 'b' (by decide) (by decide)
  case h_2 => exact short 't' (by decide) (by decide)
  case h_3 => exact short 'n' (by decide) (by decide)
  case h_4 => exact short 'f' (by decide) (by decide)
  case h_5 => exact short 'r' (by decide) (by decide)
  case h_6 => exact short '"' (by decide) (by decide)
  case h_7 => exact short '\\' (by decide) (by decide)
  case h_8 notQuote notBackslash =>
    split
    case isTrue forbidden =>
      exact .escape (escapes_hex (isForbidden_lt forbidden)) (by decide) (by decide) (by decide)
    case isFalse allowed =>
      exact .plain notQuote notBackslash (Bool.eq_false_iff.mpr allowed)

/-! Strings on one line -/

theorem basicFrom?_written (text : Text) {cursor : Cursor} {back : Text} {steps : Nat}
    (restEq : cursor.rest = text.flatMap escapedChar ++ '"' :: back)
    (enough : text.length < steps) : Yields (basicFrom? steps cursor) text back := by
  induction text generalizing cursor steps with
  | nil =>
      obtain ⟨steps, rfl⟩ := Nat.exists_eq_succ_of_ne_zero (by omega : steps ≠ 0)
      refine ⟨cursor.drop 1, ?_, Cursor.rest_drop_one restEq⟩
      rw [basicFrom?, Cursor.next?_of_cons restEq]
      rfl
  | cons char text ih =>
      obtain ⟨steps, rfl⟩ := Nat.exists_eq_succ_of_ne_zero (by omega : steps ≠ 0)
      rw [List.length_cons, Nat.succ_lt_succ_iff] at enough
      rw [List.flatMap_cons, List.append_assoc] at restEq
      have writes := writesChar_escapedChar char
      generalize escapedChar char = source at restEq writes
      cases writes with
      | plain notQuote notBackslash allowed =>
          obtain ⟨after, tailEq, finalEq⟩ := ih (Cursor.rest_drop_one restEq) enough
          refine ⟨after, ?_, finalEq⟩
          rw [basicFrom?, Cursor.next?_of_cons restEq]
          simp [notQuote, notBackslash, allowed, tailEq]
      | escape escapes _ _ _ =>
          obtain ⟨between, escapeEq, betweenRest⟩ := escapes (Cursor.rest_drop_one restEq)
          obtain ⟨after, tailEq, finalEq⟩ := ih betweenRest enough
          refine ⟨after, ?_, finalEq⟩
          rw [basicFrom?, Cursor.next?_of_cons restEq]
          simp [escapeEq, tailEq]

theorem literal?_written {text : Text} (allowed : ∀ char ∈ text, isForbidden char = false)
    (noQuote : '\'' ∉ text) {cursor : Cursor} {back : Text}
    (restEq : cursor.rest = text ++ '\'' :: back) : Yields (literal? cursor) text back := by
  have run : cursor.takeWhile (fun char => char != '\'' && !isForbidden char) =
      (text, cursor.drop text.length) := by
    refine Cursor.takeWhile_of_run restEq ?_ ?_
    · intro char member
      have different : char ≠ '\'' := fun same => noQuote (same ▸ member)
      simp [different, allowed char member]
    · intro next isNext
      cases isNext
      rfl
  have afterEq := Cursor.rest_drop_length restEq
  refine ⟨(cursor.drop text.length).drop 1, ?_, Cursor.rest_drop_one afterEq⟩
  simp only [literal?, run, Cursor.peek?_of_cons afterEq, if_true]

/-! Strings on several lines -/

theorem afterNewline?_of_cons {cursor : Cursor} {first : Char} {rest : Text}
    (restEq : cursor.rest = first :: rest) (notFeed : first ≠ '\n') (notReturn : first ≠ '\r') :
    afterNewline? cursor = none := by
  rw [afterNewline?, restEq]
  split
  · next isFeed => exact absurd (List.cons.inj isFeed).1 notFeed
  · next isReturn => exact absurd (List.cons.inj isReturn).1 notReturn
  · rfl

theorem afterEscapedBreak?_of_visible {cursor : Cursor} {first : Char} {rest : Text}
    (restEq : cursor.rest = first :: rest) (notSpace : isSpace first = false)
    (notFeed : first ≠ '\n') (notReturn : first ≠ '\r') : afterEscapedBreak? cursor = none := by
  have stays : cursor.dropWhile isSpace = cursor := by
    apply Cursor.dropWhile_of_head
    intro next isNext
    rw [restEq] at isNext
    cases isNext
    exact notSpace
  rw [afterEscapedBreak?, stays, afterNewline?_of_cons restEq notFeed notReturn]
  rfl

/-- Text between the quotes of a string on several lines, behind a number of quotes, with what it
stands for. No three quotes stand in a row. -/
inductive WritesLines (quote : Char) (escapes : Bool) : Nat → Text → Text → Prop
  | nil {quotes} : WritesLines quote escapes quotes [] []
  | quote {quotes content text} : quotes < 2 → WritesLines quote escapes (quotes + 1) content text →
      WritesLines quote escapes quotes (quote :: content) (quote :: text)
  | plain {quotes char content text} : char ≠ quote → (escapes = true → char ≠ '\\') →
      (isForbidden char = true → char = '\n') → WritesLines quote escapes 0 content text →
      WritesLines quote escapes quotes (char :: content) (char :: text)
  | escape {quotes char first more content text} : escapes = true → quote ≠ '\\' →
      Escapes (first :: more) char → isSpace first = false → first ≠ '\n' → first ≠ '\r' →
      WritesLines quote escapes 0 content text →
      WritesLines quote escapes quotes ('\\' :: first :: more ++ content) (char :: text)

namespace WritesLines

variable {quote : Char} {escapes : Bool} {quotes : Nat} {content text back : Text}

theorem leading (writes : WritesLines quote escapes quotes content text) (few : quotes ≤ 2)
    (tail : Text) :
    (∃ count, content = List.replicate count quote ∧ text = List.replicate count quote ∧
      count + quotes ≤ 2) ∨
    ((content ++ tail).takeWhile (· == quote)).length + quotes ≤ 2 := by
  induction writes with
  | nil => exact Or.inl ⟨0, rfl, rfl, by omega⟩
  | quote fewer _ ih =>
      rcases ih (by omega) with ⟨count, rfl, rfl, bound⟩ | bound
      · exact Or.inl ⟨count + 1, rfl, rfl, by omega⟩
      · right
        simp only [List.cons_append, beq_self_eq_true, List.takeWhile_cons_of_pos,
          List.length_cons]
        omega
  | plain different _ _ _ _ =>
      right
      simpa [different] using few
  | escape _ different _ _ _ _ _ _ =>
      right
      simpa [Ne.symm different] using few

theorem takeWhile_replicate (count : Nat) (ends : back.head? ≠ some quote) :
    (List.replicate count quote ++ back).takeWhile (· == quote) = List.replicate count quote := by
  apply Text.takeWhile_run
  · intro char member
    rw [List.eq_of_mem_replicate member, beq_self_eq_true]
  · intro next isNext
    rw [beq_eq_false_iff_ne]
    rintro rfl
    exact ends isNext

theorem closing?_replicate {cursor : Cursor} {count : Nat} (few : count ≤ 2)
    (ends : back.head? ≠ some quote)
    (restEq : cursor.rest = List.replicate count quote ++ (List.replicate 3 quote ++ back)) :
    Yields (closing? quote cursor) (List.replicate count quote) back := by
  rw [← List.append_assoc, List.replicate_append_replicate] at restEq
  have runEq : (cursor.rest.takeWhile (· == quote)).length = count + 3 := by
    rw [restEq, takeWhile_replicate _ ends, List.length_replicate]
  refine ⟨cursor.drop (count + 3), ?_, ?_⟩
  · have fits : min (count + 3) 5 = count + 3 := by omega
    simp only [closing?, runEq, fits, Nat.add_sub_cancel]
    rw [if_neg (by omega)]
  · have dropEq := Cursor.rest_drop_length restEq
    rwa [List.length_replicate] at dropEq

theorem closing?_cases (writes : WritesLines quote escapes quotes content text)
    (few : quotes ≤ 2) (ends : back.head? ≠ some quote) {cursor : Cursor}
    (restEq : cursor.rest = content ++ (List.replicate 3 quote ++ back)) :
    Yields (closing? quote cursor) text back ∨ closing? quote cursor = none := by
  rcases writes.leading few (List.replicate 3 quote ++ back) with
    ⟨count, rfl, rfl, bound⟩ | bound
  · exact Or.inl (closing?_replicate (by omega) ends restEq)
  · right
    rw [closing?, restEq, if_pos (by omega)]

theorem linesFrom?_cons {cursor : Cursor} {char : Char} {rest tail : Text} {steps : Nat}
    (restEq : cursor.rest = char :: rest) (opened : closing? quote cursor = none)
    (notEscape : escapes = true → char ≠ '\\') (allowed : isForbidden char = true → char = '\n')
    (tailRead : Yields (linesFrom? quote escapes steps (cursor.drop 1)) tail back) :
    Yields (linesFrom? quote escapes (steps + 1) cursor) (char :: tail) back := by
  obtain ⟨after, tailEq, afterEq⟩ := tailRead
  have notBackslash : (escapes && char == '\\') = false := by
    cases escapes with
    | false => rfl
    | true => simp [notEscape rfl]
  have fine : (isForbidden char && char != '\n' &&
      !(char == '\r' && (cursor.drop 1).peek? == some '\n')) = false := by
    cases forbidden : isForbidden char with
    | false => rfl
    | true => simp [allowed forbidden]
  refine ⟨after, ?_, afterEq⟩
  rw [linesFrom?, opened, Cursor.next?_of_cons restEq]
  simp only [notBackslash, fine, tailEq, Bool.false_eq_true, if_false]
  rfl

theorem linesFrom?_escape {cursor : Cursor} {char first : Char} {more rest tail : Text}
    {steps : Nat} (restEq : cursor.rest = '\\' :: first :: more ++ rest)
    (opened : closing? quote cursor = none) (known : Escapes (first :: more) char)
    (notSpace : isSpace first = false) (notFeed : first ≠ '\n') (notReturn : first ≠ '\r')
    (tailRead : ∀ {cursor : Cursor}, cursor.rest = rest →
      Yields (linesFrom? quote true steps cursor) tail back) :
    Yields (linesFrom? quote true (steps + 1) cursor) (char :: tail) back := by
  have betweenEq : (cursor.drop 1).rest = first :: more ++ rest := Cursor.rest_drop_one restEq
  obtain ⟨between, escapeEq, decodedEq⟩ := known betweenEq
  obtain ⟨after, tailEq, afterEq⟩ := tailRead decodedEq
  refine ⟨after, ?_, afterEq⟩
  rw [linesFrom?, opened, Cursor.next?_of_cons restEq]
  simp only [Bool.true_and, beq_self_eq_true, if_true, escapeEq, tailEq,
    afterEscapedBreak?_of_visible betweenEq notSpace notFeed notReturn, Option.bind_eq_bind,
    Option.bind_some]

theorem linesFrom?_of_closing (writes : WritesLines quote escapes quotes content text)
    (few : quotes ≤ 2) (ends : back.head? ≠ some quote) {cursor : Cursor} {steps : Nat}
    (restEq : cursor.rest = content ++ (List.replicate 3 quote ++ back))
    (otherwise : closing? quote cursor = none →
      Yields (linesFrom? quote escapes (steps + 1) cursor) text back) :
    Yields (linesFrom? quote escapes (steps + 1) cursor) text back := by
  rcases writes.closing?_cases few ends restEq with ⟨after, closed, afterEq⟩ | opened
  · refine ⟨after, ?_, afterEq⟩
    rw [linesFrom?, closed]
  · exact otherwise opened

theorem linesFrom?_written (writes : WritesLines quote escapes quotes content text)
    (few : quotes ≤ 2) (allowedQuote : isForbidden quote = false) (notBackslash : quote ≠ '\\')
    (ends : back.head? ≠ some quote) {cursor : Cursor} {steps : Nat}
    (restEq : cursor.rest = content ++ (List.replicate 3 quote ++ back))
    (enough : text.length < steps) : Yields (linesFrom? quote escapes steps cursor) text back := by
  induction writes generalizing cursor steps with
  | nil =>
      obtain ⟨steps, rfl⟩ := Nat.exists_eq_succ_of_ne_zero (by omega : steps ≠ 0)
      obtain ⟨after, closed, afterEq⟩ := closing?_replicate (Nat.zero_le 2) ends restEq
      refine ⟨after, ?_, afterEq⟩
      rw [linesFrom?, closed]
      rfl
  | quote fewer writes ih =>
      obtain ⟨steps, rfl⟩ := Nat.exists_eq_succ_of_ne_zero (by omega : steps ≠ 0)
      refine linesFrom?_of_closing (.quote fewer writes) few ends restEq fun opened => ?_
      refine linesFrom?_cons restEq opened (fun _ => notBackslash) (by simp [allowedQuote]) ?_
      exact ih fewer (Cursor.rest_drop_one restEq) (Nat.lt_of_succ_lt_succ enough)
  | plain different notEscape allowed writes ih =>
      obtain ⟨steps, rfl⟩ := Nat.exists_eq_succ_of_ne_zero (by omega : steps ≠ 0)
      refine linesFrom?_of_closing (.plain different notEscape allowed writes) few ends restEq
        fun opened => ?_
      refine linesFrom?_cons restEq opened notEscape allowed ?_
      exact ih (Nat.zero_le 2) (Cursor.rest_drop_one restEq) (Nat.lt_of_succ_lt_succ enough)
  | escape escaping different known notSpace notFeed notReturn writes ih =>
      obtain ⟨steps, rfl⟩ := Nat.exists_eq_succ_of_ne_zero (by omega : steps ≠ 0)
      refine linesFrom?_of_closing
        (.escape escaping different known notSpace notFeed notReturn writes) few ends restEq
        fun opened => ?_
      subst escaping
      rw [List.append_assoc] at restEq
      refine linesFrom?_escape restEq opened known notSpace notFeed notReturn fun tailEq => ?_
      exact ih (Nat.zero_le 2) tailEq (Nat.lt_of_succ_lt_succ enough)

theorem head_of_noBreak (writes : WritesLines quote escapes quotes content text)
    (allowedQuote : isForbidden quote = false) (noBreak : '\n' ∉ text) :
    ∃ first rest, content ++ (List.replicate 3 quote ++ back) = first :: rest ∧ first ≠ '\n' ∧
      first ≠ '\r' := by
  have notBreak : quote ≠ '\n' ∧ quote ≠ '\r' := by
    constructor
    all_goals
      rintro rfl
      contradiction
  cases writes with
  | nil => exact ⟨quote, _, rfl, notBreak⟩
  | quote fewer writes => exact ⟨quote, _, rfl, notBreak⟩
  | @plain _ char _ _ _ _ allowed _ =>
      have notFeed : char ≠ '\n' := fun same => noBreak (same ▸ List.mem_cons_self)
      refine ⟨char, _, rfl, notFeed, ?_⟩
      rintro rfl
      exact notFeed (allowed rfl)
  | escape => exact ⟨'\\', _, rfl, by decide, by decide⟩

theorem length_le (writes : WritesLines quote escapes quotes content text) :
    text.length ≤ content.length := by
  induction writes with
  | nil => exact Nat.le_refl 0
  | quote _ _ ih => exact Nat.succ_le_succ ih
  | plain _ _ _ _ ih => exact Nat.succ_le_succ ih
  | escape _ _ _ _ _ _ _ ih =>
      simp only [List.length_append, List.length_cons]
      omega

theorem skipFirstBreak_written (writes : WritesLines quote escapes 0 content text)
    (allowedQuote : isForbidden quote = false) {cursor : Cursor}
    (restEq : cursor.rest = openingBreak text ++ (content ++ (List.replicate 3 quote ++ back))) :
    (skipFirstBreak cursor).rest = content ++ (List.replicate 3 quote ++ back) := by
  unfold openingBreak at restEq
  by_cases breaks : text.contains '\n' = true
  · rw [if_pos breaks] at restEq
    rw [skipFirstBreak, afterNewline?, restEq]
    exact Cursor.rest_drop_one restEq
  · rw [if_neg breaks, List.nil_append] at restEq
    have noBreak : '\n' ∉ text := by simpa using breaks
    obtain ⟨first, rest, headEq, notFeed, notReturn⟩ :=
      @head_of_noBreak _ _ _ _ _ back writes allowedQuote noBreak
    rw [skipFirstBreak, afterNewline?_of_cons (restEq.trans headEq) notFeed notReturn]
    exact restEq

end WritesLines

/-! What is written -/

theorem writesLines_linesContent (text : Text) {quotes : Nat} (few : quotes ≤ 2) :
    WritesLines '"' true quotes (linesContent quotes text) text := by
  induction text generalizing quotes with
  | nil => exact .nil
  | cons char text ih =>
      rw [linesContent]
      split
      case isTrue isFeed =>
        subst isFeed
        exact .plain (by decide) (by decide) (fun _ => rfl) (ih (Nat.zero_le 2))
      case isFalse notFeed =>
        split
        case isTrue isQuote =>
          subst isQuote
          split
          case isTrue fewer => exact .quote fewer (ih fewer)
          case isFalse enough =>
            exact .escape rfl (by decide) (escapes_letter (by decide)) (by decide) (by decide)
              (by decide) (ih (Nat.zero_le 2))
        case isFalse notQuote =>
          have writes := writesChar_escapedChar char
          generalize escapedChar char = source at writes
          cases writes with
          | plain _ notBackslash allowed =>
              exact .plain notQuote (fun _ => notBackslash) (by simp [allowed])
                (ih (Nat.zero_le 2))
          | escape known notSpace notFeed notReturn =>
              exact .escape rfl (by decide) known notSpace notFeed notReturn (ih (Nat.zero_le 2))

theorem le_longestRunFrom (char : Char) (current : Nat) (text : Text) :
    current ≤ longestRunFrom char current text := by
  induction text generalizing current with
  | nil => exact Nat.le_refl current
  | cons head rest ih =>
      rw [longestRunFrom]
      split
      · exact Nat.le_of_succ_le (ih (current + 1))
      · exact Nat.le_max_left current _

theorem writesLines_literal {text : Text} (plain : ∀ char ∈ text, needsEscape char = false)
    {quotes : Nat} (few : longestRunFrom '\'' quotes text ≤ 2) :
    WritesLines '\'' false quotes text text := by
  induction text generalizing quotes with
  | nil => exact .nil
  | cons char text ih =>
      rw [List.forall_mem_cons] at plain
      rw [longestRunFrom] at few
      split at few
      case isTrue isQuote =>
        subst isQuote
        have bound := le_longestRunFrom '\'' (quotes + 1) text
        exact .quote (by omega) (ih plain.2 few)
      case isFalse different =>
        have allowed : isForbidden char = true → char = '\n' := by
          intro forbidden
          simpa [needsEscape, forbidden] using plain.1
        exact .plain different Bool.false_ne_true.elim allowed (ih plain.2 (by omega))

theorem StringStyle.of_literal {text : Text} (style : StringStyle.of text = .literal) :
    text ≠ [] ∧ (∀ char ∈ text, isForbidden char = false) ∧ '\'' ∉ text := by
  have nonempty : text ≠ [] := by
    rintro rfl
    contradiction
  unfold StringStyle.of at style
  dsimp only at style
  split at style
  · contradiction
  split at style
  · next conditions =>
      simp only [Bool.and_eq_true, Bool.not_eq_true', List.any_eq_false,
        List.contains_eq_mem, decide_eq_false_iff_not] at conditions
      obtain ⟨⟨plain, noQuote⟩, oneLine⟩ := conditions
      refine ⟨nonempty, ?_, noQuote⟩
      intro char member
      have notFeed : char ≠ '\n' := fun same => oneLine (same ▸ member)
      simpa [needsEscape, notFeed] using plain char member
  · repeat' split at style
    all_goals contradiction

theorem StringStyle.of_literalLines {text : Text} (style : StringStyle.of text = .literalLines) :
    (∀ char ∈ text, needsEscape char = false) ∧ longestRun '\'' text ≤ 2 := by
  unfold StringStyle.of at style
  dsimp only at style
  split at style
  · contradiction
  split at style
  · contradiction
  split at style
  · contradiction
  split at style
  · next conditions =>
      simpa using conditions
  · split at style
    all_goals contradiction

inductive StringForm (text : Text) : Text → Prop
  | basic : StringForm text ('"' :: (text.flatMap escapedChar ++ ['"']))
  | literal : text ≠ [] → (∀ char ∈ text, isForbidden char = false) → '\'' ∉ text →
      StringForm text ('\'' :: (text ++ ['\'']))
  | basicLines {content : Text} : WritesLines '"' true 0 content text →
      StringForm text
        (List.replicate 3 '"' ++ (openingBreak text ++ (content ++ List.replicate 3 '"')))
  | literalLines : WritesLines '\'' false 0 text text →
      StringForm text
        (List.replicate 3 '\'' ++ (openingBreak text ++ (text ++ List.replicate 3 '\'')))

theorem stringForm_writeString (text : Text) : StringForm text (writeString text) := by
  unfold writeString
  cases style : StringStyle.of text with
  | basic => exact .basic
  | literal =>
      obtain ⟨nonempty, allowed, noQuote⟩ := StringStyle.of_literal style
      exact .literal nonempty allowed noQuote
  | basicLines =>
      have form := StringForm.basicLines (writesLines_linesContent text (Nat.zero_le 2))
      simpa using form
  | literalLines =>
      obtain ⟨plain, few⟩ := StringStyle.of_literalLines style
      have form := StringForm.literalLines (writesLines_literal plain few)
      simpa using form

/-! Written strings are read back -/

def StartsLines (quote : Char) (rest : Text) : Prop := ∃ tail, rest = quote :: quote :: quote :: tail

theorem string?_of_short {cursor : Cursor} (notDouble : ¬ StartsLines '"' cursor.rest)
    (notSingle : ¬ StartsLines '\'' cursor.rest) : string? cursor = shortString? cursor := by
  unfold string?
  dsimp only
  split
  case h_1 tail restEq => exact absurd ⟨tail, restEq⟩ notDouble
  case h_2 tail restEq => exact absurd ⟨tail, restEq⟩ notSingle
  case h_3 => rfl

theorem not_startsLines_of_pair {quote : Char} {back : Text} (ends : back.head? ≠ some quote) :
    ¬ StartsLines quote (quote :: quote :: back) := by
  rintro ⟨tail, same⟩
  simp only [List.cons.injEq, true_and] at same
  exact ends (congrArg List.head? same)

theorem not_startsLines_of_second {quote first second : Char} {rest : Text}
    (different : second ≠ quote) : ¬ StartsLines quote (first :: second :: rest) := by
  rintro ⟨tail, same⟩
  simp only [List.cons.injEq] at same
  exact different same.2.1

theorem not_startsLines_of_first {quote first : Char} {rest : Text} (different : first ≠ quote) :
    ¬ StartsLines quote (first :: rest) := by
  rintro ⟨tail, same⟩
  simp only [List.cons.injEq] at same
  exact different same.1

theorem head_escapedChar (char : Char) :
    ∃ first more, escapedChar char = first :: more ∧ first ≠ '"' := by
  have writes := writesChar_escapedChar char
  generalize escapedChar char = source at writes
  cases writes with
  | plain notQuote _ _ => exact ⟨char, [], rfl, notQuote⟩
  | @escape first more _ _ _ _ => exact ⟨'\\', first :: more, rfl, by decide⟩

theorem length_le_flatMap_escapedChar (text : Text) :
    text.length ≤ (text.flatMap escapedChar).length := by
  induction text with
  | nil => exact Nat.le_refl 0
  | cons char text ih =>
      obtain ⟨first, more, headEq, _⟩ := head_escapedChar char
      rw [List.flatMap_cons, headEq]
      simp only [List.length_cons, List.length_append]
      omega

theorem string?_basic (text : Text) {cursor : Cursor} {back : Text}
    (restEq : cursor.rest = '"' :: (text.flatMap escapedChar ++ '"' :: back))
    (ends : back.head? ≠ some '"') : Yields (string? cursor) text back := by
  have short : ¬ StartsLines '"' cursor.rest := by
    rw [restEq]
    cases text with
    | nil => exact not_startsLines_of_pair ends
    | cons char text =>
        obtain ⟨first, more, headEq, different⟩ := head_escapedChar char
        rw [List.flatMap_cons, headEq]
        exact not_startsLines_of_second different
  have notSingle : ¬ StartsLines '\'' cursor.rest := by
    rw [restEq]
    exact not_startsLines_of_first (by decide)
  have enough : text.length < cursor.rest.length + 1 := by
    have written := length_le_flatMap_escapedChar text
    simp only [restEq, List.length_cons, List.length_append]
    omega
  have shortEq : shortString? cursor = basicFrom? (cursor.rest.length + 1) (cursor.drop 1) := by
    rw [shortString?, restEq]
    rfl
  rw [string?_of_short short notSingle, shortEq]
  exact basicFrom?_written text (Cursor.rest_drop_one restEq) enough

theorem string?_literal {text : Text} (nonempty : text ≠ [])
    (allowed : ∀ char ∈ text, isForbidden char = false) (noQuote : '\'' ∉ text) {cursor : Cursor}
    {back : Text} (restEq : cursor.rest = '\'' :: (text ++ '\'' :: back)) :
    Yields (string? cursor) text back := by
  have short : ¬ StartsLines '\'' cursor.rest := by
    rw [restEq]
    cases text with
    | nil => contradiction
    | cons char text =>
        exact not_startsLines_of_second fun same => noQuote (same ▸ List.mem_cons_self)
  have notDouble : ¬ StartsLines '"' cursor.rest := by
    rw [restEq]
    exact not_startsLines_of_first (by decide)
  have shortEq : shortString? cursor = literal? (cursor.drop 1) := by
    rw [shortString?, restEq]
    rfl
  rw [string?_of_short notDouble short, shortEq]
  exact literal?_written allowed noQuote (Cursor.rest_drop_one restEq)

theorem string?_lines {quote : Char} {escapes : Bool} {content text : Text}
    (kind : (quote, escapes) = ('"', true) ∨ (quote, escapes) = ('\'', false))
    (writes : WritesLines quote escapes 0 content text) {cursor : Cursor} {back : Text}
    (restEq : cursor.rest = List.replicate 3 quote ++
      (openingBreak text ++ (content ++ (List.replicate 3 quote ++ back))))
    (ends : back.head? ≠ some quote) : Yields (string? cursor) text back := by
  have facts : isForbidden quote = false ∧ quote ≠ '\\' ∧
      string? cursor =
        linesFrom? quote escapes (cursor.rest.length + 1) (skipFirstBreak (cursor.drop 3)) := by
    rcases kind with same | same
    all_goals
      cases same
      refine ⟨rfl, by decide, ?_⟩
      unfold string?
      dsimp only
      split
      all_goals simp_all
  obtain ⟨allowedQuote, notBackslash, stringEq⟩ := facts
  have enough : text.length < cursor.rest.length + 1 := by
    have bound := writes.length_le
    simp only [restEq, List.length_append]
    omega
  rw [stringEq]
  have openedEq := Cursor.rest_drop_length restEq
  exact writes.linesFrom?_written (Nat.zero_le 2) allowedQuote notBackslash ends
    (writes.skipFirstBreak_written allowedQuote openedEq) enough

theorem string?_writeString (text : Text) {cursor : Cursor} {back : Text}
    (restEq : cursor.rest = writeString text ++ back) (notDouble : back.head? ≠ some '"')
    (notSingle : back.head? ≠ some '\'') : Yields (string? cursor) text back := by
  have form := stringForm_writeString text
  generalize writeString text = written at restEq form
  cases form with
  | basic => exact string?_basic text (by simpa using restEq) notDouble
  | literal nonempty allowed noQuote =>
      exact string?_literal nonempty allowed noQuote (by simpa using restEq)
  | basicLines writes => exact string?_lines (Or.inl rfl) writes (by simpa using restEq) notDouble
  | literalLines writes =>
      exact string?_lines (Or.inr rfl) writes (by simpa using restEq) notSingle

end TopicSieve.Toml
