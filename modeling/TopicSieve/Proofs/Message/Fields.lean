import TopicSieve.Proofs.Json.Anywhere
import TopicSieve.Proofs.Message.Envelopes

/-!
The values of the fields of an envelope that was read. Main statement: a field that is read from a
value is read the same wherever the value stands.
-/

namespace TopicSieve

namespace Json

theorem ReadsAnywhere.readsAlike {depth : Nat} {text : Text} (anywhere : ReadsAnywhere depth text) :
    ReadsAlike (readValue depth) text text := by
  constructor
  intro cursor after back value restEq ends readEq
  obtain ⟨afterEq, reads⟩ :=
    @ReadsAnywhere.again _ _ anywhere cursor after [] back _ value isGap_nil restEq ends readEq
  exact ⟨afterEq, fun {place behind} placeEq placeEnds =>
    @readValue_of_steps place [] behind depth text value placeEq fun enough =>
      reads.yields isGap_nil placeEq placeEnds enough⟩

theorem skipSpace_skipSpace (cursor : Cursor) : skipSpace (skipSpace cursor) = skipSpace cursor :=
  cursor.dropWhile_dropWhile isSpace

theorem skipSpace_of_cons {cursor : Cursor} {first : Char} {rest : Text}
    (notSpace : isSpace first = false) (restEq : cursor.rest = first :: rest) :
    skipSpace cursor = cursor := by
  refine Cursor.dropWhile_of_head fun next isNext => ?_
  rw [restEq] at isNext
  cases isNext
  exact notSpace

theorem ReadsAlike.skip {α : Type} {read : Cursor → Except Stop (α × Cursor)}
    {text other gap otherGap : Text} (alike : ReadsAlike read text other)
    (skips : ∀ cursor, read (skipSpace cursor) = read cursor) (isGap : IsGap gap)
    (isOtherGap : IsGap otherGap)
    (head : ∃ first rest, text = first :: rest ∧ isSpace first = false)
    (otherHead : ∃ first rest, other = first :: rest ∧ isSpace first = false) :
    ReadsAlike read (gap ++ text) (otherGap ++ other) := by
  obtain ⟨first, rest, rfl, notSpace⟩ := head
  obtain ⟨otherFirst, otherRest, rfl, notOtherSpace⟩ := otherHead
  constructor
  intro cursor after back value restEq ends readEq
  rw [List.append_assoc] at restEq
  rw [← skips] at readEq
  obtain ⟨afterEq, again⟩ := alike.again (rest_skipSpace isGap notSpace restEq) ends readEq
  refine ⟨afterEq, fun {place behind} placeEq placeEnds => ?_⟩
  rw [List.append_assoc] at placeEq
  rw [← skips]
  exact again (rest_skipSpace isOtherGap notOtherSpace placeEq) placeEnds

/-! What the first character of a value tells -/

section

variable {text : Text}

theorem IsValue.null_of_head (isValue : IsValue text) (head : text.head? = some 'n') :
    text = "null" := by
  cases isValue with
  | name isName =>
      rcases isName with rfl | rfl | rfl
      · rfl
      · contradiction
      · contradiction
  | number isNumber =>
      obtain ⟨first, rest, rfl, starts⟩ := isNumber.head
      cases head
      exact absurd starts (by decide)
  | string | emptyArray | array | emptyObject | object => cases head

theorem IsValue.string_of_head (isValue : IsValue text) (head : text.head? = some '"') :
    ∃ body, IsString body ∧ text = '"' :: (body ++ ['"']) := by
  cases isValue with
  | string isBody => exact ⟨_, isBody, rfl⟩
  | name isName => rcases isName with rfl | rfl | rfl <;> contradiction
  | number isNumber =>
      obtain ⟨first, rest, rfl, starts⟩ := isNumber.head
      cases head
      exact absurd starts (by decide)
  | emptyArray | array | emptyObject | object => cases head

theorem IsValue.number_of_head (isValue : IsValue text) {first : Char}
    (head : text.head? = some first) (starts : first = '-' ∨ Text.isDigit first = true) :
    IsNumber text := by
  cases isValue with
  | number isNumber => exact isNumber
  | name isName =>
      rcases isName with rfl | rfl | rfl <;> cases head <;> exact absurd starts (by decide)
  | string | emptyArray | array | emptyObject | object =>
      cases head
      exact absurd starts (by decide)

end

end Json

namespace Envelope

open Json

section

variable {source gap : Text}

theorem stopAtType_ne_ok {α : Type} (expected : Text) (cursor : Cursor) (result : α) :
    stopAtType expected cursor ≠ .ok result := by
  intro stopEq
  unfold stopAtType at stopEq
  split at stopEq
  case h_7 =>
    split at stopEq
    · obtain ⟨_, _, stopped⟩ := exists_of_bind stopEq
      contradiction
    · contradiction
  all_goals
    first
    | contradiction
    | obtain ⟨_, _, stopped⟩ := exists_of_bind stopEq
      contradiction

theorem readsAlike_text (expected : Text) (isValue : IsValue source) :
    ReadsAlike (readText expected) source source := by
  by_cases isString : source.head? = some '"'
  · obtain ⟨body, isBody, rfl⟩ := isValue.string_of_head isString
    refine .of_step _ (fun {cursor back} restEq _ => ⟨cursor, restEq, ?_⟩)
      (readsAlike_string isBody)
    rw [readText, skipSpace_of_cons (by decide) restEq]
    exact if_pos (Cursor.peek?_of_cons restEq)
  · obtain ⟨first, rest, rfl, notSpace, _⟩ := isValue.head
    refine .of_stops fun {cursor after back value} restEq _ readEq => ?_
    have notString : cursor.peek? ≠ some '"' := by
      rw [Cursor.peek?_of_cons restEq]
      exact isString
    rw [readText, skipSpace_of_cons notSpace restEq, if_neg notString] at readEq
    exact stopAtType_ne_ok expected cursor _ readEq

theorem readsAlike_time (isValue : IsValue source) : ReadsAlike readTime source source := by
  refine (readsAlike_text "an RFC 3339 formatted date and time string" isValue).of_bind
    (fun _ => rfl) fun text => ?_
  dsimp only
  split
  · exact .pure _
  · exact .stopAt _

def integerWithin (bits : Nat) (expected : Text) (number : JsonNumber) (after : Cursor) :
    Except Stop (Int × Cursor) :=
  match number with
  | .integer value =>
      if -(twoTo (bits - 1) : Int) ≤ value ∧ value < twoTo (bits - 1) then .ok (value, after)
      else stopAt after (.invalidValue (.number number) expected)
  | .float .. => stopAt after (.invalidType (.number number) expected)

theorem readsAlike_integerWithin (bits : Nat) (expected : Text) (number : JsonNumber) :
    ReadsAlike (integerWithin bits expected number) [] [] := by
  cases number with
  | integer value =>
      unfold integerWithin
      dsimp only
      split
      · exact .pure _
      · exact .stopAt _
  | float => exact .stopAt _

theorem readsAlike_integer (bits : Nat) (expected : Text) (isValue : IsValue source) :
    ReadsAlike (readInteger bits expected) source source := by
  obtain ⟨first, rest, sourceEq, notSpace, _⟩ := isValue.head
  have peekEq {cursor : Cursor} {back : Text} (restEq : cursor.rest = source ++ back) :
      skipSpace cursor = cursor ∧ cursor.peek? = some first := by
    rw [sourceEq] at restEq
    exact ⟨skipSpace_of_cons notSpace restEq, Cursor.peek?_of_cons restEq⟩
  cases starts : first == '-' || Text.isDigit first with
  | true =>
      have isNumber : IsNumber source := by
        refine isValue.number_of_head (by rw [sourceEq]; rfl) ?_
        simpa using starts
      have alike : ReadsAlike (fun cursor => readNumber cursor >>= fun result =>
          integerWithin bits expected result.1 result.2) source source :=
        (readsAlike_number isNumber).of_bind (fun _ => rfl) (readsAlike_integerWithin bits expected)
      refine .of_step source (fun {cursor back} restEq _ => ⟨cursor, restEq, ?_⟩) alike
      obtain ⟨skipped, peeked⟩ := peekEq restEq
      simp only [readInteger, skipped, peeked, Option.any_some, starts, Bool.not_true,
        Bool.false_eq_true, if_false]
      rfl
  | false =>
      refine .of_stops fun {cursor after back value} restEq _ readEq => ?_
      obtain ⟨skipped, peeked⟩ := peekEq restEq
      simp only [readInteger, skipped, peeked, Option.any_some, starts, Bool.not_false, if_true]
        at readEq
      exact stopAtType_ne_ok expected cursor _ readEq

/-! Fields that may be null -/

theorem readsAlike_some {α : Type} {read : Cursor → Except Stop (α × Cursor)} {other : Text}
    (alike : ReadsAlike read source other)
    (head : ∃ first rest, source = first :: rest ∧ isSpace first = false ∧ first ≠ 'n')
    (otherHead : ∃ first rest, other = first :: rest ∧ isSpace first = false ∧ first ≠ 'n') :
    ReadsAlike (readOptional read) source other := by
  have given {text : Text} (head : ∃ first rest, text = first :: rest ∧ isSpace first = false ∧
      first ≠ 'n') {cursor : Cursor} {back : Text} (restEq : cursor.rest = text ++ back) :
      readOptional read cursor = read cursor >>= fun result => .ok (some result.1, result.2) := by
    obtain ⟨first, rest, rfl, notSpace, notNull⟩ := head
    have notName : cursor.peek? ≠ some 'n' := by
      rw [Cursor.peek?_of_cons restEq]
      exact fun isName => notNull (Option.some.inj isName)
    rw [readOptional, skipSpace_of_cons notSpace restEq]
    exact if_neg notName
  have someAlike : ReadsAlike (fun cursor => read cursor >>= fun result =>
      .ok (some result.1, result.2)) source other :=
    alike.of_bind (fun _ => rfl) fun value => .pure (some value)
  constructor
  intro cursor after back value restEq ends readEq
  rw [given head restEq] at readEq
  obtain ⟨afterEq, again⟩ := someAlike.again restEq ends readEq
  refine ⟨afterEq, fun placeEq placeEnds => ?_⟩
  rw [given otherHead placeEq]
  exact again placeEq placeEnds

theorem readsAlike_optional {α : Type} {read : Cursor → Except Stop (α × Cursor)}
    (alike : ReadsAlike read source source) (isValue : IsValue source) :
    ReadsAlike (readOptional read) source source := by
  by_cases isNull : source.head? = some 'n'
  · obtain rfl := isValue.null_of_head isNull
    refine .of_step _ (fun {cursor back} restEq _ => ⟨cursor, restEq, ?_⟩)
      (@readsAlike_name (Option α) none 'n' "ull")
    have letterEq : cursor.rest = 'n' :: (("ull" : Text) ++ back) := restEq
    rw [readOptional, skipSpace_of_cons (by decide) letterEq]
    exact if_pos (Cursor.peek?_of_cons letterEq)
  · obtain ⟨first, rest, rfl, notSpace, _⟩ := isValue.head
    have head : ∃ begin later, first :: rest = begin :: later ∧ isSpace begin = false ∧
        begin ≠ 'n' := ⟨first, rest, rfl, notSpace, fun same => isNull (congrArg some same)⟩
    exact readsAlike_some alike head head

theorem readsAlike_headers (isValue : IsValue source) : ReadsAlike readHeaders source source := by
  refine (isValue.readsAnywhere (depthLimit - 1)).readsAlike.of_bind (fun _ => rfl) fun value => ?_
  dsimp only
  split
  · exact .pure _
  · exact .of_stops fun _ _ => nofun

theorem readField_skipSpace (envelope : Envelope) (field : Field) (cursor : Cursor) :
    readField envelope (skipSpace cursor) field = readField envelope cursor field := by
  cases field <;> simp only [readField, readOptional, readInteger, skipSpace_skipSpace]

/-- A field that is read from a value is read the same wherever the value stands. -/
theorem readsAlike_field (envelope : Envelope) (field : Field) (isValue : IsValue source)
    (isGap : IsGap gap) :
    ReadsAlike (fun cursor => readField envelope cursor field) (gap ++ source) (gap ++ source) := by
  obtain ⟨first, rest, sourceEq, notSpace, _⟩ := isValue.head
  refine ReadsAlike.skip ?_ (fun cursor => readField_skipSpace envelope field cursor) isGap isGap
    ⟨first, rest, sourceEq, notSpace⟩ ⟨first, rest, sourceEq, notSpace⟩
  cases field with
  | topic =>
      exact (readsAlike_optional (readsAlike_text "a string" isValue) isValue).of_bind
        (fun _ => rfl) fun topic => .pure _
  | partition =>
      exact (readsAlike_integer 32 "i32" isValue).of_bind (fun _ => rfl) fun partition => .pure _
  | offset =>
      exact (readsAlike_optional (readsAlike_integer 64 "i64" isValue) isValue).of_bind
        (fun _ => rfl) fun offset => .pure _
  | timestamp =>
      exact (readsAlike_optional (readsAlike_time isValue) isValue).of_bind
        (fun _ => rfl) fun timestamp => .pure _
  | headers =>
      exact (readsAlike_optional (readsAlike_headers isValue) isValue).of_bind
        (fun _ => rfl) fun headers => .pure _
  | value =>
      exact (readsAlike_optional (readsAlike_text "a string" isValue) isValue).of_bind
        (fun _ => rfl) fun value => .pure _

end

end Envelope

end TopicSieve
