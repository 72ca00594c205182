import Mathlib.Data.List.Forall2
import TopicSieve.Proofs.Json.Values

/-!
Lists and objects in JSON texts. Main statements: a list whose items are read as values is read as
the list of these values, and an object whose members are read as names and values is read as the
object of these members, in their order.
-/

namespace TopicSieve.Json

theorem IsGap.append {front gap : Text} (frontGap : IsGap front) (isGap : IsGap gap) :
    IsGap (front ++ gap) := by
  intro char member
  rcases List.mem_append.mp member with inFront | inGap
  · exact frontGap char inFront
  · exact isGap char inGap

/-- Wherever the text stands, it is read as the value, if there are two steps for each of its
characters. -/
structure ReadsAs (depth : Nat) (text : Text) (value : Json) : Prop where
  head : ∃ first rest, text = first :: rest ∧ isSpace first = false ∧ first ≠ ']'
  yields : ∀ {cursor : Cursor} {gap back : Text} {steps : Nat}, IsGap gap →
    cursor.rest = gap ++ (text ++ back) → EndsValue back → 2 * text.length ≤ steps →
    Yields (readValueFrom steps depth cursor) value back

section

variable {cursor : Cursor} {gap space back : Text}

theorem endsValue_more (isGap : IsGap gap) (isSpace : IsGap space) (texts : List Text)
    {closing : Char} (closes : closing = ']' ∨ closing = '\x7d') :
    EndsValue (gap ++ (texts.flatMap (',' :: ·) ++ (space ++ closing :: back))) := by
  cases texts with
  | nil =>
      rw [List.flatMap_nil, List.nil_append, ← List.append_assoc]
      exact endsValue_gap (isGap.append isSpace) (Or.inr closes)
  | cons text texts => exact endsValue_gap isGap (Or.inl rfl)

/-! Lists -/

def listText (space : Text) (items : List Padded) : Text :=
  '[' :: (Text.join [','] (items.map Padded.text) ++ (space ++ [']']))

theorem nextItem_item {item : Padded} (gaps : item.HasGaps)
    (head : ∃ first rest, item.core = first :: rest ∧ isSpace first = false ∧ first ≠ ']')
    (first : Bool) (isGap : IsGap gap)
    (restEq : cursor.rest = gap ++ ((if first then [] else [',']) ++ (item.text ++ back))) :
    ∃ after, nextItem first cursor = .ok (true, after) ∧
      after.rest = item.core ++ (item.back ++ back) := by
  obtain ⟨begin, rest, coreEq, notSpace, notClosing⟩ := head
  rw [Padded.text, coreEq] at restEq
  rw [coreEq]
  cases first with
  | true =>
      have bothEq : cursor.rest =
          (gap ++ item.front) ++ begin :: (rest ++ (item.back ++ back)) := by
        rw [restEq]
        simp
      have startEq := rest_skipSpace (isGap.append gaps.1) notSpace bothEq
      refine ⟨skipSpace cursor, ?_, startEq⟩
      simp only [nextItem, Cursor.peek?_of_cons startEq, if_true]
  | false =>
      have commaEq : cursor.rest =
          gap ++ ',' :: (item.front ++ begin :: (rest ++ (item.back ++ back))) := by
        rw [restEq]
        simp
      have startEq := rest_skipSpace isGap (by decide) commaEq
      have itemEq := rest_skipSpace gaps.1 notSpace (Cursor.rest_drop_one startEq)
      refine ⟨skipSpace ((skipSpace cursor).drop 1), ?_, itemEq⟩
      simp only [nextItem, Cursor.peek?_of_cons startEq, Cursor.peek?_of_cons itemEq,
        Bool.false_eq_true, if_false]
      rfl

theorem nextItem_end (isGap : IsGap gap) (first : Bool)
    (restEq : cursor.rest = gap ++ ']' :: back) :
    ∃ after, nextItem first cursor = .ok (false, after) ∧ after.rest = ']' :: back := by
  have startEq := rest_skipSpace isGap (by decide) restEq
  refine ⟨skipSpace cursor, ?_, startEq⟩
  simp only [nextItem, Cursor.peek?_of_cons startEq]

theorem readItemsFrom_step {item : Padded} {value : Json} {depth : Nat} (gaps : item.HasGaps)
    (reads : ReadsAs depth item.core value) (first : Bool) (isGap : IsGap gap)
    (restEq : cursor.rest = gap ++ ((if first then [] else [',']) ++ (item.text ++ back)))
    (ends : EndsValue (item.back ++ back)) {steps : Nat} (enough : 2 * item.core.length ≤ steps)
    {items : List Json} {final : Text}
    (itemsRead : ∀ {cursor : Cursor}, cursor.rest = item.back ++ back →
      Yields (readItemsFrom steps depth false cursor) items final) :
    Yields (readItemsFrom (steps + 1) depth first cursor) (value :: items) final := by
  obtain ⟨start, nextEq, startEq⟩ := nextItem_item gaps reads.head first isGap restEq
  obtain ⟨afterItem, itemRead, afterItemEq⟩ :=
    @ReadsAs.yields _ _ _ reads start [] _ _ isGap_nil startEq ends enough
  obtain ⟨after, restRead, afterEq⟩ := itemsRead afterItemEq
  refine ⟨after, ?_, afterEq⟩
  rw [readItemsFrom]
  simp only [bind, Except.bind, nextEq, if_true, itemRead, restRead]

theorem readItemsFrom_end (isGap : IsGap gap) (first : Bool) {steps : Nat} (depth : Nat)
    (restEq : cursor.rest = gap ++ ']' :: back) :
    Yields (readItemsFrom (steps + 1) depth first cursor) [] back := by
  obtain ⟨after, nextEq, afterEq⟩ := nextItem_end isGap first restEq
  refine ⟨after.drop 1, ?_, Cursor.rest_drop_one afterEq⟩
  rw [readItemsFrom]
  simp only [bind, Except.bind, nextEq, Bool.false_eq_true, if_false]

structure ReadsItem (depth : Nat) (item : Padded) (value : Json) : Prop where
  gaps : item.HasGaps
  reads : ReadsAs depth item.core value

theorem readItemsFrom_items {depth : Nat} {items : List Padded} {values : List Json}
    (reads : List.Forall₂ (ReadsItem depth) items values) (isSpace : IsGap space)
    (isGap : IsGap gap) {steps : Nat}
    (restEq : cursor.rest =
      gap ++ ((items.map Padded.text).flatMap (',' :: ·) ++ (space ++ ']' :: back)))
    (enough : 2 * ((items.map Padded.text).flatMap (',' :: ·)).length < steps) :
    Yields (readItemsFrom steps depth false cursor) values back := by
  induction reads generalizing cursor gap steps with
  | nil =>
      obtain ⟨steps, rfl⟩ := Nat.exists_eq_succ_of_ne_zero (by omega : steps ≠ 0)
      refine readItemsFrom_end (isGap.append isSpace) false depth ?_
      rw [restEq]
      simp
  | @cons item value items values itemReads _ ih =>
      obtain ⟨steps, rfl⟩ := Nat.exists_eq_succ_of_ne_zero (by omega : steps ≠ 0)
      have itemEq : cursor.rest = gap ++ ([','] ++ (item.text ++
          ((items.map Padded.text).flatMap (',' :: ·) ++ (space ++ ']' :: back)))) := by
        simpa using restEq
      simp only [List.map_cons, List.flatMap_cons, Padded.text, List.length_append,
        List.length_cons] at enough
      have ends := @endsValue_more _ _ back itemReads.gaps.2 isSpace (items.map Padded.text) ']'
        (Or.inl rfl)
      exact readItemsFrom_step itemReads.gaps itemReads.reads false isGap itemEq ends (by omega)
        fun afterEq => ih itemReads.gaps.2 afterEq (by omega)

theorem readValueFrom_list {depth : Nat} {items : List Padded} {values : List Json}
    (reads : List.Forall₂ (ReadsItem depth) items values) (isSpace : IsGap space)
    (isGap : IsGap gap) (restEq : cursor.rest = gap ++ (listText space items ++ back))
    {steps : Nat} (enough : 2 * (listText space items).length ≤ steps) :
    Yields (readValueFrom steps (depth + 1) cursor) (array values) back := by
  obtain ⟨steps, rfl⟩ : ∃ fewer, steps = fewer + 1 + 1 :=
    ⟨steps - 2, by simp only [listText, List.length_cons, List.length_append] at enough; omega⟩
  have listEq : cursor.rest =
      gap ++ '[' :: (Text.join [','] (items.map Padded.text) ++ (space ++ ']' :: back)) := by
    rw [restEq]
    simp [listText]
  have startEq := rest_skipSpace isGap (by decide) listEq
  have openEq := Cursor.rest_drop_one startEq
  suffices Yields (readItemsFrom (steps + 1) depth true ((skipSpace cursor).drop 1)) values back by
    obtain ⟨after, itemsEq, afterEq⟩ := this
    refine ⟨after, ?_, afterEq⟩
    unfold readValueFrom
    simp only [Cursor.peek?_of_cons startEq, bind, Except.bind, itemsEq]
  cases reads with
  | nil => exact readItemsFrom_end isSpace true depth openEq
  | @cons item value items values itemReads restReads =>
      rw [List.map_cons, Text.join_cons, List.append_assoc] at openEq
      simp only [listText, List.map_cons, Text.join_cons, Padded.text, List.length_append,
        List.length_cons] at enough
      have ends := @endsValue_more _ _ back itemReads.gaps.2 isSpace (items.map Padded.text) ']'
        (Or.inl rfl)
      exact readItemsFrom_step itemReads.gaps itemReads.reads true isGap_nil openEq ends (by omega)
        fun afterEq => readItemsFrom_items restReads isSpace itemReads.gaps.2 afterEq (by omega)

/-! Objects -/

def objectText (space : Text) (members : List WrittenMember) : Text :=
  '\x7b' :: (Text.join [','] (members.map WrittenMember.text) ++ (space ++ ['\x7d']))

theorem nextMember_member {member : WrittenMember} (gaps : member.HasGaps) (first : Bool)
    (isGap : IsGap gap)
    (restEq : cursor.rest = gap ++ ((if first then [] else [',']) ++ (member.text ++ back))) :
    ∃ after, nextMember first cursor = .ok (true, after) ∧ after.rest =
      member.name ++ '"' :: (member.middle ++ ':' :: (member.value.text ++ back)) := by
  obtain ⟨frontGap, _, _⟩ := gaps
  cases first with
  | true =>
      have quoteEq : cursor.rest = (gap ++ member.front) ++ '"' :: (member.name ++ '"' ::
          (member.middle ++ ':' :: (member.value.text ++ back))) := by
        rw [restEq]
        simp [WrittenMember.text]
      have startEq := rest_skipSpace (isGap.append frontGap) (by decide) quoteEq
      refine ⟨(skipSpace cursor).drop 1, ?_, Cursor.rest_drop_one startEq⟩
      simp only [nextMember, Cursor.peek?_of_cons startEq, if_true]
      rfl
  | false =>
      have commaEq : cursor.rest = gap ++ ',' :: (member.front ++ '"' :: (member.name ++ '"' ::
          (member.middle ++ ':' :: (member.value.text ++ back)))) := by
        rw [restEq]
        simp [WrittenMember.text]
      have startEq := rest_skipSpace isGap (by decide) commaEq
      have quoteEq := rest_skipSpace frontGap (by decide) (Cursor.rest_drop_one startEq)
      refine ⟨_, ?_, Cursor.rest_drop_one quoteEq⟩
      simp only [nextMember, Cursor.peek?_of_cons startEq, Cursor.peek?_of_cons quoteEq,
        Bool.false_eq_true, if_false]
      rfl

theorem nextMember_end (isGap : IsGap gap) (first : Bool)
    (restEq : cursor.rest = gap ++ '\x7d' :: back) :
    ∃ after, nextMember first cursor = .ok (false, after) ∧ after.rest = '\x7d' :: back := by
  have startEq := rest_skipSpace isGap (by decide) restEq
  refine ⟨skipSpace cursor, ?_, startEq⟩
  simp only [nextMember, Cursor.peek?_of_cons startEq]

theorem readName_member {member : WrittenMember} {name : Text} (gaps : member.HasGaps)
    (spells : Spells member.name name) (first : Bool) (isGap : IsGap gap)
    (restEq : cursor.rest = gap ++ ((if first then [] else [',']) ++ (member.text ++ back))) :
    ∃ start afterName afterColon, nextMember first cursor = .ok (true, start) ∧
      readString start = .ok (name, afterName) ∧ expectColon afterName = .ok afterColon ∧
      afterColon.rest = member.value.front ++
        (member.value.core ++ (member.value.back ++ back)) := by
  obtain ⟨start, nextEq, startEq⟩ := nextMember_member gaps first isGap restEq
  obtain ⟨afterName, nameEq, afterNameEq⟩ := readString_spelled spells startEq
  obtain ⟨afterColon, colonEq, afterColonEq⟩ := expectColon_gap gaps.2.1 afterNameEq
  refine ⟨start, afterName, afterColon, nextEq, nameEq, colonEq, ?_⟩
  rw [afterColonEq]
  simp [Padded.text]

structure ReadsMember (depth : Nat) (member : WrittenMember) (pair : Text × Json) : Prop where
  gaps : member.HasGaps
  name : Spells member.name pair.1
  value : ReadsAs depth member.value.core pair.2

theorem readMembersFrom_step {member : WrittenMember} {pair : Text × Json} {depth : Nat}
    (reads : ReadsMember depth member pair) (first : Bool) (isGap : IsGap gap)
    (restEq : cursor.rest = gap ++ ((if first then [] else [',']) ++ (member.text ++ back)))
    (ends : EndsValue (member.value.back ++ back)) {steps : Nat}
    (enough : 2 * member.value.core.length ≤ steps) {members : List (Text × Json)} {final : Text}
    (membersRead : ∀ {cursor : Cursor}, cursor.rest = member.value.back ++ back →
      Yields (readMembersFrom steps depth false cursor) members final) :
    Yields (readMembersFrom (steps + 1) depth first cursor) (pair :: members) final := by
  obtain ⟨start, afterName, afterColon, nextEq, nameEq, colonEq, valueEq⟩ :=
    readName_member reads.gaps reads.name first isGap restEq
  obtain ⟨afterValue, valueRead, afterValueEq⟩ :=
    reads.value.yields reads.gaps.2.2.1 valueEq ends enough
  obtain ⟨after, restRead, afterEq⟩ := membersRead afterValueEq
  refine ⟨after, ?_, afterEq⟩
  rw [readMembersFrom]
  simp only [bind, Except.bind, nextEq, if_true, nameEq, colonEq, valueRead, restRead]

theorem readMembersFrom_end (isGap : IsGap gap) (first : Bool) {steps : Nat} (depth : Nat)
    (restEq : cursor.rest = gap ++ '\x7d' :: back) :
    Yields (readMembersFrom (steps + 1) depth first cursor) [] back := by
  obtain ⟨after, nextEq, afterEq⟩ := nextMember_end isGap first restEq
  refine ⟨after.drop 1, ?_, Cursor.rest_drop_one afterEq⟩
  rw [readMembersFrom]
  simp only [bind, Except.bind, nextEq, Bool.false_eq_true, if_false]

theorem readMembersFrom_members {depth : Nat} {members : List WrittenMember}
    {pairs : List (Text × Json)} (reads : List.Forall₂ (ReadsMember depth) members pairs)
    (isSpace : IsGap space) (isGap : IsGap gap) {steps : Nat}
    (restEq : cursor.rest =
      gap ++ ((members.map WrittenMember.text).flatMap (',' :: ·) ++ (space ++ '\x7d' :: back)))
    (enough : 2 * ((members.map WrittenMember.text).flatMap (',' :: ·)).length < steps) :
    Yields (readMembersFrom steps depth false cursor) pairs back := by
  induction reads generalizing cursor gap steps with
  | nil =>
      obtain ⟨steps, rfl⟩ := Nat.exists_eq_succ_of_ne_zero (by omega : steps ≠ 0)
      refine readMembersFrom_end (isGap.append isSpace) false depth ?_
      rw [restEq]
      simp
  | @cons member pair members pairs memberReads _ ih =>
      obtain ⟨steps, rfl⟩ := Nat.exists_eq_succ_of_ne_zero (by omega : steps ≠ 0)
      have memberEq : cursor.rest = gap ++ ([','] ++ (member.text ++
          ((members.map WrittenMember.text).flatMap (',' :: ·) ++ (space ++ '\x7d' :: back)))) := by
        simpa using restEq
      simp only [List.map_cons, List.flatMap_cons, WrittenMember.text, Padded.text,
        List.length_append, List.length_cons] at enough
      have ends := @endsValue_more _ _ back memberReads.gaps.2.2.2 isSpace
        (members.map WrittenMember.text) '\x7d' (Or.inr rfl)
      exact readMembersFrom_step memberReads false isGap memberEq ends (by omega)
        fun afterEq => ih memberReads.gaps.2.2.2 afterEq (by omega)

theorem readValueFrom_object {depth : Nat} {members : List WrittenMember}
    {pairs : List (Text × Json)} (reads : List.Forall₂ (ReadsMember depth) members pairs)
    (isSpace : IsGap space) (isGap : IsGap gap)
    (restEq : cursor.rest = gap ++ (objectText space members ++ back))
    {steps : Nat} (enough : 2 * (objectText space members).length ≤ steps) :
    Yields (readValueFrom steps (depth + 1) cursor) (object pairs) back := by
  obtain ⟨steps, rfl⟩ : ∃ fewer, steps = fewer + 1 + 1 :=
    ⟨steps - 2, by simp only [objectText, List.length_cons, List.length_append] at enough; omega⟩
  have objectEq : cursor.rest = gap ++ '\x7b' ::
      (Text.join [','] (members.map WrittenMember.text) ++ (space ++ '\x7d' :: back)) := by
    rw [restEq]
    simp [objectText]
  have startEq := rest_skipSpace isGap (by decide) objectEq
  have openEq := Cursor.rest_drop_one startEq
  suffices Yields (readMembersFrom (steps + 1) depth true ((skipSpace cursor).drop 1)) pairs back by
    obtain ⟨after, membersEq, afterEq⟩ := this
    refine ⟨after, ?_, afterEq⟩
    unfold readValueFrom
    simp only [Cursor.peek?_of_cons startEq, bind, Except.bind, membersEq]
  cases reads with
  | nil => exact readMembersFrom_end isSpace true depth openEq
  | @cons member pair members pairs memberReads restReads =>
      rw [List.map_cons, Text.join_cons, List.append_assoc] at openEq
      simp only [objectText, List.map_cons, Text.join_cons, WrittenMember.text, Padded.text,
        List.length_append, List.length_cons] at enough
      have ends := @endsValue_more _ _ back memberReads.gaps.2.2.2 isSpace
        (members.map WrittenMember.text) '\x7d' (Or.inr rfl)
      exact readMembersFrom_step memberReads true isGap_nil openEq ends (by omega)
        fun afterEq => readMembersFrom_members restReads isSpace memberReads.gaps.2.2.2 afterEq
          (by omega)

theorem readValue_of_steps {depth : Nat} {text : Text} {value : Json}
    (restEq : cursor.rest = gap ++ (text ++ back))
    (yields : ∀ {steps : Nat}, 2 * text.length ≤ steps →
      Yields (readValueFrom steps depth cursor) value back) :
    Yields (readValue depth cursor) value back := by
  apply yields
  rw [stepsFor, restEq]
  simp only [List.length_append]
  omega

end

end TopicSieve.Json
