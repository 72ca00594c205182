import TopicSieve.Proofs.Json.Rereading

/-!
Values that were read. Main statement: a value that is read in one place is read as the same value
in every other place, and an object that is read has members whose names and values are read.
-/

namespace TopicSieve.Json

/-- What the text is read as in one place, it is read as wherever it stands. -/
structure ReadsAnywhere (depth : Nat) (text : Text) : Prop where
  again : ∀ {cursor after : Cursor} {gap back : Text} {steps : Nat} {value : Json}, IsGap gap →
    cursor.rest = gap ++ (text ++ back) → EndsValue back →
    readValueFrom steps depth cursor = .ok (value, after) →
      after.rest = back ∧ ReadsAs depth text value

section

variable {cursor after : Cursor} {gap space back text : Text} {depth : Nat}

theorem readsAnywhere_leaf (first : Char) {rest : Text} (notSpace : isSpace first = false)
    (notClosing : first ≠ ']') (read : Cursor → Except Stop (Json × Cursor))
    (leafEq : ∀ {cursor : Cursor} (steps : Nat), (skipSpace cursor).peek? = some first →
      readValueFrom (steps + 1) depth cursor = read (skipSpace cursor))
    (alike : ReadsAlike read (first :: rest) (first :: rest)) :
    ReadsAnywhere depth (first :: rest) := by
  constructor
  intro cursor after gap back steps value isGap restEq ends readEq
  cases steps with
  | zero => contradiction
  | succ steps =>
      have startEq : (skipSpace cursor).rest = (first :: rest) ++ back :=
        rest_skipSpace isGap notSpace restEq
      rw [leafEq steps (Cursor.peek?_of_cons startEq)] at readEq
      obtain ⟨afterEq, again⟩ := alike.again startEq ends readEq
      refine ⟨afterEq, ⟨first, rest, rfl, notSpace, notClosing⟩, ?_⟩
      intro place gap behind steps isGap placeEq ends enough
      obtain ⟨steps, rfl⟩ := Nat.exists_eq_succ_of_ne_zero
        (by simp only [List.length_cons] at enough; omega : steps ≠ 0)
      have placeStart : (skipSpace place).rest = (first :: rest) ++ behind :=
        rest_skipSpace isGap notSpace placeEq
      rw [leafEq steps (Cursor.peek?_of_cons placeStart)]
      exact again placeStart ends

theorem readsAlike_name {α : Type} (value : α) {first : Char} (letters : Text) :
    ReadsAlike (fun cursor => do .ok (value, ← expectName letters (cursor.drop 1)))
      (first :: letters) (first :: letters) := by
  refine .of_yields value fun restEq _ => ?_
  obtain ⟨after, passed, afterEq⟩ := expectName_letters (Cursor.rest_drop_one restEq)
  exact ⟨after, by simp only [bind, Except.bind, passed], afterEq⟩

theorem readsAnywhere_name (isName : text = "null" ∨ text = "true" ∨ text = "false") :
    ReadsAnywhere depth text := by
  rcases isName with rfl | rfl | rfl
  · refine readsAnywhere_leaf 'n' (by decide) (by decide) _ (fun steps peekEq => ?_)
      (readsAlike_name null "ull")
    unfold readValueFrom
    simp only [peekEq]
  · refine readsAnywhere_leaf 't' (by decide) (by decide) _ (fun steps peekEq => ?_)
      (readsAlike_name (bool true) "rue")
    unfold readValueFrom
    simp only [peekEq]
  · refine readsAnywhere_leaf 'f' (by decide) (by decide) _ (fun steps peekEq => ?_)
      (readsAlike_name (bool false) "alse")
    unfold readValueFrom
    simp only [peekEq]

theorem readsAnywhere_number (isNumber : IsNumber text) : ReadsAnywhere depth text := by
  obtain ⟨first, rest, rfl, starts⟩ := isNumber.head
  have notClosing : first ≠ ']' := by
    rintro rfl
    exact absurd starts (by decide)
  refine readsAnywhere_leaf first (isSpace_numberStart starts) notClosing
    (fun cursor => readNumber cursor >>= fun result => .ok (number result.1, result.2))
    (fun steps peekEq => ?_)
    ((readsAlike_number isNumber).of_bind (fun _ => rfl) fun value => .pure (number value))
  unfold readValueFrom
  simp only [peekEq]
  split
  case h_8 found =>
    cases found
    exact if_pos starts
  all_goals
    next found =>
      cases found
      all_goals exact absurd starts (by decide)

theorem readsAlike_string {body : Text} (isString : IsString body) :
    ReadsAlike (fun cursor => readString (cursor.drop 1)) ('"' :: (body ++ ['"']))
      ('"' :: (body ++ ['"'])) := by
  constructor
  intro cursor after back value restEq _ readEq
  have bodyEq {cursor : Cursor} {back : Text}
      (restEq : cursor.rest = '"' :: (body ++ ['"']) ++ back) :
      (cursor.drop 1).rest = body ++ '"' :: back := by
    rw [Cursor.rest_drop_one restEq]
    exact List.append_assoc _ _ _
  obtain ⟨spells, afterEq⟩ := readString_ok isString (bodyEq restEq) readEq
  exact ⟨afterEq, fun placeEq _ => readString_spelled spells (bodyEq placeEq)⟩

theorem readsAnywhere_string {body : Text} (isString : IsString body) :
    ReadsAnywhere depth ('"' :: (body ++ ['"'])) := by
  refine readsAnywhere_leaf '"' (by decide) (by decide)
    (fun cursor => readString (cursor.drop 1) >>= fun result => .ok (string result.1, result.2))
    (fun steps peekEq => ?_)
    ((readsAlike_string isString).of_bind (fun _ => rfl) fun text => .pure (string text))
  unfold readValueFrom
  simp only [peekEq]

/-! Lists -/

theorem readItemsFrom_item_ok {item : Padded} {steps : Nat} {values : List Json}
    (gaps : item.HasGaps) (isValue : IsValue item.core) (anywhere : ReadsAnywhere depth item.core)
    (first : Bool) (isGap : IsGap gap)
    (restEq : cursor.rest = gap ++ ((if first then [] else [',']) ++ (item.text ++ back)))
    (ends : EndsValue (item.back ++ back))
    (readEq : readItemsFrom steps depth first cursor = .ok (values, after)) :
    ∃ fewer place value later, readItemsFrom fewer depth false place = .ok (later, after) ∧
      place.rest = item.back ++ back ∧ values = value :: later ∧ ReadsItem depth item value := by
  cases steps with
  | zero => contradiction
  | succ steps =>
      obtain ⟨start, nextEq, startEq⟩ := nextItem_item gaps isValue.head first isGap restEq
      rw [readItemsFrom, nextEq] at readEq
      change (readValueFrom steps depth start >>= _) = _ at readEq
      obtain ⟨⟨value, place⟩, valueRead, laterRead⟩ := exists_of_bind readEq
      obtain ⟨⟨later, final⟩, itemsRead, resultEq⟩ := exists_of_bind laterRead
      cases resultEq
      obtain ⟨placeEq, reads⟩ := @ReadsAnywhere.again _ _ anywhere start place [] _ steps value
        isGap_nil startEq ends valueRead
      exact ⟨steps, place, value, later, itemsRead, placeEq, rfl, gaps, reads⟩

theorem readItemsFrom_end_ok {steps : Nat} {values : List Json} (isGap : IsGap gap) (first : Bool)
    (restEq : cursor.rest = gap ++ ']' :: back)
    (readEq : readItemsFrom steps depth first cursor = .ok (values, after)) :
    values = [] ∧ after.rest = back := by
  cases steps with
  | zero => contradiction
  | succ steps => exact (readItemsFrom_end isGap first depth restEq).eq readEq

theorem readItemsFrom_ok {items : List Padded} {steps : Nat} {values : List Json}
    (gaps : ∀ item ∈ items, item.HasGaps) (isValue : ∀ item ∈ items, IsValue item.core)
    (anywhere : ∀ item ∈ items, ReadsAnywhere depth item.core) (isSpace : IsGap space)
    (isGap : IsGap gap) (restEq : cursor.rest =
      gap ++ ((items.map Padded.text).flatMap (',' :: ·) ++ (space ++ ']' :: back)))
    (readEq : readItemsFrom steps depth false cursor = .ok (values, after)) :
    List.Forall₂ (ReadsItem depth) items values ∧ after.rest = back := by
  induction items generalizing cursor gap steps values with
  | nil =>
      have endEq : cursor.rest = (gap ++ space) ++ ']' :: back := by
        rw [restEq]
        simp
      obtain ⟨rfl, afterEq⟩ := readItemsFrom_end_ok (isGap.append isSpace) false endEq readEq
      exact ⟨.nil, afterEq⟩
  | cons item items ih =>
      rw [List.forall_mem_cons] at gaps isValue anywhere
      have itemEq : cursor.rest = gap ++ ([','] ++ (item.text ++
          ((items.map Padded.text).flatMap (',' :: ·) ++ (space ++ ']' :: back)))) := by
        simpa using restEq
      have ends :=
        @endsValue_more _ _ back gaps.1.2 isSpace (items.map Padded.text) ']' (Or.inl rfl)
      obtain ⟨fewer, place, value, later, itemsRead, placeEq, rfl, reads⟩ :=
        readItemsFrom_item_ok gaps.1 isValue.1 anywhere.1 false isGap itemEq ends readEq
      obtain ⟨laterReads, afterEq⟩ := ih gaps.2 isValue.2 anywhere.2 gaps.1.2 placeEq itemsRead
      exact ⟨.cons reads laterReads, afterEq⟩

theorem readValueFrom_list_ok {items : List Padded} {steps : Nat} {value : Json}
    (gaps : ∀ item ∈ items, item.HasGaps) (isValue : ∀ item ∈ items, IsValue item.core)
    (anywhere : ∀ depth, ∀ item ∈ items, ReadsAnywhere depth item.core) (isSpace : IsGap space)
    (isGap : IsGap gap) (restEq : cursor.rest = gap ++ (listText space items ++ back))
    (readEq : readValueFrom steps depth cursor = .ok (value, after)) :
    after.rest = back ∧ ∃ values fewer, value = array values ∧ depth = fewer + 1 ∧
      List.Forall₂ (ReadsItem fewer) items values := by
  cases steps with
  | zero => contradiction
  | succ steps =>
      have listEq : cursor.rest =
          gap ++ '[' :: (Text.join [','] (items.map Padded.text) ++ (space ++ ']' :: back)) := by
        rw [restEq]
        simp [listText]
      have startEq := rest_skipSpace isGap (by decide) listEq
      have openEq := Cursor.rest_drop_one startEq
      unfold readValueFrom at readEq
      simp only [Cursor.peek?_of_cons startEq] at readEq
      cases depth with
      | zero => contradiction
      | succ depth =>
          obtain ⟨⟨values, final⟩, itemsRead, resultEq⟩ := exists_of_bind readEq
          cases resultEq
          cases items with
          | nil =>
              obtain ⟨rfl, afterEq⟩ := readItemsFrom_end_ok isSpace true openEq itemsRead
              exact ⟨afterEq, [], depth, rfl, rfl, .nil⟩
          | cons item items =>
              rw [List.map_cons, Text.join_cons, List.append_assoc] at openEq
              have anywhereHere := anywhere depth
              rw [List.forall_mem_cons] at gaps isValue anywhereHere
              have ends :=
                @endsValue_more _ _ back gaps.1.2 isSpace (items.map Padded.text) ']' (Or.inl rfl)
              obtain ⟨fewer, place, value, later, laterRead, placeEq, rfl, reads⟩ :=
                readItemsFrom_item_ok gaps.1 isValue.1 anywhereHere.1 true isGap_nil openEq ends
                  itemsRead
              obtain ⟨laterReads, afterEq⟩ :=
                readItemsFrom_ok gaps.2 isValue.2 anywhereHere.2 isSpace gaps.1.2 placeEq laterRead
              exact ⟨afterEq, value :: later, depth, rfl, rfl, .cons reads laterReads⟩

theorem readsAnywhere_list {items : List Padded} (gaps : ∀ item ∈ items, item.HasGaps)
    (isValue : ∀ item ∈ items, IsValue item.core)
    (anywhere : ∀ depth, ∀ item ∈ items, ReadsAnywhere depth item.core) (isSpace : IsGap space) :
    ReadsAnywhere depth (listText space items) := by
  constructor
  intro cursor after gap back steps value isGap restEq _ readEq
  obtain ⟨afterEq, values, fewer, rfl, rfl, reads⟩ :=
    readValueFrom_list_ok gaps isValue anywhere isSpace isGap restEq readEq
  refine ⟨afterEq, ⟨_, _, rfl, by decide⟩, fun isGap placeEq _ enough => ?_⟩
  exact readValueFrom_list reads isSpace isGap placeEq enough

/-! Objects -/

theorem readName_ok {member : WrittenMember} {name : Text} {start : Cursor}
    (gaps : member.HasGaps) (isString : IsString member.name) (startEq : start.rest =
      member.name ++ '"' :: (member.middle ++ ':' :: (member.value.text ++ back)))
    (nameRead : readString start = .ok (name, after)) :
    Spells member.name name ∧ ∃ afterColon, expectColon after = .ok afterColon ∧
      afterColon.rest =
        member.value.front ++ (member.value.core ++ (member.value.back ++ back)) := by
  obtain ⟨spells, afterEq⟩ := readString_ok isString startEq nameRead
  obtain ⟨afterColon, colonPassed, afterColonEq⟩ := expectColon_gap gaps.2.1 afterEq
  refine ⟨spells, afterColon, colonPassed, ?_⟩
  rw [afterColonEq]
  simp [Padded.text]

theorem readMembersFrom_member_ok {member : WrittenMember} {steps : Nat}
    {pairs : List (Text × Json)} (gaps : member.HasGaps) (isString : IsString member.name)
    (anywhere : ReadsAnywhere depth member.value.core) (first : Bool) (isGap : IsGap gap)
    (restEq : cursor.rest = gap ++ ((if first then [] else [',']) ++ (member.text ++ back)))
    (ends : EndsValue (member.value.back ++ back))
    (readEq : readMembersFrom steps depth first cursor = .ok (pairs, after)) :
    ∃ fewer place pair later, readMembersFrom fewer depth false place = .ok (later, after) ∧
      place.rest = member.value.back ++ back ∧ pairs = pair :: later ∧
      ReadsMember depth member pair := by
  cases steps with
  | zero => contradiction
  | succ steps =>
      obtain ⟨start, nextEq, startEq⟩ := nextMember_member gaps first isGap restEq
      rw [readMembersFrom, nextEq] at readEq
      change (readString start >>= _) = _ at readEq
      obtain ⟨⟨name, afterName⟩, nameRead, colonRead⟩ := exists_of_bind readEq
      obtain ⟨spells, afterColon, colonPassed, afterColonEq⟩ :=
        readName_ok gaps isString startEq nameRead
      obtain ⟨_, colonEq, valueAndMore⟩ := exists_of_bind colonRead
      rw [colonPassed] at colonEq
      cases colonEq
      obtain ⟨⟨value, place⟩, valueRead, laterRead⟩ := exists_of_bind valueAndMore
      obtain ⟨⟨later, final⟩, membersRead, resultEq⟩ := exists_of_bind laterRead
      cases resultEq
      obtain ⟨placeEq, reads⟩ := anywhere.again gaps.2.2.1 afterColonEq ends valueRead
      exact ⟨steps, place, (name, value), later, membersRead, placeEq, rfl, gaps, spells, reads⟩

theorem readMembersFrom_end_ok {steps : Nat} {pairs : List (Text × Json)} (isGap : IsGap gap)
    (first : Bool) (restEq : cursor.rest = gap ++ '\x7d' :: back)
    (readEq : readMembersFrom steps depth first cursor = .ok (pairs, after)) :
    pairs = [] ∧ after.rest = back := by
  cases steps with
  | zero => contradiction
  | succ steps => exact (readMembersFrom_end isGap first depth restEq).eq readEq

theorem readMembersFrom_ok {members : List WrittenMember} {steps : Nat}
    {pairs : List (Text × Json)} (gaps : ∀ member ∈ members, member.HasGaps)
    (strings : ∀ member ∈ members, IsString member.name)
    (anywhere : ∀ member ∈ members, ReadsAnywhere depth member.value.core) (isSpace : IsGap space)
    (isGap : IsGap gap) (restEq : cursor.rest =
      gap ++ ((members.map WrittenMember.text).flatMap (',' :: ·) ++ (space ++ '\x7d' :: back)))
    (readEq : readMembersFrom steps depth false cursor = .ok (pairs, after)) :
    List.Forall₂ (ReadsMember depth) members pairs ∧ after.rest = back := by
  induction members generalizing cursor gap steps pairs with
  | nil =>
      have endEq : cursor.rest = (gap ++ space) ++ '\x7d' :: back := by
        rw [restEq]
        simp
      obtain ⟨rfl, afterEq⟩ := readMembersFrom_end_ok (isGap.append isSpace) false endEq readEq
      exact ⟨.nil, afterEq⟩
  | cons member members ih =>
      rw [List.forall_mem_cons] at gaps strings anywhere
      have memberEq : cursor.rest = gap ++ ([','] ++ (member.text ++
          ((members.map WrittenMember.text).flatMap (',' :: ·) ++ (space ++ '\x7d' :: back)))) := by
        simpa using restEq
      have ends := @endsValue_more _ _ back gaps.1.2.2.2 isSpace (members.map WrittenMember.text)
        '\x7d' (Or.inr rfl)
      obtain ⟨fewer, place, pair, later, membersRead, placeEq, rfl, reads⟩ :=
        readMembersFrom_member_ok gaps.1 strings.1 anywhere.1 false isGap memberEq ends readEq
      obtain ⟨laterReads, afterEq⟩ :=
        ih gaps.2 strings.2 anywhere.2 gaps.1.2.2.2 placeEq membersRead
      exact ⟨.cons reads laterReads, afterEq⟩

theorem readValueFrom_object_ok {members : List WrittenMember} {steps : Nat} {value : Json}
    (gaps : ∀ member ∈ members, member.HasGaps)
    (strings : ∀ member ∈ members, IsString member.name)
    (anywhere : ∀ depth, ∀ member ∈ members, ReadsAnywhere depth member.value.core)
    (isSpace : IsGap space) (isGap : IsGap gap)
    (restEq : cursor.rest = gap ++ (objectText space members ++ back))
    (readEq : readValueFrom steps depth cursor = .ok (value, after)) :
    after.rest = back ∧ ∃ pairs fewer, value = object pairs ∧ depth = fewer + 1 ∧
      List.Forall₂ (ReadsMember fewer) members pairs := by
  cases steps with
  | zero => contradiction
  | succ steps =>
      have objectEq : cursor.rest = gap ++ '\x7b' ::
          (Text.join [','] (members.map WrittenMember.text) ++ (space ++ '\x7d' :: back)) := by
        rw [restEq]
        simp [objectText]
      have startEq := rest_skipSpace isGap (by decide) objectEq
      have openEq := Cursor.rest_drop_one startEq
      unfold readValueFrom at readEq
      simp only [Cursor.peek?_of_cons startEq] at readEq
      cases depth with
      | zero => contradiction
      | succ depth =>
          obtain ⟨⟨pairs, final⟩, membersRead, resultEq⟩ := exists_of_bind readEq
          cases resultEq
          cases members with
          | nil =>
              obtain ⟨rfl, afterEq⟩ := readMembersFrom_end_ok isSpace true openEq membersRead
              exact ⟨afterEq, [], depth, rfl, rfl, .nil⟩
          | cons member members =>
              rw [List.map_cons, Text.join_cons, List.append_assoc] at openEq
              have anywhereHere := anywhere depth
              rw [List.forall_mem_cons] at gaps strings anywhereHere
              have ends := @endsValue_more _ _ back gaps.1.2.2.2 isSpace
                (members.map WrittenMember.text) '\x7d' (Or.inr rfl)
              obtain ⟨fewer, place, pair, later, laterRead, placeEq, rfl, reads⟩ :=
                readMembersFrom_member_ok gaps.1 strings.1 anywhereHere.1 true isGap_nil openEq ends
                  membersRead
              obtain ⟨laterReads, afterEq⟩ := readMembersFrom_ok gaps.2 strings.2 anywhereHere.2
                isSpace gaps.1.2.2.2 placeEq laterRead
              exact ⟨afterEq, pair :: later, depth, rfl, rfl, .cons reads laterReads⟩

theorem readsAnywhere_object {members : List WrittenMember}
    (gaps : ∀ member ∈ members, member.HasGaps)
    (strings : ∀ member ∈ members, IsString member.name)
    (anywhere : ∀ depth, ∀ member ∈ members, ReadsAnywhere depth member.value.core)
    (isSpace : IsGap space) : ReadsAnywhere depth (objectText space members) := by
  constructor
  intro cursor after gap back steps value isGap restEq _ readEq
  obtain ⟨afterEq, pairs, fewer, rfl, rfl, reads⟩ :=
    readValueFrom_object_ok gaps strings anywhere isSpace isGap restEq readEq
  refine ⟨afterEq, ⟨_, _, rfl, by decide⟩, fun isGap placeEq _ enough => ?_⟩
  exact readValueFrom_object reads isSpace isGap placeEq enough

end

/-- A value that is read in one place is read as the same value wherever it stands. -/
theorem IsValue.readsAnywhere {text : Text} (isValue : IsValue text) (depth : Nat) :
    ReadsAnywhere depth text := by
  induction isValue generalizing depth with
  | name isName => exact readsAnywhere_name isName
  | number isNumber => exact readsAnywhere_number isNumber
  | string isString => exact readsAnywhere_string isString
  | @emptyArray gap isGap =>
      exact @readsAnywhere_list gap depth [] (by simp) (by simp) (by simp) isGap
  | @array items _ gaps values ih =>
      exact @readsAnywhere_list [] depth items gaps values (fun depth item member =>
        ih item member depth) isGap_nil
  | @emptyObject gap isGap =>
      exact @readsAnywhere_object gap depth [] (by simp) (by simp) (by simp) isGap
  | @object members _ gaps strings _ ih =>
      exact @readsAnywhere_object [] depth members gaps strings (fun depth member isMember =>
        ih member isMember depth) isGap_nil

end TopicSieve.Json
