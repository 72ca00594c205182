import TopicSieve.Proofs.Message.Fields

/-!
The members of an envelope that was read. Main statement: a member may be replaced by another one,
and what comes behind it by another text, and the same envelope is read, if this holds for the
values of the two members and for the two texts behind them.
-/

namespace TopicSieve

namespace Json

structure Padded.IsItem (item : Padded) : Prop where
  gaps : item.HasGaps
  isValue : IsValue item.core

structure WrittenMember.IsMember (member : WrittenMember) : Prop where
  gaps : member.HasGaps
  isString : IsString member.name
  isValue : IsValue member.value.core

def earlierItems (items : List Padded) : Text := items.flatMap fun item => item.text ++ [',']

def earlierMembers (members : List WrittenMember) : Text :=
  members.flatMap fun member => member.text ++ [',']

def moreItems (items : List Padded) (back : Text) : Text :=
  (items.map Padded.text).flatMap (',' :: ·) ++ ']' :: back

theorem endsValue_moreItems {gap : Text} (isGap : IsGap gap) (items : List Padded) (back : Text) :
    EndsValue (gap ++ moreItems items back) :=
  @endsValue_more gap [] back isGap isGap_nil (items.map Padded.text) ']' (Or.inl rfl)

end Json

namespace Envelope

open Json

section

variable {cursor after : Cursor} {gap back : Text} {envelope final : Envelope} {seen : List Field}
  {steps : Nat}

theorem readMembers_member_ok {member : WrittenMember} (gaps : member.HasGaps)
    (isString : IsString member.name) (first : Bool) (isGap : IsGap gap)
    (restEq : cursor.rest = gap ++ ((if first then [] else [',']) ++ (member.text ++ back)))
    (readEq : readMembers steps seen first envelope cursor = .ok (final, after)) :
    ∃ fewer name start next, Spells member.name name ∧
      start.rest = member.value.front ++ (member.value.core ++ (member.value.back ++ back)) ∧
      ((Field.ofName? name = none ∧ skipValue start = .ok next ∧
          readMembers fewer seen false envelope next = .ok (final, after)) ∨
        ∃ field filled, Field.ofName? name = some field ∧ field ∉ seen ∧
          readField envelope start field = .ok (filled, next) ∧
          readMembers fewer (field :: seen) false filled next = .ok (final, after)) := by
  cases steps with
  | zero => contradiction
  | succ steps =>
      obtain ⟨nameStart, nextEq, nameStartEq⟩ := nextMember_member gaps first isGap restEq
      rw [readMembers, nextEq] at readEq
      change (readString nameStart >>= _) = _ at readEq
      obtain ⟨⟨name, afterName⟩, nameRead, memberRead⟩ := exists_of_bind readEq
      obtain ⟨spells, start, colonPassed, startEq⟩ :=
        readName_ok gaps isString nameStartEq nameRead
      simp only [colonPassed] at memberRead
      cases known : Field.ofName? name with
      | none =>
          simp only [known] at memberRead
          change (skipValue start >>= _) = _ at memberRead
          obtain ⟨next, skipEq, laterRead⟩ := exists_of_bind memberRead
          exact ⟨steps, name, start, next, spells, startEq, Or.inl ⟨known, skipEq, laterRead⟩⟩
      | some field =>
          simp only [known] at memberRead
          by_cases given : seen.contains field = true
          · rw [if_pos given] at memberRead
            contradiction
          · rw [if_neg given] at memberRead
            change (readField envelope start field >>= _) = _ at memberRead
            obtain ⟨⟨filled, next⟩, fieldRead, laterRead⟩ := exists_of_bind memberRead
            have fresh : field ∉ seen := by simpa using given
            exact ⟨steps, name, start, next, spells, startEq,
              Or.inr ⟨field, filled, known, fresh, fieldRead, laterRead⟩⟩

theorem readField_headers {field : Field} {filled : Envelope}
    (readEq : readField envelope cursor field = .ok (filled, after)) (differs : field ≠ .headers) :
    filled.headers = envelope.headers := by
  cases field
  case headers => contradiction
  all_goals
    obtain ⟨_, _, changed⟩ := exists_of_bind readEq
    cases changed
    rfl

theorem headers_of_seen {first : Bool} (given : .headers ∈ seen)
    (readEq : readMembers steps seen first envelope cursor = .ok (final, after)) :
    final.headers = envelope.headers := by
  induction steps generalizing seen first envelope cursor with
  | zero => contradiction
  | succ steps ih =>
      rw [readMembers] at readEq
      obtain ⟨⟨more, start⟩, _, memberRead⟩ := exists_of_bind readEq
      cases more with
      | false =>
          cases memberRead
          rfl
      | true =>
          change (readString start >>= _) = _ at memberRead
          obtain ⟨⟨name, afterName⟩, _, valueRead⟩ := exists_of_bind memberRead
          simp only at valueRead
          split at valueRead
          · obtain ⟨_, _, skipRead⟩ := exists_of_bind valueRead
            obtain ⟨_, _, laterRead⟩ := exists_of_bind skipRead
            exact ih given laterRead
          · split at valueRead
            · contradiction
            · next field _ fresh =>
                obtain ⟨_, _, fieldAndMore⟩ := exists_of_bind valueRead
                obtain ⟨⟨filled, _⟩, fieldRead, laterRead⟩ := exists_of_bind fieldAndMore
                have differs : field ≠ .headers := by
                  rintro rfl
                  exact fresh (by simpa using given)
                have unchanged := ih (List.mem_cons_of_mem field given) laterRead
                exact unchanged.trans (readField_headers fieldRead differs)

end

structure MemberAlike (member other : WrittenMember) : Prop where
  gaps : member.HasGaps
  otherGaps : other.HasGaps
  isString : IsString member.name
  sameName : other.name = member.name
  extra : ∀ name, Spells member.name name → Field.ofName? name = none →
    IsValue member.value.core ∧ IsValue other.value.core
  field : ∀ name field, Spells member.name name → Field.ofName? name = some field →
    ∀ envelope, ReadsAlike (fun cursor => readField envelope cursor field)
      (member.value.front ++ member.value.core) (other.value.front ++ other.value.core)

/-- What is read from the members that begin one text somewhere is read from those that begin the
other text wherever that one stands, and has a property. -/
structure MembersAlike (property : Envelope → Prop) (first : Bool) (text other : Text) : Prop where
  again : ∀ {cursor after : Cursor} {gap : Text} {seen : List Field} {envelope final : Envelope}
    {steps : Nat}, IsGap gap → cursor.rest = gap ++ text →
    readMembers steps seen first envelope cursor = .ok (final, after) → property final ∧
      ∀ {place : Cursor} {otherGap : Text} {more : Nat}, IsGap otherGap →
        place.rest = otherGap ++ other → other.length < more →
        Yields (readMembers more seen first envelope place) final after.rest

theorem membersAlike_end (first : Bool) (back : Text) :
    MembersAlike (fun _ => True) first ('\x7d' :: back) ('\x7d' :: back) := by
  constructor
  intro cursor after gap seen envelope final steps isGap restEq readEq
  refine ⟨trivial, fun {place otherGap more} isOtherGap placeEq enough => ?_⟩
  cases steps with
  | zero => contradiction
  | succ steps =>
      obtain ⟨rfl, afterEq⟩ := (readMembers_end isGap first steps seen restEq).eq readEq
      obtain ⟨more, rfl⟩ := Nat.exists_eq_succ_of_ne_zero (by omega : more ≠ 0)
      rw [afterEq]
      exact readMembers_end isOtherGap first more seen placeEq

theorem membersAlike_cons {member other : WrittenMember} {property : Envelope → Prop}
    {text otherText : Text} (alike : MemberAlike member other) (first : Bool)
    (ends : EndsValue (member.value.back ++ text))
    (otherEnds : EndsValue (other.value.back ++ otherText))
    (later : MembersAlike property false text otherText) :
    MembersAlike property first ((if first then [] else [',']) ++ (member.text ++ text))
      ((if first then [] else [',']) ++ (other.text ++ otherText)) := by
  constructor
  intro cursor after gap seen envelope final steps isGap restEq readEq
  obtain ⟨fewer, name, start, next, spells, startEq, outcome⟩ :=
    readMembers_member_ok alike.gaps alike.isString first isGap restEq readEq
  have otherSpells : Spells other.name name := by rwa [alike.sameName]
  rcases outcome with
    ⟨unknown, skipEq, laterRead⟩ | ⟨field, filled, known, fresh, fieldRead, laterRead⟩
  · obtain ⟨isValue, isOtherValue⟩ := alike.extra name spells unknown
    obtain ⟨_, passed, nextEq⟩ := skipValue_value isValue alike.gaps.2.2.1 startEq ends
    rw [passed] at skipEq
    cases skipEq
    obtain ⟨holds, again⟩ := later.again alike.gaps.2.2.2 nextEq laterRead
    refine ⟨holds, fun {place otherGap more} isOtherGap placeEq enough => ?_⟩
    obtain ⟨more, rfl⟩ := Nat.exists_eq_succ_of_ne_zero (by omega : more ≠ 0)
    obtain ⟨nameStart, afterName, afterColon, nextMemberEq, nameEq, colonEq, valueEq⟩ :=
      readName_member alike.otherGaps otherSpells first isOtherGap placeEq
    obtain ⟨behind, otherSkipEq, behindEq⟩ :=
      skipValue_value isOtherValue alike.otherGaps.2.2.1 valueEq otherEnds
    rw [readMembers_of_extra nextMemberEq nameEq unknown colonEq otherSkipEq]
    apply again alike.otherGaps.2.2.2 behindEq
    simp only [List.length_append, WrittenMember.text, List.length_cons] at enough
    omega
  · have fieldAlike := alike.field name field spells known envelope
    rw [← List.append_assoc] at startEq
    obtain ⟨nextEq, fieldAgain⟩ := fieldAlike.again startEq ends fieldRead
    obtain ⟨holds, again⟩ := later.again alike.gaps.2.2.2 nextEq laterRead
    refine ⟨holds, fun {place otherGap more} isOtherGap placeEq enough => ?_⟩
    obtain ⟨more, rfl⟩ := Nat.exists_eq_succ_of_ne_zero (by omega : more ≠ 0)
    obtain ⟨nameStart, afterName, afterColon, nextMemberEq, nameEq, colonEq, valueEq⟩ :=
      readName_member alike.otherGaps otherSpells first isOtherGap placeEq
    rw [← List.append_assoc] at valueEq
    obtain ⟨behind, otherRead, behindEq⟩ := fieldAgain valueEq otherEnds
    rw [readMembers_of_field nextMemberEq nameEq known fresh colonEq otherRead]
    apply again alike.otherGaps.2.2.2 behindEq
    simp only [List.length_append, WrittenMember.text, List.length_cons] at enough
    omega

theorem memberAlike_self {member : WrittenMember} (isMember : member.IsMember) :
    MemberAlike member member where
  gaps := isMember.gaps
  otherGaps := isMember.gaps
  isString := isMember.isString
  sameName := rfl
  extra _ _ _ := ⟨isMember.isValue, isMember.isValue⟩
  field _ field _ _ envelope := readsAlike_field envelope field isMember.isValue isMember.gaps.2.2.1

theorem membersAlike_later {members : List WrittenMember}
    (isMember : ∀ member ∈ members, member.IsMember) (back : Text) :
    MembersAlike (fun _ => True) false (moreMembers members back) (moreMembers members back) := by
  induction members with
  | nil => exact membersAlike_end false back
  | cons member members ih =>
      rw [List.forall_mem_cons] at isMember
      have ends := @endsValue_moreMembers _ back isMember.1.gaps.2.2.2 members
      have textEq : moreMembers (member :: members) back =
          [','] ++ (member.text ++ moreMembers members back) := by
        simp [moreMembers]
      rw [textEq]
      exact membersAlike_cons (memberAlike_self isMember.1) false ends ends (ih isMember.2)

theorem membersAlike_earlier {members : List WrittenMember}
    (isMember : ∀ member ∈ members, member.IsMember) {property : Envelope → Prop}
    {text other : Text} (alike : ∀ first, MembersAlike property first
      ((if first then [] else [',']) ++ text) ((if first then [] else [',']) ++ other))
    (first : Bool) :
    MembersAlike property first
      ((if first then [] else [',']) ++ (earlierMembers members ++ text))
      ((if first then [] else [',']) ++ (earlierMembers members ++ other)) := by
  induction members generalizing first with
  | nil => exact alike first
  | cons member members ih =>
      rw [List.forall_mem_cons] at isMember
      have ends (text : Text) : EndsValue (member.value.back ++ ([','] ++ text)) :=
        endsValue_gap isMember.1.gaps.2.2.2 (Or.inl rfl)
      have later := membersAlike_cons (memberAlike_self isMember.1) first (ends _) (ends _)
        (ih isMember.2 false)
      simpa [earlierMembers] using later

/-! Envelopes that are lists -/

structure ItemsAlike (property : Envelope → Prop) (fields : List Field) (first : Bool)
    (text other : Text) : Prop where
  again : ∀ {cursor after : Cursor} {gap : Text} {envelope final : Envelope}, IsGap gap →
    cursor.rest = gap ++ text → readItems fields first envelope cursor = .ok (final, after) →
    property final ∧ ∀ {place : Cursor} {otherGap : Text}, IsGap otherGap →
      place.rest = otherGap ++ other →
      ∃ behind, readItems fields first envelope place = .ok (final, behind) ∧
        (skipSpace behind).rest = (skipSpace after).rest

theorem itemsAlike_end (fields : List Field) (first : Bool) (back : Text) :
    ItemsAlike (fun _ => True) fields first (']' :: back) (']' :: back) := by
  constructor
  intro cursor after gap envelope final isGap restEq readEq
  refine ⟨trivial, fun {place otherGap} isOtherGap placeEq => ?_⟩
  have startEq := rest_skipSpace isGap (by decide) restEq
  have placeStart := rest_skipSpace isOtherGap (by decide) placeEq
  cases fields with
  | nil =>
      cases readEq
      exact ⟨place, rfl, placeStart.trans startEq.symm⟩
  | cons field fields =>
      obtain ⟨start, nextEq, endEq⟩ := nextItem_end isGap first restEq
      obtain ⟨behind, otherNextEq, otherEndEq⟩ := nextItem_end isOtherGap first placeEq
      rw [readItems, nextEq] at readEq
      cases readEq
      refine ⟨behind, by rw [readItems, otherNextEq]; rfl, ?_⟩
      rw [@rest_skipSpace _ [] _ isGap_nil _ (by decide) endEq,
        @rest_skipSpace _ [] _ isGap_nil _ (by decide) otherEndEq]

theorem readItems_item_ok {item : Padded} {field : Field} {fields : List Field}
    {cursor after : Cursor} {gap back : Text} {envelope final : Envelope} (gaps : item.HasGaps)
    (head : ∃ first rest, item.core = first :: rest ∧ isSpace first = false ∧ first ≠ ']')
    (first : Bool) (isGap : IsGap gap)
    (restEq : cursor.rest = gap ++ ((if first then [] else [',']) ++ (item.text ++ back)))
    (readEq : readItems (field :: fields) first envelope cursor = .ok (final, after)) :
    ∃ start filled next, start.rest = item.core ++ (item.back ++ back) ∧
      readField envelope start field = .ok (filled, next) ∧
      readItems fields false filled next = .ok (final, after) := by
  obtain ⟨start, nextEq, startEq⟩ := nextItem_item gaps head first isGap restEq
  rw [readItems, nextEq] at readEq
  change (readField envelope start field >>= _) = _ at readEq
  obtain ⟨⟨filled, next⟩, fieldRead, laterRead⟩ := exists_of_bind readEq
  exact ⟨start, filled, next, startEq, fieldRead, laterRead⟩

theorem headers_of_items {fields : List Field} {first : Bool} {cursor after : Cursor}
    {envelope final : Envelope} (absent : .headers ∉ fields)
    (readEq : readItems fields first envelope cursor = .ok (final, after)) :
    final.headers = envelope.headers := by
  induction fields generalizing first cursor envelope with
  | nil =>
      cases readEq
      rfl
  | cons field fields ih =>
      rw [readItems] at readEq
      obtain ⟨⟨more, start⟩, _, itemRead⟩ := exists_of_bind readEq
      cases more with
      | false =>
          cases itemRead
          rfl
      | true =>
          change (readField envelope start field >>= _) = _ at itemRead
          obtain ⟨⟨filled, next⟩, fieldRead, laterRead⟩ := exists_of_bind itemRead
          obtain ⟨differs, absentLater⟩ := not_or.mp (mt List.mem_cons.mpr absent)
          exact (ih absentLater laterRead).trans (readField_headers fieldRead (Ne.symm differs))

theorem itemsAlike_cons {item other : Padded} {property : Envelope → Prop} {field : Field}
    {fields : List Field} {text otherText : Text} (gaps : item.HasGaps) (otherGaps : other.HasGaps)
    (head : ∃ first rest, item.core = first :: rest ∧ isSpace first = false ∧ first ≠ ']')
    (otherHead : ∃ first rest, other.core = first :: rest ∧ isSpace first = false ∧ first ≠ ']')
    (alike : ∀ envelope, ReadsAlike (fun cursor => readField envelope cursor field) item.core
      other.core) (first : Bool) (ends : EndsValue (item.back ++ text))
    (otherEnds : EndsValue (other.back ++ otherText))
    (later : ItemsAlike property fields false text otherText) :
    ItemsAlike property (field :: fields) first
      ((if first then [] else [',']) ++ (item.text ++ text))
      ((if first then [] else [',']) ++ (other.text ++ otherText)) := by
  constructor
  intro cursor after gap envelope final isGap restEq readEq
  obtain ⟨start, filled, next, startEq, fieldRead, laterRead⟩ :=
    readItems_item_ok gaps head first isGap restEq readEq
  obtain ⟨nextRest, fieldAgain⟩ := (alike envelope).again startEq ends fieldRead
  obtain ⟨holds, again⟩ := later.again gaps.2 nextRest laterRead
  refine ⟨holds, fun {place otherGap} isOtherGap placeEq => ?_⟩
  obtain ⟨otherStart, otherNextEq, otherStartEq⟩ :=
    nextItem_item otherGaps otherHead first isOtherGap placeEq
  obtain ⟨behind, otherRead, behindEq⟩ := fieldAgain otherStartEq otherEnds
  obtain ⟨last, lastRead, lastEq⟩ := again otherGaps.2 behindEq
  refine ⟨last, ?_, lastEq⟩
  rw [readItems, otherNextEq]
  simp only [bind, Except.bind, Bool.not_true, Bool.false_eq_true, if_false, otherRead, lastRead]

theorem readsAlike_item {item : Padded} (isItem : item.IsItem) (field : Field)
    (envelope : Envelope) :
    ReadsAlike (fun cursor => readField envelope cursor field) item.core item.core :=
  @readsAlike_field item.core [] envelope field isItem.isValue isGap_nil

theorem itemsAlike_later {items : List Padded} (isItem : ∀ item ∈ items, item.IsItem)
    {fields : List Field} (fit : items.length ≤ fields.length) (back : Text) :
    ItemsAlike (fun _ => True) fields false (moreItems items back) (moreItems items back) := by
  induction items generalizing fields with
  | nil => exact itemsAlike_end fields false back
  | cons item items ih =>
      obtain ⟨field, fields, rfl⟩ := List.exists_cons_of_ne_nil (by
        rintro rfl
        contradiction : fields ≠ [])
      rw [List.forall_mem_cons] at isItem
      have ends := endsValue_moreItems isItem.1.gaps.2 items back
      have later := itemsAlike_cons isItem.1.gaps isItem.1.gaps isItem.1.isValue.head
        isItem.1.isValue.head (readsAlike_item isItem.1 field) false ends ends
        (ih isItem.2 (Nat.le_of_succ_le_succ fit))
      simpa [moreItems] using later

theorem itemsAlike_earlier {items : List Padded} (isItem : ∀ item ∈ items, item.IsItem)
    {property : Envelope → Prop} {front fields : List Field}
    (lengthEq : items.length = front.length) {text other : Text} (alike : ∀ first, ItemsAlike property fields first
      ((if first then [] else [',']) ++ text) ((if first then [] else [',']) ++ other))
    (first : Bool) :
    ItemsAlike property (front ++ fields) first
      ((if first then [] else [',']) ++ (earlierItems items ++ text))
      ((if first then [] else [',']) ++ (earlierItems items ++ other)) := by
  induction items generalizing front first with
  | nil =>
      obtain rfl := List.eq_nil_of_length_eq_zero lengthEq.symm
      exact alike first
  | cons item items ih =>
      obtain ⟨field, front, rfl⟩ := List.exists_cons_of_length_eq_add_one lengthEq.symm
      rw [List.forall_mem_cons] at isItem
      have ends (text : Text) : EndsValue (item.back ++ ([','] ++ text)) :=
        endsValue_gap isItem.1.gaps.2 (Or.inl rfl)
      have later := itemsAlike_cons isItem.1.gaps isItem.1.gaps isItem.1.isValue.head
        isItem.1.isValue.head (readsAlike_item isItem.1 field) first (ends _) (ends _)
        (ih isItem.2 (Nat.succ.inj lengthEq) false)
      simpa [earlierItems] using later

/-! Whole envelopes -/

theorem read_eq_ok_iff {text : Text} {envelope : Envelope} :
    read text = .ok envelope ↔ readWhole text = .ok envelope := by
  rw [read]
  split
  · next found => rw [found, Except.ok.injEq, Except.ok.injEq]
  all_goals
    next found =>
      rw [found]
      constructor
      all_goals intro impossible
      all_goals contradiction

theorem placeFault_eq_ok_iff {α : Type} {leave : Cursor → Cursor} {outcome : Except Stop α}
    {result : α} : placeFault leave outcome = .ok result ↔ outcome = .ok result := by
  unfold placeFault
  split
  · exact ⟨nofun, nofun⟩
  · exact Iff.rfl

theorem end_of_rest {after behind : Cursor} {final envelope : Envelope}
    (restEq : behind.rest = after.rest)
    (endEq : (if (skipSpace after).rest.isEmpty then Except.ok final
      else stopAhead (skipSpace after) .trailingCharacters) = .ok envelope) :
    final = envelope ∧ (if (skipSpace behind).rest.isEmpty then Except.ok final
      else stopAhead (skipSpace behind) .trailingCharacters) = .ok envelope := by
  have skippedEq : (skipSpace behind).rest = (skipSpace after).rest := by
    rw [skipSpace, skipSpace, Cursor.rest_dropWhile, Cursor.rest_dropWhile, restEq]
  split at endEq
  · next empty =>
      cases endEq
      exact ⟨rfl, by rw [skippedEq, if_pos empty]⟩
  · contradiction

theorem read_of_membersAlike {property : Envelope → Prop} {front text other : Text}
    {envelope : Envelope} (isGap : IsGap front) (alike : MembersAlike property true text other)
    (readEq : read (front ++ '\x7b' :: text) = .ok envelope) :
    property envelope ∧ read (front ++ '\x7b' :: other) = .ok envelope := by
  have opens (text : Text) : (skipSpace (Cursor.start (front ++ '\x7b' :: text))).rest =
      '\x7b' :: text := rest_skipSpace isGap (by decide) rfl
  rw [read_eq_ok_iff, readWhole] at readEq
  simp only [Cursor.peek?_of_cons (opens text)] at readEq
  obtain ⟨⟨final, after⟩, objectRead, endEq⟩ := exists_of_bind readEq
  obtain ⟨⟨_, closing⟩, membersRead, finalEq⟩ := exists_of_bind objectRead
  cases finalEq
  rw [placeFault_eq_ok_iff] at membersRead
  obtain ⟨holds, again⟩ :=
    @MembersAlike.again _ _ _ _ alike _ _ [] _ _ _ _ isGap_nil (Cursor.rest_drop_one (opens text))
      membersRead
  obtain ⟨otherClosing, otherRead, closingEq⟩ :=
    @again _ [] ((skipSpace (Cursor.start (front ++ '\x7b' :: other))).drop 1).rest.length.succ
      isGap_nil (Cursor.rest_drop_one (opens other))
      (by rw [Cursor.rest_drop_one (opens other)]; exact Nat.lt_succ_self _)
  have behindEq : (otherClosing.drop 1).rest = (closing.drop 1).rest := by
    rw [Cursor.rest_drop, Cursor.rest_drop, closingEq]
  obtain ⟨envelopeEq, otherEnd⟩ := end_of_rest behindEq endEq
  refine ⟨envelopeEq ▸ holds, ?_⟩
  have otherObject : readObject ((skipSpace (Cursor.start (front ++ '\x7b' :: other))).drop 1) =
      .ok (final, otherClosing.drop 1) := by
    rw [readObject, placeFault_eq_ok_iff.mpr otherRead]
    rfl
  rw [read_eq_ok_iff, readWhole]
  simp only [Cursor.peek?_of_cons (opens other), bind, Except.bind, otherObject]
  exact otherEnd

theorem closeList_of_skipSpace {after closed behind : Cursor}
    (restEq : (skipSpace behind).rest = (skipSpace after).rest)
    (closeEq : closeList after = .ok closed) :
    ∃ otherClosed, closeList behind = .ok otherClosed ∧ otherClosed.rest = closed.rest := by
  have peekEq : (skipSpace behind).peek? = (skipSpace after).peek? := by
    rw [Cursor.peek?, Cursor.peek?, restEq]
  unfold closeList at closeEq ⊢
  simp only [peekEq]
  simp only at closeEq
  split at closeEq
  · contradiction
  · cases closeEq
    refine ⟨(skipSpace behind).drop 1, rfl, ?_⟩
    rw [Cursor.rest_drop, Cursor.rest_drop, restEq]
  · contradiction
  · contradiction

theorem read_of_itemsAlike {property : Envelope → Prop} {front text other : Text}
    {envelope : Envelope} (isGap : IsGap front)
    (alike : ItemsAlike property Field.all true text other)
    (readEq : read (front ++ '[' :: text) = .ok envelope) :
    property envelope ∧ read (front ++ '[' :: other) = .ok envelope := by
  have opens (text : Text) : (skipSpace (Cursor.start (front ++ '[' :: text))).rest =
      '[' :: text := rest_skipSpace isGap (by decide) rfl
  rw [read_eq_ok_iff, readWhole] at readEq
  simp only [Cursor.peek?_of_cons (opens text)] at readEq
  obtain ⟨⟨final, closed⟩, listRead, endEq⟩ := exists_of_bind readEq
  obtain ⟨⟨_, after⟩, itemsRead, closeRead⟩ := exists_of_bind listRead
  obtain ⟨_, closeEq, finalEq⟩ := exists_of_bind closeRead
  cases finalEq
  rw [placeFault_eq_ok_iff] at itemsRead
  obtain ⟨holds, again⟩ :=
    @ItemsAlike.again _ _ _ _ _ alike _ _ [] _ _ isGap_nil (Cursor.rest_drop_one (opens text))
      itemsRead
  obtain ⟨behind, otherRead, behindEq⟩ :=
    @again _ [] isGap_nil (Cursor.rest_drop_one (opens other))
  obtain ⟨otherClosed, otherClose, closedEq⟩ := closeList_of_skipSpace behindEq closeEq
  obtain ⟨envelopeEq, otherEnd⟩ := end_of_rest closedEq endEq
  refine ⟨envelopeEq ▸ holds, ?_⟩
  have otherList : readList ((skipSpace (Cursor.start (front ++ '[' :: other))).drop 1) =
      .ok (final, otherClosed) := by
    rw [readList, placeFault_eq_ok_iff.mpr otherRead]
    simp only [bind, Except.bind, otherClose]
  rw [read_eq_ok_iff, readWhole]
  simp only [Cursor.peek?_of_cons (opens other), bind, Except.bind, otherList]
  exact otherEnd

end Envelope

end TopicSieve
