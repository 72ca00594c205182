import Mathlib.Data.List.Sort
import TopicSieve.Proofs.Json.Printing
import TopicSieve.Proofs.Message.Members

/-!
Headers that are written as an object. Only the names of its members count: spelled one way or
another, in any order, once or more often. Main statement: the headers of a message whose envelope
has such an object are the names in ascending order, and every other object with the same names in
its place gives the same message.
-/

namespace TopicSieve

theorem Text.distinctSorted_congr {names others : List Text}
    (same : ∀ name, name ∈ names ↔ name ∈ others) :
    Text.distinctSorted names = Text.distinctSorted others := by
  refine (Text.pairwise_distinctSorted names).eq_of_mem_iff (Text.pairwise_distinctSorted others) ?_
  intro name
  rw [Text.mem_distinctSorted, Text.mem_distinctSorted, same]

namespace Json

structure WrittenObject where
  space : Text
  members : List WrittenMember

namespace WrittenObject

def text (object : WrittenObject) : Text := objectText object.space object.members

structure IsObject (object : WrittenObject) : Prop where
  space : IsGap object.space
  isMember : ∀ member ∈ object.members, member.IsMember

def HasNames (object : WrittenObject) (names : List Text) : Prop :=
  List.Forall₂ (fun member name => Spells member.name name) object.members names

theorem HasNames.unique {object : WrittenObject} {names others : List Text}
    (hasNames : object.HasNames names) (hasOthers : object.HasNames others) : names = others :=
  List.right_unique_forall₂' (fun _ _ _ spells => spells.unique) hasNames hasOthers

/-- The other object has the same names, in any order, number and spelling. Its values are strings,
or values of the first object. -/
structure SameNames (object other : WrittenObject) : Prop where
  space : IsGap other.space
  gaps : ∀ member ∈ other.members, member.HasGaps
  names : ∀ names, object.HasNames names → ∃ otherNames, other.HasNames otherNames ∧
    ∀ name, name ∈ otherNames ↔ name ∈ names
  values : ∀ member ∈ other.members, (∃ text, SpellsText member.value.core text) ∨
    ∃ old ∈ object.members, member.value.core = old.value.core

theorem sameNames_self {object : WrittenObject} (isObject : object.IsObject) :
    object.SameNames object where
  space := isObject.space
  gaps member isMember := (isObject.isMember member isMember).gaps
  names names hasNames := ⟨names, hasNames, fun _ => Iff.rfl⟩
  values member isMember := Or.inr ⟨member, isMember, rfl⟩

end WrittenObject

def WrittenMember.opening (member : WrittenMember) : Text :=
  member.front ++ '"' :: (member.name ++ '"' :: (member.middle ++ ':' :: member.value.front))

def WrittenMember.withCore (member : WrittenMember) (core : Text) : WrittenMember :=
  { member with value := { member.value with core } }

def Padded.withCore (item : Padded) (core : Text) : Padded := { item with core }

section

variable {object other : WrittenObject} {depth : Nat} {pairs : List (Text × Json)}

theorem hasNames_of_reads (reads : List.Forall₂ (ReadsMember depth) object.members pairs) :
    object.HasNames (pairs.map Prod.fst) :=
  List.forall₂_map_right_iff.mpr (reads.imp fun _ _ memberReads => memberReads.name)

theorem exists_value_of_reads {members : List WrittenMember}
    (reads : List.Forall₂ (ReadsMember depth) members pairs) :
    ∀ member ∈ members, ∃ value, ReadsAs depth member.value.core value := by
  induction reads with
  | nil => simp
  | cons memberReads _ ih => exact List.forall_mem_cons.mpr ⟨⟨_, memberReads.value⟩, ih⟩

theorem exists_pairs_of_names {members : List WrittenMember} {names : List Text}
    (gaps : ∀ member ∈ members, member.HasGaps)
    (spells : List.Forall₂ (fun member name => Spells member.name name) members names)
    (values : ∀ member ∈ members, ∃ value, ReadsAs depth member.value.core value) :
    ∃ pairs, List.Forall₂ (ReadsMember depth) members pairs ∧ pairs.map Prod.fst = names := by
  induction spells with
  | nil => exact ⟨[], .nil, rfl⟩
  | @cons member name members names memberSpells _ ih =>
      rw [List.forall_mem_cons] at gaps values
      obtain ⟨value, reads⟩ := values.1
      obtain ⟨pairs, laterReads, rfl⟩ := ih gaps.2 values.2
      exact ⟨(name, value) :: pairs, .cons ⟨gaps.1, memberSpells, reads⟩ laterReads, rfl⟩

theorem exists_pairs_of_sameNames (sameNames : object.SameNames other)
    (reads : List.Forall₂ (ReadsMember depth) object.members pairs) :
    ∃ otherPairs, List.Forall₂ (ReadsMember depth) other.members otherPairs ∧
      Envelope.memberNames otherPairs = Envelope.memberNames pairs := by
  obtain ⟨otherNames, otherHasNames, same⟩ := sameNames.names _ (hasNames_of_reads reads)
  have values : ∀ member ∈ other.members, ∃ value, ReadsAs depth member.value.core value := by
    intro member isMember
    rcases sameNames.values member isMember with ⟨text, spells⟩ | ⟨old, isOld, coreEq⟩
    · exact ⟨string text, readsAs_string spells depth⟩
    · rw [coreEq]
      exact exists_value_of_reads reads old isOld
  obtain ⟨otherPairs, otherReads, rfl⟩ :=
    exists_pairs_of_names sameNames.gaps otherHasNames values
  exact ⟨otherPairs, otherReads, Text.distinctSorted_congr same⟩

end

end Json

namespace Envelope

open Json

section

variable {object other : WrittenObject} {cursor after : Cursor} {back : Text}

theorem readHeaders_object_ok (isObject : object.IsObject) {headers : List Text}
    (restEq : cursor.rest = object.text ++ back)
    (readEq : readHeaders cursor = .ok (headers, after)) :
    after.rest = back ∧ ∃ pairs, headers = memberNames pairs ∧
      List.Forall₂ (ReadsMember 125) object.members pairs := by
  obtain ⟨⟨value, final⟩, valueRead, namesEq⟩ := exists_of_bind readEq
  have anywhere : ∀ depth, ∀ member ∈ object.members, ReadsAnywhere depth member.value.core :=
    fun depth member isMember => (isObject.isMember member isMember).isValue.readsAnywhere depth
  obtain ⟨finalEq, pairs, fewer, rfl, depthEq, reads⟩ :=
    @readValueFrom_object_ok cursor final [] _ _ _ _ _ _
      (fun member isMember => (isObject.isMember member isMember).gaps)
      (fun member isMember => (isObject.isMember member isMember).isString) anywhere isObject.space
      isGap_nil restEq valueRead
  cases namesEq
  obtain rfl := Nat.succ.inj depthEq
  exact ⟨finalEq, pairs, rfl, reads⟩

theorem readsAlike_headerObject (isObject : object.IsObject)
    (sameNames : object.SameNames other) :
    ReadsAlike readHeaders object.text other.text := by
  constructor
  intro cursor after back headers restEq _ readEq
  obtain ⟨afterEq, pairs, rfl, reads⟩ := readHeaders_object_ok isObject restEq readEq
  obtain ⟨otherPairs, otherReads, namesEq⟩ := exists_pairs_of_sameNames sameNames reads
  refine ⟨afterEq, fun {place behind} placeEq _ => ?_⟩
  obtain ⟨final, valueRead, finalEq⟩ : Yields (readValue (125 + 1) place) (Json.object otherPairs)
      behind :=
    @readValue_of_steps place [] behind _ _ _ placeEq fun enough =>
      readValueFrom_object otherReads sameNames.space isGap_nil placeEq enough
  refine ⟨final, ?_, finalEq⟩
  change (readValue (125 + 1) place >>= _) = _
  rw [valueRead, ← namesEq]
  rfl

theorem head_objectText (object : WrittenObject) :
    ∃ first rest, object.text = first :: rest ∧ isSpace first = false ∧ first ≠ 'n' :=
  ⟨_, _, rfl, by decide⟩

theorem readsAlike_headersField (isObject : object.IsObject) (sameNames : object.SameNames other)
    (envelope : Envelope) :
    ReadsAlike (fun cursor => readField envelope cursor .headers) object.text other.text := by
  have alike := readsAlike_some (readsAlike_headerObject isObject sameNames)
    (head_objectText object) (head_objectText other)
  exact alike.of_bind (fun _ => rfl) fun headers => .pure _

def HasHeaders (object : WrittenObject) (envelope : Envelope) : Prop :=
  ∃ names, object.HasNames names ∧ envelope.headers = some (Text.distinctSorted names)

theorem hasHeaders_of_readField (isObject : object.IsObject) {envelope filled : Envelope}
    {gap : Text} (isGap : IsGap gap) (restEq : cursor.rest = gap ++ (object.text ++ back))
    (readEq : readField envelope cursor .headers = .ok (filled, after)) :
    HasHeaders object filled := by
  obtain ⟨⟨headers, _⟩, optionalRead, filledEq⟩ := exists_of_bind readEq
  cases filledEq
  have startEq : (skipSpace cursor).rest = object.text ++ back :=
    rest_skipSpace isGap (by decide) restEq
  have notNull : (skipSpace cursor).peek? ≠ some 'n' := by
    rw [Cursor.peek?_of_cons startEq]
    decide
  rw [readOptional, if_neg notNull] at optionalRead
  obtain ⟨⟨names, _⟩, headersRead, headersEq⟩ := exists_of_bind optionalRead
  cases headersEq
  obtain ⟨_, pairs, rfl, reads⟩ := readHeaders_object_ok isObject startEq headersRead
  exact ⟨pairs.map Prod.fst, hasNames_of_reads reads, rfl⟩

/-! The member and the item that hold the headers -/

theorem field_of_spells {name : Text} {source : Text} (isHeaders : Spells source "headers")
    (spells : Spells source name) : Field.ofName? name = some .headers := by
  rw [spells.unique isHeaders]
  rfl

theorem memberAlike_headers (isObject : object.IsObject) (sameNames : object.SameNames other)
    {member : WrittenMember} (gaps : member.HasGaps) (isHeaders : Spells member.name "headers") :
    MemberAlike (member.withCore object.text) (member.withCore other.text) where
  gaps := gaps
  otherGaps := gaps
  isString := isHeaders.isString
  sameName := rfl
  extra name spells unknown := by
    rw [field_of_spells isHeaders spells] at unknown
    contradiction
  field name field spells known envelope := by
    rw [field_of_spells isHeaders spells] at known
    cases known
    exact (readsAlike_headersField isObject sameNames envelope).skip
      (fun cursor => readField_skipSpace envelope .headers cursor) gaps.2.2.1 gaps.2.2.1
      ⟨_, _, rfl, by decide⟩ ⟨_, _, rfl, by decide⟩

theorem membersAlike_headers (isObject : object.IsObject) (sameNames : object.SameNames other)
    {member : WrittenMember} (gaps : member.HasGaps) (isHeaders : Spells member.name "headers")
    {later : List WrittenMember} (isMember : ∀ member ∈ later, member.IsMember) (back : Text)
    (first : Bool) :
    MembersAlike (HasHeaders object) first
      ((if first then [] else [',']) ++
        ((member.withCore object.text).text ++ moreMembers later back))
      ((if first then [] else [',']) ++
        ((member.withCore other.text).text ++ moreMembers later back)) := by
  have ends := @endsValue_moreMembers _ back gaps.2.2.2 later
  have alike := membersAlike_cons (memberAlike_headers isObject sameNames gaps isHeaders) first ends
    ends (membersAlike_later isMember back)
  constructor
  intro cursor after gap seen envelope final steps isGap restEq readEq
  refine ⟨?_, (alike.again isGap restEq readEq).2⟩
  obtain ⟨fewer, name, start, next, spells, startEq, outcome⟩ := readMembers_member_ok
    (memberAlike_headers isObject sameNames gaps isHeaders).gaps isHeaders.isString first isGap
    restEq readEq
  rcases outcome with ⟨unknown, _⟩ | ⟨field, filled, known, _, fieldRead, laterRead⟩
  · rw [field_of_spells isHeaders spells] at unknown
    contradiction
  · rw [field_of_spells isHeaders spells] at known
    cases known
    obtain ⟨names, hasNames, headersEq⟩ :=
      hasHeaders_of_readField isObject gaps.2.2.1 startEq fieldRead
    exact ⟨names, hasNames, (headers_of_seen List.mem_cons_self laterRead).trans headersEq⟩

theorem itemsAlike_headers (isObject : object.IsObject) (sameNames : object.SameNames other)
    {item : Padded} (gaps : item.HasGaps) {later : List Padded}
    (isItem : ∀ item ∈ later, item.IsItem) (short : later.length ≤ 1) (back : Text)
    (first : Bool) :
    ItemsAlike (HasHeaders object) [.headers, .value] first
      ((if first then [] else [',']) ++ ((item.withCore object.text).text ++ moreItems later back))
      ((if first then [] else [',']) ++
        ((item.withCore other.text).text ++ moreItems later back)) := by
  have ends := endsValue_moreItems gaps.2 later back
  have laterAlike := @itemsAlike_later later isItem [.value] short back
  have alike := @itemsAlike_cons (item.withCore object.text) (item.withCore other.text) _ _ _ _ _
    gaps gaps ⟨_, _, rfl, by decide⟩ ⟨_, _, rfl, by decide⟩
    (readsAlike_headersField isObject sameNames) first ends ends laterAlike
  constructor
  intro cursor after gap envelope final isGap restEq readEq
  refine ⟨?_, (alike.again isGap restEq readEq).2⟩
  obtain ⟨start, filled, next, startEq, fieldRead, laterRead⟩ :=
    @readItems_item_ok (item.withCore object.text) _ _ _ _ _ _ _ _ gaps ⟨_, _, rfl, by decide⟩ first
      isGap restEq readEq
  obtain ⟨names, hasNames, headersEq⟩ :=
    @hasHeaders_of_readField object start next _ isObject envelope filled [] isGap_nil startEq
      fieldRead
  exact ⟨names, hasNames, (headers_of_items (by decide) laterRead).trans headersEq⟩

end

/-- The texts in front of the value of the headers and behind it, in an envelope that is an object
or a list. -/
inductive SurroundsHeaders : Text → Text → Prop
  | object {front back : Text} {earlier later : List WrittenMember} {member : WrittenMember} :
      IsGap front → (∀ member ∈ earlier, member.IsMember) → member.HasGaps →
      Spells member.name "headers" → (∀ member ∈ later, member.IsMember) →
      SurroundsHeaders (front ++ '\x7b' :: (earlierMembers earlier ++ member.opening))
        (member.value.back ++ moreMembers later back)
  | list {front back : Text} {earlier later : List Padded} {item : Padded} :
      IsGap front → earlier.length = 4 → (∀ item ∈ earlier, item.IsItem) → item.HasGaps →
      later.length ≤ 1 → (∀ item ∈ later, item.IsItem) →
      SurroundsHeaders (front ++ '[' :: (earlierItems earlier ++ item.front))
        (item.back ++ moreItems later back)

theorem read_headerObject {object other : WrittenObject} {front back : Text} {envelope : Envelope}
    (surrounds : SurroundsHeaders front back) (isObject : object.IsObject)
    (sameNames : object.SameNames other)
    (readEq : read (front ++ (object.text ++ back)) = .ok envelope) :
    HasHeaders object envelope ∧ read (front ++ (other.text ++ back)) = .ok envelope := by
  cases surrounds with
  | @object front back earlier later member isGap areEarlier gaps isHeaders areLater =>
      have alike := membersAlike_earlier areEarlier
        (membersAlike_headers isObject sameNames gaps isHeaders areLater back) true
      have textEq (core : Text) :
          front ++ '\x7b' :: (earlierMembers earlier ++ member.opening) ++
            (core ++ (member.value.back ++ moreMembers later back)) =
          front ++ '\x7b' :: (earlierMembers earlier ++
            ((member.withCore core).text ++ moreMembers later back)) := by
        simp [WrittenMember.opening, WrittenMember.text, WrittenMember.withCore, Padded.text]
      rw [textEq] at readEq ⊢
      exact read_of_membersAlike isGap alike readEq
  | @list front back earlier later item isGap lengthEq areEarlier gaps short areLater =>
      have alike := @itemsAlike_earlier earlier areEarlier _
        [.topic, .partition, .offset, .timestamp] _ lengthEq _ _
        (itemsAlike_headers isObject sameNames gaps areLater short back) true
      have textEq (core : Text) :
          front ++ '[' :: (earlierItems earlier ++ item.front) ++
            (core ++ (item.back ++ moreItems later back)) =
          front ++ '[' :: (earlierItems earlier ++
            ((item.withCore core).text ++ moreItems later back)) := by
        simp [Padded.text, Padded.withCore]
      rw [textEq] at readEq ⊢
      exact read_of_itemsAlike isGap alike readEq

end Envelope

/-- Where the headers of an envelope are an object, those of its message are the names of that
object, each once and in ascending order. Every object with the same names gives the same
message. -/
theorem MessageReader.decode_headerObject {reader : MessageReader} (format : reader.format = .jsonl)
    {front back : Text} (surrounds : Envelope.SurroundsHeaders front back)
    {object : Json.WrittenObject} (isObject : object.IsObject) {line index : Nat}
    {message : Message}
    (decodeEq : reader.decode line index (front ++ (object.text ++ back)) = .ok message) :
    (∃ names, object.HasNames names ∧ message.headers.Pairwise (· < ·) ∧
      ∀ name, name ∈ message.headers ↔ name ∈ names) ∧
    ∀ other, object.SameNames other →
      reader.decode line index (front ++ (other.text ++ back)) = .ok message := by
  simp only [decode, format] at decodeEq ⊢
  cases readEq : Envelope.read (front ++ (object.text ++ back)) with
  | error fault =>
      rw [readEq] at decodeEq
      contradiction
  | ok envelope =>
      rw [readEq] at decodeEq
      cases decodeEq
      constructor
      · obtain ⟨⟨names, hasNames, headersEq⟩, _⟩ :=
          Envelope.read_headerObject surrounds isObject (Json.WrittenObject.sameNames_self isObject)
            readEq
        have messageEq : (Message.ofEnvelope reader.topic index envelope).headers =
            Text.distinctSorted names := by
          rw [Message.ofEnvelope, headersEq]
          rfl
        rw [messageEq]
        exact ⟨names, hasNames, Text.pairwise_distinctSorted names,
          fun name => Text.mem_distinctSorted name names⟩
      · intro other sameNames
        rw [(Envelope.read_headerObject surrounds isObject sameNames readEq).2]

def repeatedHeaders : Json.WrittenObject where
  space := []
  members := [⟨[], "b", [], ⟨[], "[]", []⟩⟩, ⟨[], "\\u0061", [], ⟨[], "null", []⟩⟩,
    ⟨[], "b", [], ⟨[], "\"x\"", []⟩⟩]

def plainHeaders : Json.WrittenObject where
  space := [' ']
  members := [⟨[], "a", [], ⟨[' '], "\"b\"", []⟩⟩, ⟨[' '], "b", [], ⟨[' '], "[]", []⟩⟩]

theorem repeatedHeaders_hasNames : repeatedHeaders.HasNames ["b", "a", "b"] := by
  have plain : Json.Spells "b" "b" := Json.spells_escaped "b"
  have digits : Json.HexDigits ['0', '0', '6', '1'] (((0 * 16 + 0) * 16 + 6) * 16 + 1) :=
    .digits rfl rfl rfl rfl
  have escaped : Json.Spells "\\u0061" "a" := @Json.Spells.code _ [] [] 'a' digits .nil
  exact .cons plain (.cons escaped (.cons plain .nil))

theorem repeatedHeaders_isObject : repeatedHeaders.IsObject where
  space := Json.isGap_nil
  isMember := by
    obtain _ | ⟨plain, _ | ⟨escaped, _⟩⟩ := repeatedHeaders_hasNames
    have noGaps : Json.IsGap [] ∧ Json.IsGap [] ∧ Json.IsGap [] ∧ Json.IsGap [] :=
      ⟨Json.isGap_nil, Json.isGap_nil, Json.isGap_nil, Json.isGap_nil⟩
    have letter : Json.Spells "x" "x" := Json.spells_escaped "x"
    simp only [repeatedHeaders, List.forall_mem_cons]
    exact ⟨⟨noGaps, plain.isString, .emptyArray Json.isGap_nil⟩,
      ⟨noGaps, escaped.isString, .name (by decide)⟩,
      ⟨noGaps, plain.isString, .string letter.isString⟩, List.forall_mem_nil _⟩

theorem repeatedHeaders_sameNames : repeatedHeaders.SameNames plainHeaders where
  space := by simp [Json.IsGap, plainHeaders, Json.isSpace]
  gaps := by
    simp [plainHeaders, Json.WrittenMember.HasGaps, Json.Padded.HasGaps, Json.IsGap, Json.isSpace]
  names names hasNames := by
    obtain rfl := repeatedHeaders_hasNames.unique hasNames
    have first : Json.Spells "a" "a" := Json.spells_escaped "a"
    have second : Json.Spells "b" "b" := Json.spells_escaped "b"
    refine ⟨["a", "b"], .cons first (.cons second .nil), fun name => ?_⟩
    simp only [List.mem_cons, List.not_mem_nil]
    tauto
  values := by
    have letter : Json.Spells "b" "b" := Json.spells_escaped "b"
    simp only [plainHeaders, List.forall_mem_cons]
    exact ⟨Or.inl ⟨"b", "b", rfl, letter⟩, Or.inr ⟨_, List.mem_cons_self, rfl⟩,
      List.forall_mem_nil _⟩

theorem MessageReader.decode_headerObject_repeatedNames :
    let reader : MessageReader := ⟨.jsonl, "t"⟩
    let message : Message := ⟨"t", 0, 0, none, ["a", "b"], some "v"⟩
    reader.decode 1 0 ("\x7b\"value\":\"v\",\"headers\":" ++ (repeatedHeaders.text ++ "\x7d")) =
        .ok message ∧
      reader.decode 1 0 ("\x7b\"value\":\"v\",\"headers\":" ++ (plainHeaders.text ++ "\x7d")) =
        .ok message := by
  have noGaps : Json.IsGap [] ∧ Json.IsGap [] ∧ Json.IsGap [] ∧ Json.IsGap [] :=
    ⟨Json.isGap_nil, Json.isGap_nil, Json.isGap_nil, Json.isGap_nil⟩
  have isValue : Json.WrittenMember.IsMember ⟨[], "value", [], ⟨[], "\"v\"", []⟩⟩ :=
    ⟨noGaps, (Json.spells_escaped "value").isString, .string (Json.spells_escaped "v").isString⟩
  have surrounds : Envelope.SurroundsHeaders "\x7b\"value\":\"v\",\"headers\":" "\x7d" :=
    @Envelope.SurroundsHeaders.object [] [] _ [] ⟨[], "headers", [], ⟨[], [], []⟩⟩ Json.isGap_nil
      (List.forall_mem_singleton.mpr isValue) noGaps (Json.spells_escaped "headers")
      (List.forall_mem_nil _)
  have decodeEq : (⟨.jsonl, "t"⟩ : MessageReader).decode 1 0
      ("\x7b\"value\":\"v\",\"headers\":" ++ (repeatedHeaders.text ++ "\x7d")) =
        .ok ⟨"t", 0, 0, none, ["a", "b"], some "v"⟩ := rfl
  exact ⟨decodeEq, (decode_headerObject rfl surrounds repeatedHeaders_isObject decodeEq).2
    plainHeaders repeatedHeaders_sameNames⟩

end TopicSieve
