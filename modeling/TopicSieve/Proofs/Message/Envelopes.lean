import TopicSieve.Message.Reader
import TopicSieve.Proofs.Instant.Written
import TopicSieve.Proofs.Json.Reading

/-!
Messages written as JSON objects, with their members in any order and spelling, among members with
other names. Main statement: such an object is read as an envelope of the message that it is written
for.
-/

namespace TopicSieve

structure Message.InRange (message : Message) : Prop where
  partition : -(twoTo 31 : Int) ≤ message.partition ∧ message.partition < twoTo 31
  offset : -(twoTo 63 : Int) ≤ message.offset ∧ message.offset < twoTo 63
  year : ∀ instant, message.timestamp = some instant →
    0 ≤ instant.date.year ∧ instant.date.year ≤ 9999

namespace Envelope

open Json

section

variable (message : Message) (topic : Text) (index : Nat)

/-- What the message holds where its object has no member for a field, or has null there. -/
def Field.IsDefault : Field → Prop
  | .topic => message.topic = topic
  | .partition => message.partition = 0
  | .offset => message.offset = index
  | .timestamp => message.timestamp = none
  | .headers => message.headers = []
  | .value => message.value = none

/-- `Field.Writes message topic index field source`: a value that stands for what the message holds in
the field. -/
inductive Field.Writes : Field → Text → Prop
  | topic {source} : SpellsText source message.topic → Writes .topic source
  | partition : Writes .partition (Text.ofInt message.partition)
  | offset : Writes .offset (Text.ofInt message.offset)
  | timestamp {source text instant} : message.timestamp = some instant →
      Instant.Denotes text instant → SpellsText source text → Writes .timestamp source
  | headers {source} : SpellsList source message.headers → Writes .headers source
  | value {source text} : message.value = some text → SpellsText source text →
      Writes .value source
  | null {field : Field} : field ≠ .partition → field.IsDefault message topic index →
      Writes field "null"

inductive WritesMembers : List WrittenMember → List Field → Prop
  | nil : WritesMembers [] []
  | field {member : WrittenMember} {members fields} {field : Field} : member.HasGaps →
      Spells member.name field.name → field.Writes message topic index member.value.core →
      field ∉ fields → WritesMembers members fields →
      WritesMembers (member :: members) (field :: fields)
  | extra {member : WrittenMember} {members fields name} : member.HasGaps →
      Spells member.name name → (∀ field : Field, field.name ≠ name) →
      IsValue member.value.core → WritesMembers members fields →
      WritesMembers (member :: members) fields

inductive WritesInside : Text → List Field → Prop
  | none {gap} : IsGap gap → WritesInside gap []
  | members {members : List WrittenMember} {fields} : members ≠ [] →
      WritesMembers message topic index members fields →
      WritesInside (Text.join [','] (members.map WrittenMember.text)) fields

/-- An object that is written for a message. Fields that it has no member for are those that the
message holds the defaults of. -/
inductive WritesObject : Text → Prop
  | object {front inside back fields} : IsGap front → IsGap back →
      WritesInside message topic index inside fields →
      (∀ field : Field, field ∉ fields → field.IsDefault message topic index) →
      WritesObject (front ++ '\x7b' :: (inside ++ '\x7d' :: back))

def Field.Agrees (envelope : Envelope) : Field → Prop
  | .topic => envelope.topic.getD topic = message.topic
  | .partition => envelope.partition = message.partition
  | .offset => envelope.offset.getD index = message.offset
  | .timestamp => envelope.timestamp = message.timestamp
  | .headers => envelope.headers.getD [] = message.headers
  | .value => envelope.value = message.value

theorem Field.agrees_empty (field : Field) :
    field.Agrees message topic index empty ↔ field.IsDefault message topic index := by
  cases field <;> exact eq_comm

theorem ofEnvelope_of_agrees {envelope : Envelope}
    (agrees : ∀ field : Field, field.Agrees message topic index envelope) :
    Message.ofEnvelope topic index envelope = message := by
  have topicEq := agrees .topic
  have partitionEq := agrees .partition
  have offsetEq := agrees .offset
  have timestampEq := agrees .timestamp
  have headersEq := agrees .headers
  have valueEq := agrees .value
  simp only [Field.Agrees] at topicEq partitionEq offsetEq timestampEq headersEq valueEq
  simp only [Message.ofEnvelope, topicEq, partitionEq, offsetEq, timestampEq, headersEq, valueEq]

end

section

variable {cursor : Cursor} {gap source back : Text}

/-! The values of the fields -/

theorem readOptional_null {α : Type} (read : Cursor → Except Stop (α × Cursor)) (isGap : IsGap gap)
    (restEq : cursor.rest = gap ++ ("null" ++ back)) :
    Yields (readOptional read cursor) none back := by
  have letterEq : cursor.rest = gap ++ 'n' :: (("ull" : Text) ++ back) := restEq
  have startEq := rest_skipSpace isGap (by decide) letterEq
  obtain ⟨after, passed, afterEq⟩ := expectName_letters (Cursor.rest_drop_one startEq)
  refine ⟨after, ?_, afterEq⟩
  simp only [readOptional, Cursor.peek?_of_cons startEq, if_true, passed]
  rfl

theorem readOptional_some {α : Type} {read : Cursor → Except Stop (α × Cursor)} {value : α}
    (isGap : IsGap gap) (restEq : cursor.rest = gap ++ (source ++ back))
    (starts : ∃ first rest, source = first :: rest ∧ isSpace first = false ∧ first ≠ 'n')
    (reads : ∀ {cursor : Cursor}, cursor.rest = source ++ back → Yields (read cursor) value back) :
    Yields (readOptional read cursor) (some value) back := by
  obtain ⟨first, rest, rfl, notSpace, notNull⟩ := starts
  have startEq := rest_skipSpace isGap notSpace restEq
  obtain ⟨after, readEq, afterEq⟩ := reads startEq
  refine ⟨after, ?_, afterEq⟩
  have notName : (skipSpace cursor).peek? ≠ some 'n' := by
    rw [Cursor.peek?_of_cons startEq]
    exact fun isName => notNull (Option.some.inj isName)
  simp only [readOptional, if_neg notName, readEq]
  rfl

theorem readText_spelled {text : Text} (expected : Text) (spells : SpellsText source text)
    (restEq : cursor.rest = source ++ back) : Yields (readText expected cursor) text back := by
  obtain ⟨body, rfl, spelled⟩ := spells
  have quoteEq : cursor.rest = [] ++ '"' :: (body ++ '"' :: back) := by
    rw [restEq]
    simp
  have startEq := rest_skipSpace isGap_nil (by decide) quoteEq
  obtain ⟨after, readEq, afterEq⟩ := readString_spelled spelled (Cursor.rest_drop_one startEq)
  refine ⟨after, ?_, afterEq⟩
  simp only [readText, Cursor.peek?_of_cons startEq, if_true, readEq]

theorem readInteger_ofInt {bits : Nat} {value : Int} (expected : Text) (isGap : IsGap gap)
    (narrow : twoTo (bits - 1) ≤ twoTo 63)
    (low : -(twoTo (bits - 1) : Int) ≤ value) (high : value < twoTo (bits - 1))
    (ends : EndsValue back) (restEq : cursor.rest = gap ++ (Text.ofInt value ++ back)) :
    Yields (readInteger bits expected cursor) value back := by
  have halfEq : (twoTo 63 : Int) = 9223372036854775808 := rfl
  have wholeEq : (twoTo 64 : Int) = 18446744073709551616 := rfl
  obtain ⟨first, rest, firstEq, starts⟩ := head_ofInt value
  have startEq : (skipSpace cursor).rest = Text.ofInt value ++ back := by
    rw [firstEq] at restEq ⊢
    exact rest_skipSpace isGap (isSpace_numberStart starts) restEq
  obtain ⟨after, readEq, afterEq⟩ := readNumber_ofInt (by omega) (by omega) ends startEq
  have isNumber : ((skipSpace cursor).peek?.any fun char => char == '-' || Text.isDigit char) =
      true := by
    rw [Cursor.peek?, startEq, firstEq]
    simpa using starts
  refine ⟨after, ?_, afterEq⟩
  simp only [readInteger, isNumber, Bool.not_true, Bool.false_eq_true, if_false, readEq, bind,
    Except.bind, if_pos (And.intro low high)]

theorem readTime_denotes {text : Text} {instant : Instant} (denotes : Instant.Denotes text instant)
    (represented : Instant.isRepresented instant.date.year = true)
    (spells : SpellsText source text) (restEq : cursor.rest = source ++ back) :
    Yields (readTime cursor) instant back := by
  obtain ⟨after, readEq, afterEq⟩ :=
    readText_spelled "an RFC 3339 formatted date and time string" spells restEq
  refine ⟨after, ?_, afterEq⟩
  simp only [readTime, bind, Except.bind, readEq,
    Instant.readLenient_of_denotes denotes represented]

theorem headerNames?_strings (names : List Text) :
    headerNames? (array (names.map string)) = some names := by
  have itemsEq : (names.map string).mapM string? = some names := by
    induction names with
    | nil => rfl
    | cons name names ih => simp [List.mapM_cons, string?, ih]
  exact itemsEq

theorem readHeaders_spelled {names : List Text} (spells : SpellsList source names)
    (restEq : cursor.rest = source ++ back) : Yields (readHeaders cursor) names back := by
  obtain ⟨after, readEq, afterEq⟩ :=
    @readValue_strings cursor [] _ _ _ spells 125 isGap_nil restEq
  refine ⟨after, ?_, afterEq⟩
  change (readValue (125 + 1) cursor >>= _) = _
  rw [readEq]
  simp only [bind, Except.bind, headerNames?_strings]

end

section

variable {message : Message} {topic : Text} {index : Nat} {cursor : Cursor}
  {gap source back : Text} {envelope : Envelope}

theorem readField_others {field : Field} {filled : Envelope} {after : Cursor}
    (readEq : readField envelope cursor field = .ok (filled, after)) {other : Field}
    (different : other ≠ field) :
    other.Agrees message topic index filled ↔ other.Agrees message topic index envelope := by
  cases field
  all_goals
    obtain ⟨_, _, changed⟩ := exists_of_bind readEq
    cases changed
    cases other <;> first | contradiction | exact Iff.rfl

theorem yields_change {α : Type} {outcome : Except Stop (α × Cursor)} {value : α}
    (yields : Yields outcome value back) (change : α → Envelope) :
    Yields (do let (value, after) ← outcome; .ok (change value, after)) (change value) back := by
  obtain ⟨after, rfl, afterEq⟩ := yields
  exact ⟨after, rfl, afterEq⟩

theorem readField_writes (inRange : message.InRange) (envelope : Envelope) {field : Field}
    (writes : field.Writes message topic index source) (isGap : IsGap gap)
    (restEq : cursor.rest = gap ++ (source ++ back)) (ends : EndsValue back) :
    ∃ filled, Yields (readField envelope cursor field) filled back ∧
      field.Agrees message topic index filled := by
  cases writes with
  | topic spells =>
      have yields := readOptional_some isGap restEq spells.head (readText_spelled "a string" spells)
      exact ⟨_, yields_change yields fun topic => { envelope with topic }, rfl⟩
  | partition =>
      have yields := @readInteger_ofInt cursor gap back 32 _ "i32" isGap (by decide)
        inRange.partition.1 inRange.partition.2 ends restEq
      exact ⟨_, yields_change yields fun partition => { envelope with partition }, rfl⟩
  | offset =>
      obtain ⟨first, rest, firstEq, starts⟩ := head_ofInt message.offset
      have notNull : first ≠ 'n' := by
        rintro rfl
        exact absurd starts (by decide)
      have yields := readOptional_some isGap restEq
        ⟨first, rest, firstEq, isSpace_numberStart starts, notNull⟩ fun integerEq =>
          @readInteger_ofInt _ [] back 64 _ "i64" isGap_nil (by decide)
            inRange.offset.1 inRange.offset.2 ends integerEq
      exact ⟨_, yields_change yields fun offset => { envelope with offset }, rfl⟩
  | @timestamp source text instant timestampEq denotes spells =>
      have yearBounds := inRange.year instant timestampEq
      have represented := @Instant.isRepresented_of_bounds instant.date.year (by omega)
      have yields := readOptional_some isGap restEq spells.head
        (readTime_denotes denotes represented spells)
      exact ⟨_, yields_change yields fun timestamp => { envelope with timestamp }, timestampEq.symm⟩
  | headers spells =>
      have yields := readOptional_some isGap restEq spells.head (readHeaders_spelled spells)
      exact ⟨_, yields_change yields fun headers => { envelope with headers }, rfl⟩
  | value valueEq spells =>
      have yields := readOptional_some isGap restEq spells.head (readText_spelled "a string" spells)
      exact ⟨_, yields_change yields fun value => { envelope with value }, valueEq.symm⟩
  | null notNumber isDefault =>
      cases field with
      | partition => contradiction
      | topic =>
          have yields := readOptional_null (readText "a string") isGap restEq
          exact ⟨_, yields_change yields fun topic => { envelope with topic }, isDefault.symm⟩
      | offset =>
          have yields := readOptional_null (readInteger 64 "i64") isGap restEq
          exact ⟨_, yields_change yields fun offset => { envelope with offset }, isDefault.symm⟩
      | timestamp =>
          have yields := readOptional_null readTime isGap restEq
          exact ⟨_, yields_change yields fun timestamp => { envelope with timestamp }, isDefault.symm⟩
      | headers =>
          have yields := readOptional_null readHeaders isGap restEq
          exact ⟨_, yields_change yields fun headers => { envelope with headers }, isDefault.symm⟩
      | value =>
          have yields := readOptional_null (readText "a string") isGap restEq
          exact ⟨_, yields_change yields fun value => { envelope with value }, isDefault.symm⟩

/-! The members of an object -/

theorem Field.ofName?_name (field : Field) : Field.ofName? field.name = some field := by
  cases field <;> rfl

theorem Field.ofName?_eq_none {name : Text} (differs : ∀ field : Field, field.name ≠ name) :
    Field.ofName? name = none := by
  rw [Field.ofName?, List.find?_eq_none]
  intro field _ same
  exact differs field (beq_iff_eq.mp same)

section

variable {first : Bool} {start afterName afterColon afterValue : Cursor} {name : Text}
  {seen : List Field}

theorem readMembers_of_field {field : Field} {filled : Envelope}
    (nextEq : nextMember first cursor = .ok (true, start))
    (nameEq : readString start = .ok (name, afterName)) (known : Field.ofName? name = some field)
    (fresh : field ∉ seen) (colonEq : expectColon afterName = .ok afterColon)
    (readEq : readField envelope afterColon field = .ok (filled, afterValue)) (steps : Nat) :
    readMembers (steps + 1) seen first envelope cursor =
      readMembers steps (field :: seen) false filled afterValue := by
  have notSeen : seen.contains field = false := by simpa using fresh
  rw [readMembers]
  simp only [bind, Except.bind, nextEq, Bool.not_true, Bool.false_eq_true, if_false, nameEq,
    known, notSeen, colonEq, readEq]

theorem readMembers_of_extra (nextEq : nextMember first cursor = .ok (true, start))
    (nameEq : readString start = .ok (name, afterName)) (unknown : Field.ofName? name = none)
    (colonEq : expectColon afterName = .ok afterColon)
    (skipEq : skipValue afterColon = .ok afterValue) (steps : Nat) :
    readMembers (steps + 1) seen first envelope cursor =
      readMembers steps seen false envelope afterValue := by
  rw [readMembers]
  simp only [bind, Except.bind, nextEq, Bool.not_true, Bool.false_eq_true, if_false, nameEq,
    unknown, colonEq, skipEq]

end

theorem readMembers_end (isGap : IsGap gap) (first : Bool) (steps : Nat) (seen : List Field)
    (restEq : cursor.rest = gap ++ '\x7d' :: back) :
    Yields (readMembers (steps + 1) seen first envelope cursor) envelope ('\x7d' :: back) := by
  obtain ⟨after, nextEq, afterEq⟩ := nextMember_end isGap first restEq
  refine ⟨after, ?_, afterEq⟩
  rw [readMembers]
  simp only [bind, Except.bind, nextEq, Bool.not_false, if_true]

/-- Wherever members are left that are written for a message, they are read up to the end of the
object, and the envelope then says what the message holds. Fields that are left have not been read
yet, and about the others the envelope says so already. -/
def ReadsMembers (message : Message) (topic : Text) (index : Nat) (members : List WrittenMember)
    (fields : List Field) (back : Text) : Prop :=
  ∀ {cursor : Cursor} {gap : Text} {seen : List Field} {envelope : Envelope} {steps : Nat},
    IsGap gap → cursor.rest = gap ++ moreMembers members back → (∀ field ∈ fields, field ∉ seen) →
    (∀ field : Field, field ∉ fields → field.Agrees message topic index envelope) →
    members.length < steps →
    ∃ final, Yields (readMembers steps seen false envelope cursor) final ('\x7d' :: back) ∧
      ∀ field : Field, field.Agrees message topic index final

theorem readMembers_step (inRange : message.InRange) (first : Bool) {member : WrittenMember}
    {members : List WrittenMember} {fields seen : List Field} {steps : Nat}
    (writes : WritesMembers message topic index (member :: members) fields)
    (restReads : ∀ {fewer : List Field}, WritesMembers message topic index members fewer →
      ReadsMembers message topic index members fewer back)
    (isGap : IsGap gap) (restEq : cursor.rest =
      gap ++ ((if first then [] else [',']) ++ (member.text ++ moreMembers members back)))
    (fresh : ∀ field ∈ fields, field ∉ seen)
    (agrees : ∀ field : Field, field ∉ fields → field.Agrees message topic index envelope)
    (enough : members.length < steps) :
    ∃ final, Yields (readMembers (steps + 1) seen first envelope cursor) final ('\x7d' :: back) ∧
      ∀ field : Field, field.Agrees message topic index final := by
  cases writes with
  | @field _ _ fewer field gaps spells writesField notLater writesRest =>
      obtain ⟨start, afterName, afterColon, nextEq, nameEq, colonEq, valueEq⟩ :=
        readName_member gaps spells first isGap restEq
      have ends := @endsValue_moreMembers _ back gaps.2.2.2 members
      obtain ⟨filled, ⟨afterValue, readEq, afterValueEq⟩, fieldAgrees⟩ :=
        readField_writes inRange envelope writesField gaps.2.2.1 valueEq ends
      have freshLater : ∀ other ∈ fewer, other ∉ field :: seen := by
        intro other member inSeen
        rcases List.mem_cons.mp inSeen with rfl | inSeen
        · exact notLater member
        · exact fresh other (List.mem_cons_of_mem field member) inSeen
      have agreesLater : ∀ other : Field, other ∉ fewer →
          other.Agrees message topic index filled := by
        intro other absent
        by_cases same : other = field
        · rw [same]
          exact fieldAgrees
        · exact (readField_others readEq same).mpr (agrees other (by simp [same, absent]))
      obtain ⟨final, ⟨after, restRead, afterEq⟩, finalAgrees⟩ :=
        restReads writesRest gaps.2.2.2 afterValueEq freshLater agreesLater enough
      refine ⟨final, ⟨after, ?_, afterEq⟩, finalAgrees⟩
      rw [readMembers_of_field nextEq nameEq field.ofName?_name (fresh field List.mem_cons_self)
        colonEq readEq, restRead]
  | extra gaps spells differs isValue writesRest =>
      obtain ⟨start, afterName, afterColon, nextEq, nameEq, colonEq, valueEq⟩ :=
        readName_member gaps spells first isGap restEq
      have ends := @endsValue_moreMembers _ back gaps.2.2.2 members
      obtain ⟨afterValue, skipEq, afterValueEq⟩ := skipValue_value isValue gaps.2.2.1 valueEq ends
      obtain ⟨final, ⟨after, restRead, afterEq⟩, finalAgrees⟩ :=
        restReads writesRest gaps.2.2.2 afterValueEq fresh agrees enough
      refine ⟨final, ⟨after, ?_, afterEq⟩, finalAgrees⟩
      rw [readMembers_of_extra nextEq nameEq (Field.ofName?_eq_none differs) colonEq skipEq,
        restRead]

theorem readMembers_writes (inRange : message.InRange) {members : List WrittenMember}
    {fields : List Field} (writes : WritesMembers message topic index members fields) :
    ReadsMembers message topic index members fields back := by
  induction members generalizing fields with
  | nil =>
      intro cursor gap seen envelope steps isGap restEq _ agrees enough
      cases writes
      obtain ⟨steps, rfl⟩ := Nat.exists_eq_succ_of_ne_zero (by omega : steps ≠ 0)
      exact ⟨envelope, readMembers_end isGap false steps seen restEq,
        fun field => agrees field List.not_mem_nil⟩
  | cons member members ih =>
      intro cursor gap seen envelope steps isGap restEq fresh agrees enough
      obtain ⟨steps, rfl⟩ := Nat.exists_eq_succ_of_ne_zero (by omega : steps ≠ 0)
      rw [List.length_cons] at enough
      have commaEq : cursor.rest =
          gap ++ ([','] ++ (member.text ++ moreMembers members back)) := by
        simpa [moreMembers] using restEq
      exact readMembers_step inRange false writes ih isGap commaEq fresh agrees (by omega)

/-! The whole object -/

theorem readMembers_inside (inRange : message.InRange) {inside : Text} {fields : List Field}
    (writes : WritesInside message topic index inside fields)
    (isDefault : ∀ field : Field, field ∉ fields → field.IsDefault message topic index)
    (restEq : cursor.rest = inside ++ '\x7d' :: back) :
    ∃ final, Yields (readMembers (cursor.rest.length + 1) [] true empty cursor) final
        ('\x7d' :: back) ∧
      ∀ field : Field, field.Agrees message topic index final := by
  have agrees (field : Field) (absent : field ∉ fields) :
      field.Agrees message topic index empty :=
    (field.agrees_empty message topic index).mpr (isDefault field absent)
  cases writes with
  | none isGap =>
      exact ⟨empty, readMembers_end isGap true cursor.rest.length [] restEq,
        fun field => agrees field List.not_mem_nil⟩
  | @members members _ nonempty writes =>
      obtain ⟨member, members, rfl⟩ := List.exists_cons_of_ne_nil nonempty
      have memberEq : cursor.rest = [] ++ ([] ++ (member.text ++ moreMembers members back)) := by
        rw [restEq, List.map_cons, Text.join_cons]
        simp [moreMembers]
      have long : members.length < cursor.rest.length := by
        have bound := Text.length_le_flatMap ',' (members.map WrittenMember.text)
        rw [List.length_map] at bound
        rw [memberEq]
        simp only [moreMembers, List.length_append, List.length_cons]
        omega
      exact readMembers_step inRange true writes (readMembers_writes inRange) isGap_nil
        memberEq (by simp) agrees long

/-- An object that is written for a message is read as an envelope of that message. -/
theorem read_writes (inRange : message.InRange) {object : Text}
    (writes : WritesObject message topic index object) :
    ∃ envelope, read object = .ok envelope ∧ Message.ofEnvelope topic index envelope = message := by
  obtain ⟨frontGap, backGap, writesInside, isDefault⟩ := writes
  next front inside back fields =>
    have startEq : (Cursor.start (front ++ '\x7b' :: (inside ++ '\x7d' :: back))).rest =
        front ++ '\x7b' :: (inside ++ '\x7d' :: back) := rfl
    have openEq := rest_skipSpace frontGap (by decide) startEq
    obtain ⟨envelope, ⟨after, membersEq, afterEq⟩, agrees⟩ :=
      readMembers_inside inRange writesInside isDefault (Cursor.rest_drop_one openEq)
    have objectEq : readObject ((skipSpace (Cursor.start
        (front ++ '\x7b' :: (inside ++ '\x7d' :: back)))).drop 1) =
          .ok (envelope, after.drop 1) := by
      simp only [readObject, membersEq, placeFault, bind, Except.bind]
    have endEq : (skipSpace (after.drop 1)).rest = [] := by
      refine @Cursor.rest_dropWhile_of_run _ back [] _ ?_ backGap ?_
      · rw [Cursor.rest_drop_one afterEq, List.append_nil]
      · intro next isNext
        contradiction
    refine ⟨envelope, ?_, ofEnvelope_of_agrees message topic index agrees⟩
    simp only [read, readWhole, Cursor.peek?_of_cons openEq, bind, Except.bind, objectEq, endEq]
    rfl

end

end Envelope

end TopicSieve
