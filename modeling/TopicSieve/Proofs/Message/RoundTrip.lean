import TopicSieve.Proofs.Json.Printing
import TopicSieve.Proofs.Message.Envelopes
import TopicSieve.Proofs.Message.PlainLines

/-!
Messages written as objects on lines of an input. Main statement: on a line of its own, an object
that is written for a message gives that message, whatever stands on the lines around it.
-/

namespace TopicSieve

open MessageReader Envelope

variable {reader : MessageReader} {message : Message} {index : Nat}

theorem Envelope.WritesObject.body {topic object : Text}
    (writes : WritesObject message topic index object) :
    ∃ body ends, object = body ++ ends ∧ (∀ char ∈ ends, char = '\r' ∨ char = '\n') ∧
      (∀ last ∈ body.getLast?, last ≠ '\r' ∧ last ≠ '\n') ∧
      (∃ char ∈ body, Text.isBlank char = false) ∧ WritesObject message topic index body := by
  obtain ⟨frontGap, backGap, writesInside, isDefault⟩ := writes
  next front inside back fields =>
    obtain ⟨ends, backEq, areEnds, lastNot⟩ := Text.dropEndWhile_split isLineEnd back
    let shorter := Text.dropEndWhile isLineEnd back
    have shorterGap : Json.IsGap shorter := by
      intro char member
      refine backGap char ?_
      rw [backEq]
      exact List.mem_append_left ends member
    refine ⟨front ++ '\x7b' :: (inside ++ '\x7d' :: shorter), ends, ?_, ?_, ?_,
      ⟨'\x7b', by simp, by decide⟩, .object frontGap shorterGap writesInside isDefault⟩
    · rw [backEq]
      simp [shorter]
    · intro char member
      simpa [isLineEnd] using areEnds char member
    · intro last isLast
      have lastEq : (front ++ '\x7b' :: (inside ++ '\x7d' :: shorter)).getLast? =
          ('\x7d' :: shorter).getLast? := by
        rw [List.getLast?_append_of_ne_nil _ (by simp), ← List.cons_append,
          List.getLast?_append_of_ne_nil _ (by simp)]
      rw [lastEq] at isLast
      cases shorterEq : shorter.getLast? with
      | none =>
          rw [List.getLast?_cons, shorterEq] at isLast
          cases isLast
          decide
      | some final =>
          rw [List.getLast?_cons, shorterEq] at isLast
          cases isLast
          simpa [isLineEnd] using lastNot final shorterEq

theorem MessageReader.LineItems.eq_message (format : reader.format = .jsonl)
    (inRange : message.InRange) {earlier : List Bytes} {object ending : Text}
    (isEnd : ∀ char ∈ ending, char = '\r' ∨ char = '\n')
    (writes : WritesObject message reader.topic (earlier.countP (HoldsRecord ·)) object)
    {own : List Item}
    (lineItems : LineItems reader earlier (Utf8.encode (object ++ ending)) own) :
    own = [.ok message] := by
  obtain ⟨body, ends, rfl, areEnds, lastNot, ⟨visible, member, notBlank⟩, writesBody⟩ := writes.body
  have holds : HoldsBody (Utf8.encode (body ++ ends ++ ending)) body := by
    refine ⟨ends ++ ending, by rw [List.append_assoc], ?_, lastNot⟩
    intro char member
    rcases List.mem_append.mp member with inEnds | inEnding
    · exact areEnds char inEnds
    · exact isEnd char inEnding
  cases lineItems with
  | notText notText => exact absurd ⟨_, rfl⟩ notText
  | @blank text encoded allBlank =>
      have blank := allBlank visible (by rw [Utf8.encode_injective encoded]; simp [member])
      rw [notBlank] at blank
      contradiction
  | @record other _ _ _ encoded otherEnds otherLast decoded =>
      obtain rfl := HoldsBody.unique holds ⟨_, encoded, otherEnds, otherLast⟩
      obtain ⟨envelope, readEq, messageEq⟩ := read_writes inRange writesBody
      cases decoded with
      | body plain =>
          rw [format] at plain
          contradiction
      | envelope _ otherEq =>
          rw [readEq] at otherEq
          cases otherEq
          rw [← messageEq]
          rfl
      | invalid _ otherEq =>
          rw [readEq] at otherEq
          contradiction

/-! Objects that are printed -/

namespace Envelope

open Json

def Field.json (message : Message) : Field → Json
  | .topic => .string message.topic
  | .partition => .number (.integer message.partition)
  | .offset => .number (.integer message.offset)
  | .timestamp => message.timestamp.elim .null fun instant => .string instant.text
  | .headers => .array (message.headers.map .string)
  | .value => message.value.elim .null .string

def objectOf (message : Message) (fields : List Field) : Json :=
  .object (fields.map fun field => (field.name, field.json message))

variable {message : Message} {topic : Text} {index : Nat}

theorem compact_objectOf (message : Message) (fields : List Field) :
    compact (objectOf message fields) = '\x7b' :: (Text.join [',']
      ((fields.map fun field => printedMember field.name (field.json message)).map
        WrittenMember.text) ++ ['\x7d']) := by
  simp only [objectOf, compact_object, List.map_map]
  rfl

theorem writes_json (inRange : message.InRange)
    (noLeap : ∀ instant, message.timestamp = some instant →
      instant.nanos < Instant.nanosPerSecond) (field : Field) :
    field.Writes message topic index (render compactLayout 1 (field.json message)) := by
  cases field with
  | topic => exact .topic (spellsText_stringText message.topic)
  | partition => exact .partition
  | offset => exact .offset
  | timestamp =>
      cases timestampEq : message.timestamp with
      | none =>
          simp only [Field.json, timestampEq, Option.elim_none, render]
          exact .null (by decide) timestampEq
      | some instant =>
          simp only [Field.json, timestampEq, Option.elim_some, render]
          exact .timestamp timestampEq (Instant.denotes_text (noLeap instant timestampEq)
            (inRange.year instant timestampEq)) (spellsText_stringText _)
  | headers => exact .headers (spellsList_render 1 message.headers)
  | value =>
      cases valueEq : message.value with
      | none =>
          simp only [Field.json, valueEq, Option.elim_none, render]
          exact .null (by decide) valueEq
      | some text =>
          simp only [Field.json, valueEq, Option.elim_some, render]
          exact .value valueEq (spellsText_stringText text)

/-- Whatever a message holds, an object that is printed for it with any of its fields, in any order,
is written for it on one line, if it holds the defaults of the other fields. -/
theorem writesObject_compact (inRange : message.InRange)
    (noLeap : ∀ instant, message.timestamp = some instant →
      instant.nanos < Instant.nanosPerSecond) {fields : List Field} (once : fields.Nodup)
    (isDefault : ∀ field : Field, field ∉ fields → field.IsDefault message topic index) :
    WritesObject message topic index (compact (objectOf message fields)) := by
  have membersWritten : WritesMembers message topic index
      (fields.map fun field => printedMember field.name (field.json message)) fields := by
    clear isDefault
    induction fields with
    | nil => exact .nil
    | cons field fields ih =>
        rw [List.nodup_cons] at once
        exact .field ⟨isGap_nil, isGap_nil, isGap_nil, isGap_nil⟩ (spells_escaped field.name)
          (writes_json inRange noLeap field) once.1 (ih once.2)
  rw [compact_objectOf]
  refine @WritesObject.object _ _ _ [] _ [] fields isGap_nil isGap_nil ?_ isDefault
  cases fields with
  | nil => exact .none isGap_nil
  | cons field fields => exact .members (List.cons_ne_nil _ _) membersWritten

theorem feed_not_mem_json (message : Message) (field : Field) :
    '\n' ∉ render compactLayout 1 (field.json message) := by
  have natural (number : Nat) : '\n' ∉ Text.ofNat number := fun member =>
    absurd (Text.isDigit_ofNat member) (by decide)
  have integer (value : Int) : '\n' ∉ Text.ofInt value := by
    cases value with
    | ofNat number => exact natural number
    | negSucc number => simp [Text.ofInt, natural (number + 1)]
  cases field with
  | topic => exact feed_not_mem_stringText message.topic
  | partition => exact integer message.partition
  | offset => exact integer message.offset
  | timestamp =>
      rw [Field.json]
      cases message.timestamp with
      | none => decide
      | some instant => exact feed_not_mem_stringText instant.text
  | headers =>
      rw [Field.json, render_strings]
      have absent : '\n' ∉ Text.join [','] (message.headers.map stringText) :=
        feed_not_mem_join (by simpa using fun name _ => feed_not_mem_stringText name)
      simp [absent]
  | value =>
      rw [Field.json]
      cases message.value with
      | none => decide
      | some text => exact feed_not_mem_stringText text

theorem feed_not_mem_compact (message : Message) (fields : List Field) :
    '\n' ∉ compact (objectOf message fields) := by
  have members : '\n' ∉ Text.join [',']
      ((fields.map fun field => printedMember field.name (field.json message)).map
        WrittenMember.text) := by
    refine feed_not_mem_join ?_
    simp only [List.map_map, List.mem_map, forall_exists_index, and_imp,
      forall_apply_eq_imp_iff₂, Function.comp_apply]
    intro field _
    simp [printedMember, WrittenMember.text, Padded.text, feed_not_mem_json message field,
      (spells_escaped field.name).isString.feed_not_mem]
  rw [compact_objectOf, List.mem_cons, List.mem_append, List.mem_singleton]
  rintro (isOpening | inMembers | isClosing)
  · exact absurd isOpening (by decide)
  · exact members inMembers
  · exact absurd isClosing (by decide)

end Envelope

/-! Objects in an input -/

/-- On a line of its own, an object that is written for a message gives that message. The number of
records on the lines before it stands in for an offset that the object leaves out. -/
theorem items_object (format : reader.format = .jsonl) (inRange : message.InRange)
    {before after : Bytes} (starts : before = [] ∨ before.getLast? = some 0x0A)
    (ends : after = [] ∨ after.head? = some 0x0A) {object : Text} (oneLine : '\n' ∉ object)
    (writes : WritesObject message reader.topic (before.lines.countP (HoldsRecord ·)) object) :
    ∃ later, reader.items (before ++ (Utf8.encode object ++ after)) =
      reader.items before ++ .ok message :: later := by
  have absent : 0x0A ∉ Utf8.encode object := fun feed => oneLine (Utf8.feed_mem_encode feed)
  obtain ⟨ending, more, isEnd, linesEq⟩ : ∃ ending more,
      (∀ char ∈ ending, char = '\r' ∨ char = '\n') ∧
        Bytes.lines (Utf8.encode object ++ after) = Utf8.encode (object ++ ending) :: more := by
    cases after with
    | nil =>
        refine ⟨[], [], by simp, ?_⟩
        rw [List.append_nil, List.append_nil]
        refine Bytes.lines_of_not_mem (fun isNil => ?_) absent
        have objectEq : object = [] := Utf8.encode_injective isNil
        obtain ⟨_, _, _, _⟩ := writes
        simp at objectEq
    | cons byte after =>
        obtain rfl : byte = 0x0A := by
          rcases ends with isNil | isFeed
          · contradiction
          · exact Option.some.inj isFeed
        refine ⟨['\n'], Bytes.lines after, by simp, ?_⟩
        rw [Bytes.lines_append_feed absent, Utf8.encode, Utf8.encode, List.flatMap_append]
        rfl
  obtain ⟨own, lineItems, stepEq⟩ :=
    itemsFrom_step reader before.lines (Utf8.encode (object ++ ending))
  rw [lineItems.eq_message format inRange isEnd writes] at stepEq
  refine ⟨reader.itemsBehind (before.lines ++ [Utf8.encode (object ++ ending)]) more, ?_⟩
  rw [items_eq, Bytes.lines_append starts, itemsBehind_append, linesEq, List.nil_append]
  exact congrArg (reader.items before ++ ·) (stepEq more)

def quotedMessage : Message :=
  ⟨"t", -2147483648, 1, some ⟨951782400, 500000000⟩, ["h", "h"], some "a\n\"b\\"⟩

theorem items_object_quotedMessage :
    ∃ later, (⟨.jsonl, "t"⟩ : MessageReader).items (Utf8.encode "\x7b\x7d\n" ++
        (Utf8.encode (Json.compact (objectOf quotedMessage
          [.value, .headers, .timestamp, .partition])) ++ [0x0A, 0xFF])) =
      (⟨.jsonl, "t"⟩ : MessageReader).items (Utf8.encode "\x7b\x7d\n") ++
        .ok quotedMessage :: later := by
  have inRange : quotedMessage.InRange := by
    refine ⟨by decide +kernel, by decide +kernel, ?_⟩
    rintro _ ⟨rfl⟩
    decide +kernel
  have noLeap : ∀ instant, quotedMessage.timestamp = some instant →
      instant.nanos < Instant.nanosPerSecond := by
    rintro _ ⟨rfl⟩
    decide
  refine items_object rfl inRange (Or.inr (by decide)) (Or.inr rfl) (feed_not_mem_compact _ _)
    (writesObject_compact inRange noLeap (by decide) ?_)
  intro field absent
  cases field with
  | topic => rfl
  | offset =>
      rw [Field.IsDefault]
      decide +kernel
  | partition | timestamp | headers | value => simp at absent

end TopicSieve
