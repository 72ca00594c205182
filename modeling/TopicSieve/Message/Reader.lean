import TopicSieve.Message.Basic
import TopicSieve.Message.Envelope
import TopicSieve.Text.Blank
import TopicSieve.Text.Utf8

/-!
Messages from input with one record a line. Lines that are blank are passed over, but count as
lines; lines that are no text are reported, and count as nothing.
-/

namespace TopicSieve

inductive InputFormat where
  | lines
  | jsonl
deriving Repr, DecidableEq

namespace Bytes

def lines : Bytes → List Bytes
  | [] => []
  | byte :: rest =>
      if byte = 0x0A then [byte] :: lines rest
      else
        match lines rest with
        | [] => [[byte]]
        | line :: more => (byte :: line) :: more

end Bytes

namespace Message

def ofBody (topic : Text) (offset : Int) (body : Text) : Message :=
  ⟨topic, 0, offset, none, [], some body⟩

def ofEnvelope (topic : Text) (offset : Int) (envelope : Envelope) : Message where
  topic := envelope.topic.getD topic
  partition := envelope.partition
  offset := envelope.offset.getD offset
  timestamp := envelope.timestamp
  headers := envelope.headers.getD []
  value := envelope.value

end Message

structure MessageReader where
  format : InputFormat
  topic : Text
deriving Repr, DecidableEq

namespace MessageReader

/-- The message of one record. `line` is the number of its line, `index` that of the record. -/
def decode (reader : MessageReader) (line index : Nat) (record : Text) : Item :=
  match reader.format with
  | .lines => .ok (Message.ofBody reader.topic index record)
  | .jsonl =>
      match Envelope.read record with
      | .ok envelope => .ok (Message.ofEnvelope reader.topic index envelope)
      | .error fault => .error (.invalidEnvelope line fault)

def isLineEnd (char : Char) : Bool := char == '\r' || char == '\n'

/-- The items of lines that come after `lines` other lines that are text, `records` of them not
blank. -/
def itemsFrom (reader : MessageReader) (lines records : Nat) : List Bytes → List Item
  | [] => []
  | line :: rest =>
      match Utf8.decode? line with
      | none => .error (.io .notText) :: itemsFrom reader lines records rest
      | some text =>
          if (Text.trim text).isEmpty then itemsFrom reader (lines + 1) records rest
          else
            reader.decode (lines + 1) records (Text.dropEndWhile isLineEnd text) ::
              itemsFrom reader (lines + 1) (records + 1) rest

def items (reader : MessageReader) (input : Bytes) : List Item :=
  reader.itemsFrom 0 0 input.lines

end MessageReader

inductive OpenFile where
  | content (bytes : Bytes)
  | unreadable (fault : InputFault)
deriving Repr, DecidableEq

namespace MessageReader

def itemsOf (reader : MessageReader) : OpenFile → List Item
  | .content bytes => reader.items bytes
  | .unreadable fault => [.error (.io fault)]

def firstItemsOf (reader : MessageReader) (count : Nat) : OpenFile → List Item
  | .content bytes => (reader.items bytes).take count
  | .unreadable fault => List.replicate count (.error (.io fault))

end MessageReader

end TopicSieve
