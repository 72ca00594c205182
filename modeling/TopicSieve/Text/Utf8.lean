import TopicSieve.Text.Basic

/-!
Decoding UTF-8. The decoder is an automaton over the bytes: it either stands between characters or
inside one, and then knows which bytes may come next. A sequence that breaks off is reported once,
and the byte that broke it is looked at afresh, so no byte of a well-formed sequence is ever lost
to a malformed one before it.
-/

namespace TopicSieve

abbrev Bytes := List UInt8

namespace Utf8

/-- Where the decoder stands. Inside a character it holds the bits read so far, the bounds of the
next byte, and the number of bytes that follow that one. -/
inductive State where
  | between
  | inside (value low high following : Nat)

inductive Start where
  | char (char : Char)
  | inside (value low high following : Nat)
  | malformed

/-- The well-formed first bytes, with the bounds they put on the second byte: they keep out
overlong forms, surrogates and values past the last code point. -/
def start (byte : Nat) : Start :=
  if byte < 0x80 then .char (Char.ofNat byte)
  else if byte < 0xC2 then .malformed
  else if byte < 0xE0 then .inside (byte - 0xC0) 0x80 0xBF 0
  else if byte = 0xE0 then .inside 0x0 0xA0 0xBF 1
  else if byte = 0xED then .inside 0xD 0x80 0x9F 1
  else if byte < 0xF0 then .inside (byte - 0xE0) 0x80 0xBF 1
  else if byte = 0xF0 then .inside 0x0 0x90 0xBF 2
  else if byte < 0xF4 then .inside (byte - 0xF0) 0x80 0xBF 2
  else if byte = 0xF4 then .inside 0x4 0x80 0x8F 2
  else .malformed

def pieces : State → Bytes → List (Option Char)
  | .between, [] => []
  | .inside .., [] => [none]
  | .between, byte :: rest =>
      match start byte.toNat with
      | .char char => some char :: pieces .between rest
      | .inside value low high following => pieces (.inside value low high following) rest
      | .malformed => none :: pieces .between rest
  | .inside value low high following, byte :: rest =>
      if low ≤ byte.toNat ∧ byte.toNat ≤ high then
        let value := value * 64 + (byte.toNat - 0x80)
        match following with
        | 0 => some (Char.ofNat value) :: pieces .between rest
        | following + 1 => pieces (.inside value 0x80 0xBF following) rest
      else
        match start byte.toNat with
        | .char char => none :: some char :: pieces .between rest
        | .inside value low high following =>
            none :: pieces (.inside value low high following) rest
        | .malformed => none :: none :: pieces .between rest

def decode? (bytes : Bytes) : Option Text := (pieces .between bytes).mapM id

def decodeLossy (bytes : Bytes) : Text :=
  (pieces .between bytes).map fun piece => piece.getD '\uFFFD'

def encode (text : Text) : Bytes := text.flatMap String.utf8EncodeChar

end Utf8

end TopicSieve
