import TopicSieve.Instant.Basic
import TopicSieve.Json.Fault

/-!
Messages of a topic, and what can go wrong while they are read.
-/

namespace TopicSieve

/-- A record with the data about it that is shown. Only the names of its headers are kept. A record
without a value is a tombstone. -/
structure Message where
  topic : Text
  partition : Int
  offset : Int
  timestamp : Option Instant
  headers : List Text
  value : Option Text
deriving Repr, DecidableEq

def Message.body (message : Message) : Text := message.value.getD []

inductive InputFault where
  | notFound
  | notDirectory
  | isDirectory
  | notText
  | other (reason : Text)
deriving Repr, DecidableEq

def InputFault.message : InputFault → Text
  | notFound => "No such file or directory (os error 2)"
  | notDirectory => "Not a directory (os error 20)"
  | isDirectory => "Is a directory (os error 21)"
  | notText => "stream did not contain valid UTF-8"
  | other reason => reason

inductive MessageError where
  | io (fault : InputFault)
  | open (path : Text) (fault : InputFault)
  | invalidEnvelope (line : Nat) (fault : Json.Fault)
  | consume (reason : Text)

namespace MessageError

def cause : MessageError → Text
  | io fault => fault.message
  | «open» _ fault => fault.message
  | invalidEnvelope _ fault => fault.message
  | consume reason => reason

def message (error : MessageError) : Text :=
  match error with
  | io _ => "Failed to read messages: " ++ error.cause
  | «open» path _ => "Failed to open '" ++ path ++ "': " ++ error.cause
  | invalidEnvelope line _ =>
      "Invalid message envelope on line " ++ Text.ofNat line ++ ": " ++ error.cause
  | consume _ => "Failed to consume message: " ++ error.cause

def isSkippable : MessageError → Bool
  | invalidEnvelope .. | consume _ => true
  | io _ | «open» .. => false

end MessageError

abbrev Item := Except MessageError Message

end TopicSieve
