import Std.Time.DateTime.Timestamp
import TopicSieve.Console.Run
import TopicSieve.Instant.Printer

/-!
The program itself: a run at the terminal, with the files and the environment of the process.
-/

namespace TopicSieve

def InputFault.ofNumber (number : UInt32) (reason : String) : InputFault :=
  if number = 2 then .notFound
  else if number = 20 then .notDirectory
  else if number = 21 then .isDirectory
  else .other (reason.toList ++ " (os error " ++ Text.ofNat number.toNat ++ ")")

def InputFault.ofSystem : IO.Error → InputFault
  | .noFileOrDirectory _ number reason | .inappropriateType _ number reason
  | .permissionDenied _ number reason | .invalidArgument _ number reason
  | .resourceExhausted _ number reason | .noSuchThing _ number reason
  | .alreadyExists _ number reason | .interrupted _ number reason
  | .otherError number reason | .hardwareFault number reason
  | .illegalOperation number reason | .unsupportedOperation number reason =>
      .ofNumber number reason
  | error => .other error.toString.toList

def catchFault {α : Type} (action : IO α) : IO (Except InputFault α) :=
  tryCatch (do pure (.ok (← action))) fun error => pure (.error (.ofSystem error))

/-- Reads up to a line feed or the end. `line` holds the bytes before, the last one first. -/
partial def readLineFrom (stream : IO.FS.Stream) (line : Bytes) : IO Bytes := do
  match (← stream.read 1).toList with
  | [] => pure line.reverse
  | byte :: _ =>
      if byte = 0x0A then pure (byte :: line).reverse else readLineFrom stream (byte :: line)

partial def readAllFrom (stream : IO.FS.Stream) (before : ByteArray) : IO ByteArray := do
  let chunk ← stream.read 65536
  if chunk.isEmpty then pure before else readAllFrom stream (before ++ chunk)

def Instant.now : IO Instant := do
  let nanos : Int := (← Std.Time.Timestamp.now).toNanosecondsSinceUnixEpoch.val
  pure ⟨nanos / nanosPerSecond, (nanos % nanosPerSecond).toNat⟩

def writeTo (stream : IO.FS.Stream) (text : Text) : IO Unit := do
  stream.putStr (String.ofList text)
  stream.flush

instance : Terminal IO where
  print text := do writeTo (← IO.getStdout) text
  printError text := do writeTo (← IO.getStderr) text
  log line := do
    let time ← Instant.now
    writeTo (← IO.getStderr) (time.textTo 6 ++ " " ++ line ++ "\n")
  readLine := do
    let line ← catchFault (do readLineFrom (← IO.getStdin) [])
    pure (line.bind fun line =>
      if (Utf8.decode? line).isSome then .ok () else .error .notText)
  readInput := do pure (← readAllFrom (← IO.getStdin) .empty).toList
  openPath path := do
    match ← catchFault (IO.FS.Handle.mk (String.ofList path) .read) with
    | .error fault => pure (.error fault)
    | .ok handle =>
        match ← catchFault handle.readBinToEnd with
        | .error fault => pure (.ok (.unreadable fault))
        | .ok content => pure (.ok (.content content.toList))

def commandSummary : Text :=
  "Usage: topic-filter [OPTIONS] <COMMAND>\n\n" ++
    "Commands:\n" ++
    "  tokens   Print the tokens of the filter query\n" ++
    "  parse    Show the key/value pairs the filter query requires\n" ++
    "  scan     Read messages and display those matching the filter query\n" ++
    "  consume  Consume a Kafka topic and display messages matching the filter query\n" ++
    "  config   Print the effective configuration with credentials redacted\n"

def Surroundings.ofProcess : IO Surroundings := do
  let environment ← Surroundings.names.filterMapM fun name => do
    pure ((← IO.getEnv (String.ofList name)).map fun value => (name, value.toList))
  pure ⟨environment, ← (← IO.getStdout).isTty, fun _ _ => commandSummary⟩

end TopicSieve

def main (arguments : List String) : IO UInt32 := do
  let surroundings ← TopicSieve.Surroundings.ofProcess
  let code ← TopicSieve.Run.arguments surroundings (arguments.map String.toList)
  pure code.toUInt32
