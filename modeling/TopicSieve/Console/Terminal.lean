import TopicSieve.Console.Files

/-!
What a run needs from outside: somewhere to write, something to read from, and files. A session is a
terminal whose files and input are fixed beforehand and whose output is kept. A session has no clock:
the lines of its log are kept without a time.
-/

namespace TopicSieve

class Terminal (m : Type → Type) where
  print : Text → m Unit
  printError : Text → m Unit
  /-- writes a line of the log, behind the time if the terminal has a clock -/
  log : Text → m Unit
  readLine : m (Except InputFault Unit)
  readInput : m Bytes
  openPath : Text → m (Except InputFault OpenFile)

structure Session where
  files : Files
  input : Bytes
  output : Text
  errors : Text
deriving Repr, DecidableEq

namespace Session

def start (files : Files) (input : Bytes) : Session := ⟨files, input, [], []⟩

def takeLine (session : Session) : Except InputFault Unit × Session :=
  match session.input.lines with
  | [] => (.ok (), session)
  | line :: _ =>
      let after := { session with input := session.input.drop line.length }
      (if (Utf8.decode? line).isSome then .ok () else .error .notText, after)

instance : Terminal (StateM Session) where
  print text := modify fun session => { session with output := session.output ++ text }
  printError text := modify fun session => { session with errors := session.errors ++ text }
  log line := modify fun session => { session with errors := session.errors ++ line ++ "\n" }
  readLine := modifyGet takeLine
  readInput := modifyGet fun session => (session.input, { session with input := [] })
  openPath path := do pure ((← get).files.openPath path)

end Session

end TopicSieve
