import TopicSieve.Message.Basic
import TopicSieve.Query.Filter

/-!
Going through a stream of messages with a filter. Every match is handed on in order. Damaged records
are passed over and counted; a fault of the source itself, or of the one who takes the matches, ends
the scan, and so does the last match of a limit. What the scan did not look at is part of the
result.
-/

namespace TopicSieve

structure ScanCounts where
  read : Nat
  matched : Nat
  skipped : Nat
deriving Repr, DecidableEq

def ScanCounts.zero : ScanCounts := ⟨0, 0, 0⟩

inductive ScanEvent where
  | skipped (error : MessageError)
  | unmatched (message : Message)
  | matched (message : Message)

inductive ScanFailure (ε : Type) where
  | source (error : MessageError)
  | receiver (fault : ε)

structure ScanResult (ε : Type) where
  outcome : Except (ScanFailure ε) ScanCounts
  unread : List Item

/-- What a scan needs to know: the filter, the number of matches after which it ends, who takes the
matches, and who follows its steps. -/
structure Scan (m : Type → Type) (ε : Type) where
  filter : Filter
  limit : Option Nat
  receive : Message → m (Except ε Unit)
  observe : ScanEvent → m Unit

namespace Scan

variable {m : Type → Type} {ε : Type} [Monad m]

def isComplete (scan : Scan m ε) (matched : Nat) : Bool :=
  scan.limit.any fun limit => limit ≤ matched

def runFrom (scan : Scan m ε) (counts : ScanCounts) : List Item → m (ScanResult ε)
  | [] => pure ⟨.ok counts, []⟩
  | .error error :: rest =>
      if error.isSkippable then do
        scan.observe (.skipped error)
        runFrom scan { counts with skipped := counts.skipped + 1 } rest
      else pure ⟨.error (.source error), rest⟩
  | .ok message :: rest =>
      if scan.filter.accepts message.body then do
        scan.observe (.matched message)
        match ← scan.receive message with
        | .error fault => pure ⟨.error (.receiver fault), rest⟩
        | .ok () =>
            let counts := { counts with read := counts.read + 1, matched := counts.matched + 1 }
            if scan.isComplete counts.matched then pure ⟨.ok counts, rest⟩
            else runFrom scan counts rest
      else do
        scan.observe (.unmatched message)
        runFrom scan { counts with read := counts.read + 1 } rest

def run (scan : Scan m ε) (items : List Item) : m (ScanResult ε) :=
  if scan.isComplete 0 then pure ⟨.ok .zero, items⟩ else scan.runFrom .zero items

end Scan

end TopicSieve
