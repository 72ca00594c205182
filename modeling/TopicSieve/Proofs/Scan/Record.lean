import TopicSieve.Scan

/-!
A scan that keeps a record of what its receiver was given and what the receiver said to it. Main
statement: the record changes nothing about the scan itself.
-/

namespace TopicSieve

abbrev Calls (ε : Type) := List (Message × Except ε Unit)

def ScanCounts.withMatch (counts : ScanCounts) : ScanCounts :=
  { counts with read := counts.read + 1, matched := counts.matched + 1 }

namespace Scan

section

variable {m : Type → Type} {ε : Type} [Monad m]

def afterReply (scan : Scan m ε) (counts : ScanCounts) (rest : List Item) :
    Except ε Unit → m (ScanResult ε)
  | .error fault => pure ⟨.error (.receiver fault), rest⟩
  | .ok () =>
      if scan.isComplete counts.withMatch.matched then pure ⟨.ok counts.withMatch, rest⟩
      else scan.runFrom counts.withMatch rest

theorem runFrom_of_accepts {scan : Scan m ε} {message : Message}
    (accepts : scan.filter.accepts message.body = true) (counts : ScanCounts) (rest : List Item) :
    scan.runFrom counts (.ok message :: rest) =
      scan.observe (.matched message) >>= fun _ =>
        scan.receive message >>= scan.afterReply counts rest := by
  rw [runFrom, if_pos accepts]
  rfl

theorem runFrom_of_rejected {scan : Scan m ε} {message : Message}
    (rejected : ¬ scan.filter.accepts message.body = true) (counts : ScanCounts)
    (rest : List Item) :
    scan.runFrom counts (.ok message :: rest) =
      scan.observe (.unmatched message) >>= fun _ =>
        scan.runFrom { counts with read := counts.read + 1 } rest := by
  rw [runFrom, if_neg rejected]

theorem runFrom_of_skippable {error : MessageError} (skippable : error.isSkippable = true)
    (scan : Scan m ε) (counts : ScanCounts) (rest : List Item) :
    scan.runFrom counts (.error error :: rest) =
      scan.observe (.skipped error) >>= fun _ =>
        scan.runFrom { counts with skipped := counts.skipped + 1 } rest := by
  rw [runFrom, if_pos skippable]

theorem runFrom_of_unskippable {error : MessageError} (unskippable : ¬ error.isSkippable = true)
    (scan : Scan m ε) (counts : ScanCounts) (rest : List Item) :
    scan.runFrom counts (.error error :: rest) = pure ⟨.error (.source error), rest⟩ := by
  rw [runFrom, if_neg unskippable]

def recorded (scan : Scan m ε) : Scan (StateT (Calls ε) m) ε where
  filter := scan.filter
  limit := scan.limit
  receive message := do
    let reply ← scan.receive message
    modify fun calls => calls ++ [(message, reply)]
    return reply
  observe event := scan.observe event

@[simp] theorem recorded_filter (scan : Scan m ε) : scan.recorded.filter = scan.filter := rfl

@[simp] theorem recorded_isComplete (scan : Scan m ε) (matched : Nat) :
    scan.recorded.isComplete matched = scan.isComplete matched := rfl

variable [LawfulMonad m]

theorem run_recorded_receive (scan : Scan m ε) (message : Message) (calls : Calls ε) :
    (scan.recorded.receive message).run calls =
      (fun reply => (reply, calls ++ [(message, reply)])) <$> scan.receive message := by
  simp [recorded]

theorem run_recorded_observe (scan : Scan m ε) (event : ScanEvent) (calls : Calls ε) :
    (scan.recorded.observe event).run calls = (fun done => (done, calls)) <$> scan.observe event := by
  simp [recorded]

theorem runFrom_recorded (scan : Scan m ε) (counts : ScanCounts) (items : List Item)
    (calls : Calls ε) :
    Prod.fst <$> (scan.recorded.runFrom counts items).run calls = scan.runFrom counts items := by
  induction items generalizing counts calls with
  | nil => simp [runFrom]
  | cons item rest ih =>
      cases item with
      | error error =>
          by_cases skippable : error.isSkippable = true
          · simp [runFrom, skippable, run_recorded_observe, ← ih _ calls]
          · simp [runFrom, skippable]
      | ok message =>
          by_cases accepts : scan.filter.accepts message.body = true
          · have recordedAccepts : scan.recorded.filter.accepts message.body = true := accepts
            simp only [runFrom_of_accepts accepts, runFrom_of_accepts recordedAccepts,
              StateT.run_bind, run_recorded_observe, run_recorded_receive, bind_map_left, map_bind]
            congr 1
            funext _
            congr 1
            funext reply
            cases reply with
            | error fault => simp [afterReply]
            | ok _ =>
                by_cases complete : scan.isComplete counts.withMatch.matched = true
                · simp [afterReply, complete]
                · simpa [afterReply, complete] using ih _ _
          · simp [runFrom, accepts, run_recorded_observe, ← ih _ calls]

/-- Whoever does not read the record sees the scan as it is. -/
theorem run_recorded (scan : Scan m ε) (items : List Item) (calls : Calls ε) :
    Prod.fst <$> (scan.recorded.run items).run calls = scan.run items := by
  rw [run, run, recorded_isComplete]
  by_cases complete : scan.isComplete 0 = true
  · simp [complete]
  · simp [complete, runFrom_recorded]

end

end Scan

end TopicSieve
