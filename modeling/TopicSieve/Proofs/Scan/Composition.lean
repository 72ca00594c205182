import TopicSieve.Proofs.Scan.Ending

/-!
Scans of streams in two parts. Where the first part does not end the scan, the second one is scanned
for what is left of the limit. Main statement: a scan of both parts does what the two scans do one
after the other, with the sums of their counts, and leaves the second part alone where the first one
ends it.
-/

namespace TopicSieve

instance : Add ScanCounts where
  add counts more :=
    ⟨counts.read + more.read, counts.matched + more.matched, counts.skipped + more.skipped⟩

theorem ScanCounts.add_zero (counts : ScanCounts) : counts + zero = counts := rfl

def ScanResult.behind {ε : Type} (counts : ScanCounts) (result : ScanResult ε) : ScanResult ε :=
  ⟨result.outcome.map (counts + ·), result.unread⟩

namespace Scan

section

variable {m : Type → Type} {ε : Type}

def remaining (scan : Scan m ε) (matched : Nat) : Scan m ε :=
  { scan with limit := scan.limit.map (· - matched) }

@[simp] theorem remaining_isComplete (scan : Scan m ε) (matched more : Nat) :
    (scan.remaining matched).isComplete more = scan.isComplete (matched + more) := by
  cases limitEq : scan.limit with
  | none => simp [isComplete, remaining, limitEq]
  | some limit => simp [isComplete, remaining, limitEq, Nat.add_comm]

variable [Monad m]

def goOn (scan : Scan m ε) (back : List Item) (first : ScanResult ε) : m (ScanResult ε) :=
  match first.outcome with
  | .error failure => pure ⟨.error failure, first.unread ++ back⟩
  | .ok counts =>
      if scan.isComplete counts.matched then pure ⟨.ok counts, first.unread ++ back⟩
      else ScanResult.behind counts <$> (scan.remaining counts.matched).run back

section

variable {scan : Scan m ε} {counts : ScanCounts}

theorem goOn_of_complete (complete : scan.isComplete counts.matched = true)
    (back unread : List Item) :
    scan.goOn back ⟨.ok counts, unread⟩ = pure ⟨.ok counts, unread ++ back⟩ :=
  if_pos complete

theorem goOn_of_incomplete (incomplete : ¬ scan.isComplete counts.matched = true)
    (back unread : List Item) :
    scan.goOn back ⟨.ok counts, unread⟩ =
      ScanResult.behind counts <$> (scan.remaining counts.matched).run back :=
  if_neg incomplete

end

variable [LawfulMonad m]

theorem afterReply_add (scan : Scan m ε) (counts more : ScanCounts) (rest : List Item)
    (later : ∀ more, scan.runFrom (counts + more) rest =
      ScanResult.behind counts <$> (scan.remaining counts.matched).runFrom more rest)
    (reply : Except ε Unit) :
    scan.afterReply (counts + more) rest reply =
      ScanResult.behind counts <$> (scan.remaining counts.matched).afterReply more rest reply := by
  cases reply with
  | error fault =>
      rw [afterReply, afterReply, map_pure]
      rfl
  | ok _ =>
      have completeEq : (scan.remaining counts.matched).isComplete more.withMatch.matched =
          scan.isComplete (counts + more).withMatch.matched := by
        rw [remaining_isComplete]
        rfl
      rw [afterReply, afterReply, completeEq]
      split
      · rw [map_pure]
        rfl
      · exact later more.withMatch

theorem runFrom_add (scan : Scan m ε) (counts more : ScanCounts) (items : List Item) :
    scan.runFrom (counts + more) items =
      ScanResult.behind counts <$> (scan.remaining counts.matched).runFrom more items := by
  -- What matters to a scan is how far its matches are from the limit.
  induction items generalizing more with
  | nil =>
      rw [runFrom, runFrom, map_pure]
      rfl
  | cons item rest ih =>
      cases item with
      | error error =>
          by_cases skippable : error.isSkippable = true
          · rw [runFrom_of_skippable skippable, runFrom_of_skippable skippable, map_bind]
            congr 1
            funext _
            exact ih { more with skipped := more.skipped + 1 }
          · rw [runFrom_of_unskippable skippable, runFrom_of_unskippable skippable, map_pure]
            rfl
      | ok message =>
          by_cases accepts : scan.filter.accepts message.body = true
          · have acceptsToo : (scan.remaining counts.matched).filter.accepts message.body = true :=
              accepts
            rw [runFrom_of_accepts accepts, runFrom_of_accepts acceptsToo, map_bind]
            congr 1
            funext _
            rw [map_bind]
            congr 1
            funext reply
            exact afterReply_add scan counts more rest ih reply
          · have rejectsToo : ¬ (scan.remaining counts.matched).filter.accepts message.body = true :=
              accepts
            rw [runFrom_of_rejected accepts, runFrom_of_rejected rejectsToo, map_bind]
            congr 1
            funext _
            exact ih { more with read := more.read + 1 }

theorem runFrom_eq_remaining {scan : Scan m ε} {counts : ScanCounts}
    (incomplete : ¬ scan.isComplete counts.matched = true) (items : List Item) :
    scan.runFrom counts items =
      ScanResult.behind counts <$> (scan.remaining counts.matched).run items := by
  have incompleteToo : ¬ (scan.remaining counts.matched).isComplete 0 = true := by
    rwa [remaining_isComplete]
  rw [run, if_neg incompleteToo, ← runFrom_add, ScanCounts.add_zero]

theorem runFrom_append {scan : Scan m ε} {counts : ScanCounts}
    (incomplete : ¬ scan.isComplete counts.matched = true) (front back : List Item) :
    scan.runFrom counts (front ++ back) = scan.runFrom counts front >>= scan.goOn back := by
  induction front generalizing counts with
  | nil =>
      rw [List.nil_append, runFrom, pure_bind, goOn_of_incomplete incomplete]
      exact runFrom_eq_remaining incomplete back
  | cons item rest ih =>
      rw [List.cons_append]
      cases item with
      | error error =>
          by_cases skippable : error.isSkippable = true
          · rw [runFrom_of_skippable skippable, runFrom_of_skippable skippable, bind_assoc]
            congr 1
            funext _
            exact ih incomplete
          · rw [runFrom_of_unskippable skippable, runFrom_of_unskippable skippable, pure_bind]
            rfl
      | ok message =>
          by_cases accepts : scan.filter.accepts message.body = true
          · rw [runFrom_of_accepts accepts, runFrom_of_accepts accepts, bind_assoc]
            congr 1
            funext _
            rw [bind_assoc]
            congr 1
            funext reply
            cases reply with
            | error fault =>
                rw [afterReply, afterReply, pure_bind]
                rfl
            | ok _ =>
                by_cases complete : scan.isComplete counts.withMatch.matched = true
                · rw [afterReply, afterReply, if_pos complete, if_pos complete, pure_bind,
                    goOn_of_complete complete]
                · rw [afterReply, afterReply, if_neg complete, if_neg complete]
                  exact ih complete
          · rw [runFrom_of_rejected accepts, runFrom_of_rejected accepts, bind_assoc]
            congr 1
            funext _
            exact ih incomplete

/-- Whatever its receiver and its follower do, a scan of two parts is a scan of the first and then of
the second. -/
theorem run_append (scan : Scan m ε) (front back : List Item) :
    scan.run (front ++ back) = scan.run front >>= scan.goOn back := by
  by_cases complete : scan.isComplete 0 = true
  · have noneMatched : scan.isComplete ScanCounts.zero.matched = true := complete
    rw [run, run, if_pos complete, if_pos complete, pure_bind, goOn_of_complete noneMatched]
  · rw [run, run, if_neg complete, if_neg complete]
    exact runFrom_append complete front back

end

/-! The calls of both parts. -/

section

variable {σ ε : Type}

def withCalls (calls : Calls ε) (traced : (ScanResult ε × Calls ε) × σ) :
    (ScanResult ε × Calls ε) × σ :=
  ((traced.1.1, calls ++ traced.1.2), traced.2)

theorem traceFrom_withCalls (scan : Scan (StateM σ) ε) (counts : ScanCounts) (items : List Item)
    (calls more : Calls ε) (state : σ) :
    scan.traceFrom counts items (calls ++ more) state =
      withCalls calls (scan.traceFrom counts items more state) := by
  induction items generalizing counts more state with
  | nil => rfl
  | cons item rest ih =>
      cases item with
      | error error =>
          by_cases unreadable : IsUnreadable error
          · rw [traceFrom_unreadable _ _ _ _ unreadable, traceFrom_unreadable _ _ _ _ unreadable,
              withCalls]
          · rw [traceFrom_skip _ _ _ _ unreadable, traceFrom_skip _ _ _ _ unreadable, ih]
      | ok message =>
          by_cases accepts : scan.filter.accepts message.body = true
          · rcases replyEq : scan.reply state message with ⟨fault | _, next⟩
            · rw [traceFrom_refused _ _ _ _ accepts replyEq,
                traceFrom_refused _ _ _ _ accepts replyEq, List.append_assoc, withCalls]
            · by_cases complete : scan.isComplete (counts.matched + 1) = true
              · rw [traceFrom_completed _ _ _ _ accepts replyEq complete,
                  traceFrom_completed _ _ _ _ accepts replyEq complete, List.append_assoc, withCalls]
              · rw [traceFrom_taken _ _ _ _ accepts replyEq complete,
                  traceFrom_taken _ _ _ _ accepts replyEq complete, List.append_assoc, ih]
          · rw [Bool.not_eq_true] at accepts
            rw [traceFrom_pass _ _ _ _ accepts, traceFrom_pass _ _ _ _ accepts, ih]

theorem trace_withCalls (scan : Scan (StateM σ) ε) (items : List Item) (calls : Calls ε)
    (state : σ) :
    ((scan.recorded.run items).run calls).run state = withCalls calls (scan.trace items state) := by
  by_cases complete : scan.recorded.isComplete 0 = true
  · rw [trace, run, if_pos complete]
    change ((⟨.ok .zero, items⟩, calls), state) =
      withCalls calls (((⟨.ok .zero, items⟩, []), state) : (ScanResult ε × Calls ε) × σ)
    rw [withCalls, List.append_nil]
  · have traced := traceFrom_withCalls scan .zero items calls [] state
    rw [List.append_nil] at traced
    rw [trace, run, if_neg complete]
    exact traced

theorem limit_of_ok {scan : Scan (StateM σ) ε} {items : List Item} {state : σ}
    {counts : ScanCounts} {unread : List Item} {calls : Calls ε} {final : σ}
    (traced : scan.trace items state = ((⟨.ok counts, unread⟩, calls), final)) :
    (∀ limit, scan.limit = some limit → counts.matched ≤ limit) ∧
      (scan.limit ≠ some counts.matched → unread = []) := by
  by_cases zero : scan.limit = some 0
  · rw [trace_of_zero zero] at traced
    cases traced
    refine ⟨fun _ _ => Nat.zero_le _, ?_⟩
    intro notReached
    exact absurd zero notReached
  · have ends : Ends scan [] [] state items := (undecided_nil zero).ends items
    rw [trace_eq_traceFrom zero] at traced
    cases ends with
    | decided _ split decided traceEq =>
        rw [split, traceEq] at traced
        cases traced
        have accounts := decided.accounts
        obtain ⟨_, matchedEq⟩ := accounts.counted counts rfl
        rw [matchedEq]
        refine ⟨accounts.limited, ?_⟩
        intro notReached
        cases decided with
        | limit _ _ reached =>
            rw [List.length_append] at notReached
            exact absurd reached notReached
    | exhausted _ undecided traceEq =>
        rw [traceEq] at traced
        cases traced
        have accounts := undecided.accounts
        obtain ⟨_, matchedEq⟩ := accounts.counted _ rfl
        rw [matchedEq]
        exact ⟨accounts.limited, fun _ => rfl⟩

variable {scan : Scan (StateM σ) ε} {calls : Calls ε} {state next : σ}

theorem trace_of_front {front : List Item} {first : ScanResult ε}
    (frontEq : scan.trace front state = ((first, calls), next)) (back : List Item) :
    scan.trace (front ++ back) state = ((scan.recorded.goOn back first).run calls).run next := by
  rw [trace, run_append]
  change ((scan.recorded.goOn back (scan.trace front state).1.1).run
    (scan.trace front state).1.2).run (scan.trace front state).2 = _
  rw [frontEq]

theorem run_goOn_of_incomplete {counts : ScanCounts} {back : List Item} {second : ScanResult ε}
    {more : Calls ε} {final : σ} (incomplete : ¬ scan.isComplete counts.matched = true)
    (backEq : (scan.remaining counts.matched).trace back next = ((second, more), final))
    (unread : List Item) :
    ((scan.recorded.goOn back ⟨.ok counts, unread⟩).run calls).run next =
      ((second.behind counts, calls ++ more), final) := by
  have incompleteToo : ¬ scan.recorded.isComplete counts.matched = true := incomplete
  have recordedEq : (((scan.recorded.remaining counts.matched).run back).run calls).run next =
      ((second, calls ++ more), final) := by
    have withEarlier := trace_withCalls (scan.remaining counts.matched) back calls next
    rwa [backEq] at withEarlier
  rw [goOn_of_incomplete incompleteToo, StateT.run_map, StateT.run_map, recordedEq]
  rfl

/-- What a recorded scan of two parts comes to, given that of the first part. -/
inductive Continues (scan : Scan (StateM σ) ε) (back : List Item) :
    (ScanResult ε × Calls ε) × σ → (ScanResult ε × Calls ε) × σ → Prop
  | failed {failure unread calls next} :
      Continues scan back ((⟨.error failure, unread⟩, calls), next)
        ((⟨.error failure, unread ++ back⟩, calls), next)
  | reached {counts unread calls next} : scan.limit = some counts.matched →
      Continues scan back ((⟨.ok counts, unread⟩, calls), next)
        ((⟨.ok counts, unread ++ back⟩, calls), next)
  | passed {counts calls next second more final} : scan.limit ≠ some counts.matched →
      (scan.remaining counts.matched).trace back next = ((second, more), final) →
      Continues scan back ((⟨.ok counts, []⟩, calls), next)
        ((⟨second.outcome.map (counts + ·), second.unread⟩, calls ++ more), final)

/-- A scan of two parts ends with the first where that fails or reaches the limit. Otherwise it goes
on with the second part as a scan of its own would, for the matches that are left. -/
theorem trace_append (scan : Scan (StateM σ) ε) (front back : List Item) (state : σ) :
    Continues scan back (scan.trace front state) (scan.trace (front ++ back) state) ∧
    ∀ items, (scan.run items).run state =
      ((scan.trace items state).1.1, (scan.trace items state).2) := by
  refine ⟨?_, fun items => run_eq_trace scan items state⟩
  rcases frontEq : scan.trace front state with ⟨⟨⟨outcome, unread⟩, calls⟩, next⟩
  rw [trace_of_front frontEq]
  cases outcome with
  | error failure => exact .failed
  | ok counts =>
      obtain ⟨within, allRead⟩ := limit_of_ok frontEq
      by_cases reached : scan.limit = some counts.matched
      · have complete : scan.recorded.isComplete counts.matched = true :=
          (isComplete_iff scan _).mpr ⟨_, reached, Nat.le_refl _⟩
        rw [goOn_of_complete complete]
        exact .reached reached
      · have incomplete : ¬ scan.isComplete counts.matched = true := by
          intro complete
          obtain ⟨limit, found, atLeast⟩ := (isComplete_iff scan _).mp complete
          have atMost := within limit found
          rw [found, Nat.le_antisymm atLeast atMost] at reached
          contradiction
        obtain rfl := allRead reached
        rcases backEq : (scan.remaining counts.matched).trace back next with ⟨⟨second, more⟩, final⟩
        rw [run_goOn_of_incomplete incomplete backEq]
        exact .passed reached backEq

end

end Scan

end TopicSieve
