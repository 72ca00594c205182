import TopicSieve.Proofs.Scan.Ending

/-!
Scans of streams from which something was deleted. Two scans are held together by a relation between
their states that no follower can break and under which their receivers reply alike. Main statement:
damaged records and messages that the filter does not accept can be deleted from a stream, and the
receiver is given the same messages, and the scan ends in the same way, with the same matches.
-/

namespace TopicSieve

inductive IsDamaged : Item → Prop
  | invalidEnvelope {line fault} : IsDamaged (.error (.invalidEnvelope line fault))
  | consume {reason} : IsDamaged (.error (.consume reason))

def Filter.Rejects (filter : Filter) (item : Item) : Prop :=
  ∃ message, item = .ok message ∧ filter.accepts message.body = false

/-- `Deletion may items kept`: any number of the items that may go are gone, and the others are left
in order. -/
inductive Deletion (may : Item → Prop) : List Item → List Item → Prop
  | nil : Deletion may [] []
  | keep {item items kept} : Deletion may items kept →
      Deletion may (item :: items) (item :: kept)
  | delete {item items kept} : may item → Deletion may items kept →
      Deletion may (item :: items) kept

theorem IsDamaged.readable {error : MessageError} (damaged : IsDamaged (.error error)) :
    ¬ IsUnreadable error := by
  rw [isUnreadable_iff]
  cases damaged <;> simp [MessageError.isSkippable]

def Filter.concerns (filter : Filter) : Item → Bool
  | .ok message => filter.accepts message.body
  | .error error => !error.isSkippable

theorem Filter.harmless_of_not_concerns {filter : Filter} {item : Item}
    (unconcerned : filter.concerns item = false) : IsDamaged item ∨ filter.Rejects item := by
  cases item with
  | ok message => exact Or.inr ⟨message, rfl, unconcerned⟩
  | error error =>
      cases error with
      | invalidEnvelope => exact Or.inl .invalidEnvelope
      | consume => exact Or.inl .consume
      | io | «open» => simp [concerns, MessageError.isSkippable] at unconcerned

theorem deletion_concerns (filter : Filter) (items : List Item) :
    Deletion (fun item => IsDamaged item ∨ filter.Rejects item) items
      (items.filter filter.concerns) := by
  induction items with
  | nil => exact .nil
  | cons item rest ih =>
      by_cases concerned : filter.concerns item = true
      · rw [List.filter_cons_of_pos concerned]
        exact .keep ih
      · rw [List.filter_cons_of_neg concerned]
        exact .delete (Filter.harmless_of_not_concerns (Bool.eq_false_iff.mpr concerned)) ih

structure ScanCounts.Agree (may : Item → Prop) (counts others : ScanCounts) : Prop where
  matched : counts.matched = others.matched
  read : (∀ message, ¬ may (.ok message)) → counts.read = others.read
  skipped : (∀ error, ¬ may (.error error)) → counts.skipped = others.skipped

namespace ScanCounts.Agree

variable {may : Item → Prop} {counts others : ScanCounts}

theorem refl (may : Item → Prop) (counts : ScanCounts) : counts.Agree may counts :=
  ⟨rfl, fun _ => rfl, fun _ => rfl⟩

theorem skip (agree : counts.Agree may others) :
    Agree may { counts with skipped := counts.skipped + 1 }
      { others with skipped := others.skipped + 1 } :=
  ⟨agree.matched, agree.read, fun never => congrArg (· + 1) (agree.skipped never)⟩

theorem pass (agree : counts.Agree may others) :
    Agree may { counts with read := counts.read + 1 } { others with read := others.read + 1 } :=
  ⟨agree.matched, fun never => congrArg (· + 1) (agree.read never), agree.skipped⟩

theorem withMatch (agree : counts.Agree may others) :
    Agree may counts.withMatch others.withMatch :=
  ⟨congrArg (· + 1) agree.matched, fun never => congrArg (· + 1) (agree.read never), agree.skipped⟩

theorem skip_left (agree : counts.Agree may others) {error : MessageError}
    (allowed : may (.error error)) :
    Agree may { counts with skipped := counts.skipped + 1 } others :=
  ⟨agree.matched, agree.read, fun never => absurd allowed (never error)⟩

theorem pass_left (agree : counts.Agree may others) {message : Message}
    (allowed : may (.ok message)) : Agree may { counts with read := counts.read + 1 } others :=
  ⟨agree.matched, fun never => absurd allowed (never message), agree.skipped⟩

end ScanCounts.Agree

namespace Scan

variable {σ τ ω ε : Type}

inductive EndAlike (may : Item → Prop) :
    Except (ScanFailure ε) ScanCounts → Except (ScanFailure ε) ScanCounts → Prop
  | ok {counts others} : counts.Agree may others → EndAlike may (.ok counts) (.ok others)
  | error {failure} : EndAlike may (.error failure) (.error failure)

namespace EndAlike

variable {may : Item → Prop} {outcome other : Except (ScanFailure ε) ScanCounts}

theorem matched (alike : EndAlike may outcome other) :
    outcome.map ScanCounts.matched = other.map ScanCounts.matched := by
  cases alike with
  | ok agree => exact congrArg Except.ok agree.matched
  | error => rfl

theorem read (alike : EndAlike may outcome other) (kept : ∀ message, ¬ may (.ok message)) :
    outcome.map ScanCounts.read = other.map ScanCounts.read := by
  cases alike with
  | ok agree => exact congrArg Except.ok (agree.read kept)
  | error => rfl

theorem skipped (alike : EndAlike may outcome other) (kept : ∀ error, ¬ may (.error error)) :
    outcome.map ScanCounts.skipped = other.map ScanCounts.skipped := by
  cases alike with
  | ok agree => exact congrArg Except.ok (agree.skipped kept)
  | error => rfl

end EndAlike

/-- Two scans for one filter and one limit whose states are related. A follower leaves the relation
as it is, also where the other scan takes no step, and related receivers reply alike. -/
structure Simulates (related : σ → τ → Prop) (scan : Scan (StateM σ) ε)
    (other : Scan (StateM τ) ε) : Prop where
  filter_eq : other.filter = scan.filter
  limit_eq : other.limit = scan.limit
  observe_left : ∀ event {state state'}, related state state' →
    related ((scan.observe event).run state).2 state'
  observe_right : ∀ event {state state'}, related state state' →
    related state ((other.observe event).run state').2
  receive : ∀ message {state state'}, related state state' →
    ((scan.receive message).run state).1 = ((other.receive message).run state').1 ∧
      related ((scan.receive message).run state).2 ((other.receive message).run state').2

structure Corresponds (related : σ → τ → Prop) (may : Item → Prop)
    (run : (ScanResult ε × Calls ε) × σ) (other : (ScanResult ε × Calls ε) × τ) : Prop where
  calls : run.1.2 = other.1.2
  states : related run.2 other.2
  outcomes : EndAlike may run.1.1.outcome other.1.1.outcome

namespace Simulates

variable {related : σ → τ → Prop} {scan : Scan (StateM σ) ε} {other : Scan (StateM τ) ε}

theorem observe_both (simulates : Simulates related scan other) (event : ScanEvent) {state : σ}
    {state' : τ} (start : related state state') :
    related ((scan.observe event).run state).2 ((other.observe event).run state').2 :=
  simulates.observe_right event (simulates.observe_left event start)

variable {may : Item → Prop} {counts others : ScanCounts} {state : σ} {state' : τ}

theorem traceFrom_match (simulates : Simulates related scan other) (agree : counts.Agree may others)
    (start : related state state') {message : Message}
    (accepts : scan.filter.accepts message.body = true) (calls : Calls ε) {rest rest' : List Item}
    (later : ∀ {next next'}, related next next' →
      Corresponds related may
        (scan.traceFrom counts.withMatch rest (calls ++ [(message, .ok ())]) next)
        (other.traceFrom others.withMatch rest' (calls ++ [(message, .ok ())]) next')) :
    Corresponds related may (scan.traceFrom counts (.ok message :: rest) calls state)
      (other.traceFrom others (.ok message :: rest') calls state') := by
  have acceptsToo : other.filter.accepts message.body = true := by
    rw [simulates.filter_eq, accepts]
  have completeEq : other.isComplete (others.matched + 1) = scan.isComplete (counts.matched + 1) := by
    rw [isComplete, isComplete, simulates.limit_eq, agree.matched]
  obtain ⟨sameReply, after⟩ := simulates.receive message (simulates.observe_both (.matched message) start)
  change (scan.reply state message).1 = (other.reply state' message).1 at sameReply
  change related (scan.reply state message).2 (other.reply state' message).2 at after
  rcases replyEq : scan.reply state message with ⟨reply, next⟩
  rcases otherEq : other.reply state' message with ⟨reply', next'⟩
  simp only [replyEq, otherEq] at sameReply after
  subst sameReply
  cases reply with
  | error fault =>
      rw [traceFrom_refused _ _ _ _ accepts replyEq, traceFrom_refused _ _ _ _ acceptsToo otherEq]
      exact ⟨rfl, after, .error⟩
  | ok _ =>
      by_cases complete : scan.isComplete (counts.matched + 1) = true
      · rw [traceFrom_completed _ _ _ _ accepts replyEq complete,
          traceFrom_completed _ _ _ _ acceptsToo otherEq (completeEq.trans complete)]
        exact ⟨rfl, after, .ok agree.withMatch⟩
      · rw [traceFrom_taken _ _ _ _ accepts replyEq complete,
          traceFrom_taken _ _ _ _ acceptsToo otherEq (by rwa [completeEq])]
        exact later after

theorem traceFrom_deletion (simulates : Simulates related scan other)
    (harmless : ∀ item, may item → IsDamaged item ∨ scan.filter.Rejects item)
    {items kept : List Item} (deletion : Deletion may items kept) (agree : counts.Agree may others)
    (start : related state state') (calls : Calls ε) :
    Corresponds related may (scan.traceFrom counts items calls state)
      (other.traceFrom others kept calls state') := by
  -- A deleted item is a step of the first scan alone.
  induction deletion generalizing counts others state state' calls with
  | nil => exact ⟨rfl, start, .ok agree⟩
  | @delete item items kept allowed _ ih =>
      rcases harmless item allowed with damaged | ⟨message, rfl, rejected⟩
      · cases item with
        | ok message => cases damaged
        | error error =>
            rw [traceFrom_skip _ _ _ _ damaged.readable]
            exact ih (agree.skip_left allowed) (simulates.observe_left _ start) calls
      · rw [traceFrom_pass _ _ _ _ rejected]
        exact ih (agree.pass_left allowed) (simulates.observe_left _ start) calls
  | @keep item items kept _ ih =>
      cases item with
      | error error =>
          by_cases unreadable : IsUnreadable error
          · rw [traceFrom_unreadable _ _ _ _ unreadable, traceFrom_unreadable _ _ _ _ unreadable]
            exact ⟨rfl, start, .error⟩
          · rw [traceFrom_skip _ _ _ _ unreadable, traceFrom_skip _ _ _ _ unreadable]
            exact ih agree.skip (simulates.observe_both _ start) calls
      | ok message =>
          by_cases accepts : scan.filter.accepts message.body = true
          · exact simulates.traceFrom_match agree start accepts calls
              fun after => ih agree.withMatch after _
          · rw [Bool.not_eq_true] at accepts
            have rejectsToo : other.filter.accepts message.body = false := by
              rw [simulates.filter_eq, accepts]
            rw [traceFrom_pass _ _ _ _ accepts, traceFrom_pass _ _ _ _ rejectsToo]
            exact ih agree.pass (simulates.observe_both _ start) calls

theorem trace_deletion (simulates : Simulates related scan other)
    (harmless : ∀ item, may item → IsDamaged item ∨ scan.filter.Rejects item)
    {items kept : List Item} (deletion : Deletion may items kept) (start : related state state') :
    Corresponds related may (scan.trace items state) (other.trace kept state') := by
  by_cases zero : scan.limit = some 0
  · rw [trace_of_zero zero, trace_of_zero (simulates.limit_eq.trans zero)]
    exact ⟨rfl, start, .ok (.refl may .zero)⟩
  · have asked : other.limit ≠ some 0 := by rwa [simulates.limit_eq]
    rw [trace_eq_traceFrom zero, trace_eq_traceFrom asked]
    exact simulates.traceFrom_deletion harmless deletion (.refl may .zero) start []

end Simulates

def followed (filter : Filter) (limit : Option Nat)
    (receive : Message → StateM σ (Except ε Unit)) (follow : ScanEvent → StateM ω Unit) :
    Scan (StateM (σ × ω)) ε where
  filter := filter
  limit := limit
  receive message := modifyGet fun (state, notes) =>
    let (reply, next) := (receive message).run state
    (reply, (next, notes))
  observe event := modify fun (state, notes) => (state, ((follow event).run notes).2)

theorem followed_simulates (filter : Filter) (limit : Option Nat)
    (receive : Message → StateM σ (Except ε Unit)) (follow : ScanEvent → StateM ω Unit) :
    Simulates (fun one other => one.1 = other.1) (followed filter limit receive follow)
      (followed filter limit receive follow) where
  filter_eq := rfl
  limit_eq := rfl
  observe_left _ _ _ same := same
  observe_right _ _ _ same := same
  receive message state state' same := by
    obtain ⟨state, notes⟩ := state
    obtain ⟨state', notes'⟩ := state'
    cases same
    exact ⟨rfl, rfl⟩

def outcome (scan : Scan (StateM σ) ε) (items : List Item) (state : σ) :
    Except (ScanFailure ε) ScanCounts :=
  ((scan.run items).run state).1.outcome

def calls (scan : Scan (StateM σ) ε) (items : List Item) (state : σ) : Calls ε :=
  (scan.trace items state).1.2

theorem outcome_eq_trace (scan : Scan (StateM σ) ε) (items : List Item) (state : σ) :
    scan.outcome items state = (scan.trace items state).1.1.outcome := by
  rw [outcome, run_eq_trace]

/-- Damaged records and rejected messages do not matter to a scan: without any number of them, the
receiver gets the same calls and gives the same replies, and the scan fails in the same way or finds
as many matches. What is deleted shows in the other counts alone. -/
theorem undisturbed_by_deletion (filter : Filter) (limit : Option Nat)
    (receive : Message → StateM σ (Except ε Unit)) (follow : ScanEvent → StateM ω Unit)
    (state : σ × ω) {items kept : List Item}
    (deletion : Deletion (fun item => IsDamaged item ∨ filter.Rejects item) items kept) :
    let scan := followed filter limit receive follow
    scan.calls kept state = scan.calls items state ∧
    ((scan.run kept).run state).2.1 = ((scan.run items).run state).2.1 ∧
    (scan.outcome kept state).map ScanCounts.matched =
      (scan.outcome items state).map ScanCounts.matched ∧
    (Deletion IsDamaged items kept →
      (scan.outcome kept state).map ScanCounts.read =
        (scan.outcome items state).map ScanCounts.read) ∧
    (Deletion filter.Rejects items kept →
      (scan.outcome kept state).map ScanCounts.skipped =
        (scan.outcome items state).map ScanCounts.skipped) := by
  intro scan
  have simulates := followed_simulates filter limit receive follow
  have same : state.1 = state.1 := rfl
  have both := simulates.trace_deletion (fun _ => id) deletion same
  simp only [outcome_eq_trace, run_eq_trace]
  refine ⟨both.calls.symm, both.states.symm, both.outcomes.matched.symm, ?_, ?_⟩
  · intro damaged
    have errorsOnly := simulates.trace_deletion (fun _ => Or.inl) damaged same
    exact (errorsOnly.outcomes.read (by rintro message ⟨⟩)).symm
  · intro rejected
    have messagesOnly := simulates.trace_deletion (fun _ => Or.inr) rejected same
    exact (messagesOnly.outcomes.skipped (by rintro error ⟨_, ⟨⟩, _⟩)).symm

def noisyItems : List Item :=
  [.error (.consume "lost"), .ok ⟨"t", 0, 0, none, [], some "b=1"⟩,
    .ok ⟨"t", 0, 1, none, [], some "a=1"⟩, .error (.consume "lost"),
    .ok ⟨"t", 0, 2, none, [], none⟩, .ok ⟨"t", 0, 3, none, [], some "A=1"⟩,
    .error (.io .notText)]

def takeOne (_ : Message) : StateM Nat (Except Text Unit) :=
  modifyGet fun taken => (if taken = 0 then .ok () else .error "full", taken + 1)

theorem undisturbed_by_deletion_noisyItems :
    let filter := Filter.parse "a=1"
    let kept := noisyItems.filter filter.concerns
    let scan := followed filter none takeOne fun _ => (pure () : StateM Unit Unit)
    Deletion (fun item => IsDamaged item ∨ filter.Rejects item) noisyItems kept ∧
    kept.length = 3 ∧ scan.calls kept (0, ()) = scan.calls noisyItems (0, ()) ∧
    (scan.outcome kept (0, ())).map ScanCounts.matched =
      (scan.outcome noisyItems (0, ())).map ScanCounts.matched := by
  intro filter kept scan
  have deletion := deletion_concerns filter noisyItems
  obtain ⟨sameCalls, _, sameOutcome, _⟩ :=
    undisturbed_by_deletion filter none takeOne (fun _ => (pure () : StateM Unit Unit)) (0, ())
      deletion
  exact ⟨deletion, by decide, sameCalls, sameOutcome⟩

end Scan

end TopicSieve
