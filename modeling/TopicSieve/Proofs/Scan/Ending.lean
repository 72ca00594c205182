import TopicSieve.Proofs.Scan.Record

/-!
Where a scan ends, and with what. The description looks at items and calls only: a part of the items
is undecided while nothing in it ends the scan, and an ending adds the one item that does. Main
statement: a scan pulls an undecided part and the item that ends it, or else all items, and nothing
behind what it pulled changes the result, the calls or the state of the receiver.
-/

namespace TopicSieve

def Filter.accepted (filter : Filter) (items : List Item) : List Message :=
  items.filterMap fun
    | .ok message => if filter.accepts message.body then some message else none
    | .error _ => none

def ScanCounts.ofItems (filter : Filter) (items : List Item) : ScanCounts where
  read := items.countP fun
    | .ok _ => true
    | .error _ => false
  matched := (filter.accepted items).length
  skipped := items.countP fun
    | .error (.invalidEnvelope ..) | .error (.consume _) => true
    | _ => false

theorem Filter.accepted_append (filter : Filter) (front back : List Item) :
    filter.accepted (front ++ back) = filter.accepted front ++ filter.accepted back :=
  List.filterMap_append

inductive IsUnreadable : MessageError → Prop
  | io {fault} : IsUnreadable (.io fault)
  | open {path fault} : IsUnreadable (.open path fault)

theorem isUnreadable_iff (error : MessageError) :
    IsUnreadable error ↔ error.isSkippable = false := by
  constructor
  · rintro (_ | _) <;> rfl
  · intro unreadable
    cases error with
    | io fault => exact .io
    | «open» path fault => exact .open
    | invalidEnvelope line fault => contradiction
    | consume reason => contradiction

namespace ScanCounts

variable {filter : Filter} {front : List Item}

theorem ofItems_concat_error {error : MessageError} (readable : ¬ IsUnreadable error) :
    ofItems filter (front ++ [.error error]) =
      { ofItems filter front with skipped := (ofItems filter front).skipped + 1 } := by
  cases error with
  | io fault => exact absurd .io readable
  | «open» path fault => exact absurd .open readable
  | invalidEnvelope line fault => simp [ofItems, Filter.accepted]
  | consume reason => simp [ofItems, Filter.accepted]

theorem ofItems_concat_rejected {message : Message}
    (rejected : filter.accepts message.body = false) :
    ofItems filter (front ++ [.ok message]) =
      { ofItems filter front with read := (ofItems filter front).read + 1 } := by
  simp [ofItems, Filter.accepted, rejected]

theorem ofItems_concat_accepted {message : Message}
    (accepts : filter.accepts message.body = true) :
    ofItems filter (front ++ [.ok message]) =
      { ofItems filter front with
        read := (ofItems filter front).read + 1
        matched := (ofItems filter front).matched + 1 } := by
  simp [ofItems, Filter.accepted, accepts]

end ScanCounts

namespace Scan

/-! Items in front of the one at which a scan ends. -/

section

variable {m : Type → Type} {ε : Type}

structure Undecided (scan : Scan m ε) (items : List Item) (calls : Calls ε) : Prop where
  readable : ∀ error, .error error ∈ items → ¬ IsUnreadable error
  called : calls.map Prod.fst = scan.filter.accepted items
  taken : ∀ call ∈ calls, call.2 = .ok ()
  below : ∀ limit, scan.limit = some limit → calls.length < limit

/-- The last of the items ends the scan: the source fails, the receiver fails, or the limit is
reached with a message that the receiver took. -/
inductive Decided (scan : Scan m ε) :
    List Item → Calls ε → Except (ScanFailure ε) ScanCounts → Prop
  | source {front calls error} : Undecided scan front calls → IsUnreadable error →
      Decided scan (front ++ [.error error]) calls (.error (.source error))
  | receiver {front calls message fault} : Undecided scan front calls →
      scan.filter.accepts message.body = true →
      Decided scan (front ++ [.ok message]) (calls ++ [(message, .error fault)])
        (.error (.receiver fault))
  | limit {front calls message} : Undecided scan front calls →
      scan.filter.accepts message.body = true → scan.limit = some (calls.length + 1) →
      Decided scan (front ++ [.ok message]) (calls ++ [(message, .ok ())])
        (.ok (.ofItems scan.filter (front ++ [.ok message])))

theorem Undecided.length {scan : Scan m ε} {items : List Item} {calls : Calls ε}
    (undecided : Undecided scan items calls) :
    calls.length = (ScanCounts.ofItems scan.filter items).matched := by
  rw [ScanCounts.ofItems, ← undecided.called, List.length_map]

variable {scan : Scan m ε} {front : List Item} {calls : Calls ε}

theorem undecided_nil (asked : scan.limit ≠ some 0) : Undecided scan [] [] := by
  constructor
  · simp
  · rfl
  · simp
  · rintro limit found
    have positive : limit ≠ 0 := fun zero => asked (zero ▸ found)
    exact Nat.pos_of_ne_zero positive

theorem Undecided.concat (undecided : Undecided scan front calls) {last : Item} {more : Calls ε}
    (readable : ∀ error, last = .error error → ¬ IsUnreadable error)
    (called : more.map Prod.fst = scan.filter.accepted [last])
    (taken : ∀ call ∈ more, call.2 = .ok ())
    (below : ∀ limit, scan.limit = some limit → (calls ++ more).length < limit) :
    Undecided scan (front ++ [last]) (calls ++ more) := by
  constructor
  · intro error member
    rcases List.mem_append.mp member with earlier | isLast
    · exact undecided.readable error earlier
    · exact readable error (List.mem_singleton.mp isLast).symm
  · rw [List.map_append, undecided.called, called, Filter.accepted_append]
  · intro call member
    rcases List.mem_append.mp member with earlier | isLast
    · exact undecided.taken call earlier
    · exact taken call isLast
  · exact below

theorem Undecided.skip (undecided : Undecided scan front calls) {error : MessageError}
    (readable : ¬ IsUnreadable error) : Undecided scan (front ++ [.error error]) calls := by
  rw [← List.append_nil calls]
  refine undecided.concat ?_ rfl (by simp) (by simpa using undecided.below)
  rintro _ ⟨⟩
  exact readable

theorem Undecided.pass (undecided : Undecided scan front calls) {message : Message}
    (rejected : scan.filter.accepts message.body = false) :
    Undecided scan (front ++ [.ok message]) calls := by
  rw [← List.append_nil calls]
  refine undecided.concat (by simp) ?_ (by simp) (by simpa using undecided.below)
  simp [Filter.accepted, rejected]

theorem Undecided.take (undecided : Undecided scan front calls) {message : Message}
    (accepts : scan.filter.accepts message.body = true)
    (below : ∀ limit, scan.limit = some limit → calls.length + 1 < limit) :
    Undecided scan (front ++ [.ok message]) (calls ++ [(message, .ok ())]) := by
  refine undecided.concat (by simp) ?_ (by simp) (by simpa using below)
  simp [Filter.accepted, accepts]

theorem Undecided.earlier {back : List Item} (undecided : Undecided scan (front ++ back) calls) :
    ∃ earlier, earlier <+: calls ∧ Undecided scan front earlier := by
  have called := undecided.called
  rw [Filter.accepted_append] at called
  refine ⟨calls.take (scan.filter.accepted front).length, List.take_prefix _ _, ?_⟩
  constructor
  · intro error member
    exact undecided.readable error (List.mem_append_left back member)
  · rw [List.map_take, called]
    exact List.take_left
  · intro call member
    exact undecided.taken call (List.mem_of_mem_take member)
  · intro limit found
    have below := undecided.below limit found
    have shorter := List.length_take_le' (scan.filter.accepted front).length calls
    omega

structure Accounts (scan : Scan m ε) (pulled : List Item) (calls : Calls ε)
    (outcome : Except (ScanFailure ε) ScanCounts) : Prop where
  called : calls.map Prod.fst = scan.filter.accepted pulled
  limited : ∀ limit, scan.limit = some limit → calls.length ≤ limit
  counted : ∀ counts, outcome = .ok counts →
    counts = .ofItems scan.filter pulled ∧ counts.matched = calls.length
  shortest : ∀ shorter, shorter <+: pulled → shorter ≠ pulled →
    ∃ earlier, earlier <+: calls ∧ Undecided scan shorter earlier

theorem Undecided.accounts {items : List Item} (undecided : Undecided scan items calls) :
    Accounts scan items calls (.ok (.ofItems scan.filter items)) := by
  constructor
  · exact undecided.called
  · intro limit found
    exact Nat.le_of_lt (undecided.below limit found)
  · rintro _ ⟨⟩
    exact ⟨rfl, undecided.length.symm⟩
  · rintro shorter ⟨rest, rfl⟩ _
    exact undecided.earlier

theorem Undecided.accounts_concat {last : Item} {more : Calls ε}
    {outcome : Except (ScanFailure ε) ScanCounts} (undecided : Undecided scan front calls)
    (called : more.map Prod.fst = scan.filter.accepted [last]) (atMostOne : more.length ≤ 1)
    (counted : ∀ counts, outcome = .ok counts → counts = .ofItems scan.filter (front ++ [last])) :
    Accounts scan (front ++ [last]) (calls ++ more) outcome := by
  have allCalled : (calls ++ more).map Prod.fst = scan.filter.accepted (front ++ [last]) := by
    rw [List.map_append, undecided.called, called, Filter.accepted_append]
  constructor
  · exact allCalled
  · intro limit found
    have below := undecided.below limit found
    rw [List.length_append]
    omega
  · intro counts outcomeEq
    refine ⟨counted counts outcomeEq, ?_⟩
    rw [counted counts outcomeEq, ScanCounts.ofItems, ← allCalled, List.length_map]
  · intro shorter isPrefix proper
    obtain ⟨rest, rfl⟩ := (List.prefix_concat_iff.mp isPrefix).resolve_left proper
    obtain ⟨earlier, within, undecidedEarlier⟩ := undecided.earlier
    exact ⟨earlier, within.trans (List.prefix_append calls more), undecidedEarlier⟩

theorem Decided.accounts {items : List Item} {outcome : Except (ScanFailure ε) ScanCounts}
    (decided : Decided scan items calls outcome) : Accounts scan items calls outcome := by
  cases decided with
  | @source front calls error undecided unreadable =>
      rw [← List.append_nil calls]
      refine undecided.accounts_concat rfl (Nat.zero_le 1) ?_
      simp
  | receiver undecided accepts =>
      refine undecided.accounts_concat ?_ (Nat.le_refl 1) ?_
      · simp [Filter.accepted, accepts]
      · simp
  | limit undecided accepts reached =>
      refine undecided.accounts_concat ?_ (Nat.le_refl 1) ?_
      · simp [Filter.accepted, accepts]
      · rintro _ ⟨⟩
        rfl

end

/-! The recorded run, one item at a time. -/

section

variable {σ ε : Type}

def traceFrom (scan : Scan (StateM σ) ε) (counts : ScanCounts) (items : List Item)
    (calls : Calls ε) (state : σ) : (ScanResult ε × Calls ε) × σ :=
  ((scan.recorded.runFrom counts items).run calls).run state

def trace (scan : Scan (StateM σ) ε) (items : List Item) (state : σ) :
    (ScanResult ε × Calls ε) × σ :=
  ((scan.recorded.run items).run []).run state

theorem run_eq_trace (scan : Scan (StateM σ) ε) (items : List Item) (state : σ) :
    (scan.run items).run state = ((scan.trace items state).1.1, (scan.trace items state).2) := by
  rw [← run_recorded scan items []]
  rfl

theorem isComplete_iff (scan : Scan (StateM σ) ε) (matched : Nat) :
    scan.isComplete matched = true ↔ ∃ limit, scan.limit = some limit ∧ limit ≤ matched := by
  cases limit : scan.limit <;> simp [isComplete, limit]

theorem trace_of_zero {scan : Scan (StateM σ) ε} (zero : scan.limit = some 0) (items : List Item)
    (state : σ) : scan.trace items state = ((⟨.ok .zero, items⟩, []), state) := by
  have complete : scan.recorded.isComplete 0 = true := (isComplete_iff scan 0).mpr ⟨0, zero, Nat.le_refl 0⟩
  rw [trace, run, if_pos complete]
  rfl

theorem trace_eq_traceFrom {scan : Scan (StateM σ) ε} (asked : scan.limit ≠ some 0)
    (items : List Item) (state : σ) :
    scan.trace items state = scan.traceFrom (.ofItems scan.filter []) items [] state := by
  have incomplete : ¬ scan.recorded.isComplete 0 = true := by
    intro complete
    obtain ⟨limit, found, reached⟩ := (isComplete_iff scan 0).mp complete
    exact asked (Nat.le_zero.mp reached ▸ found)
  rw [trace, run, if_neg incomplete]
  rfl

variable (scan : Scan (StateM σ) ε) (counts : ScanCounts) (calls : Calls ε) (state : σ)

theorem traceFrom_unreadable {error : MessageError} (unreadable : IsUnreadable error)
    (rest : List Item) :
    scan.traceFrom counts (.error error :: rest) calls state =
      ((⟨.error (.source error), rest⟩, calls), state) := by
  have unskippable : ¬ error.isSkippable = true := by
    rw [(isUnreadable_iff error).mp unreadable]
    exact Bool.false_ne_true
  rw [traceFrom, runFrom_of_unskippable unskippable]
  rfl

theorem traceFrom_skip {error : MessageError} (readable : ¬ IsUnreadable error)
    (rest : List Item) :
    scan.traceFrom counts (.error error :: rest) calls state =
      scan.traceFrom { counts with skipped := counts.skipped + 1 } rest calls
        ((scan.observe (.skipped error)).run state).2 := by
  have skippable : error.isSkippable = true := by
    rwa [isUnreadable_iff, Bool.not_eq_false] at readable
  rw [traceFrom, runFrom_of_skippable skippable]
  rfl

theorem traceFrom_pass {message : Message} (rejected : scan.filter.accepts message.body = false)
    (rest : List Item) :
    scan.traceFrom counts (.ok message :: rest) calls state =
      scan.traceFrom { counts with read := counts.read + 1 } rest calls
        ((scan.observe (.unmatched message)).run state).2 := by
  have recordedRejects : ¬ scan.recorded.filter.accepts message.body = true := by
    rw [recorded_filter, rejected]
    exact Bool.false_ne_true
  rw [traceFrom, runFrom_of_rejected recordedRejects]
  rfl

def reply (message : Message) : Except ε Unit × σ :=
  (scan.receive message).run ((scan.observe (.matched message)).run state).2

theorem traceFrom_accepted {message : Message}
    (accepts : scan.filter.accepts message.body = true) (rest : List Item) :
    scan.traceFrom counts (.ok message :: rest) calls state =
      ((scan.recorded.afterReply counts rest (scan.reply state message).1).run
        (calls ++ [(message, (scan.reply state message).1)])).run (scan.reply state message).2 := by
  have recordedAccepts : scan.recorded.filter.accepts message.body = true := accepts
  rw [traceFrom, runFrom_of_accepts recordedAccepts]
  rfl

variable {message : Message} {next : σ}

theorem traceFrom_refused (accepts : scan.filter.accepts message.body = true) {fault : ε}
    (refused : scan.reply state message = (.error fault, next)) (rest : List Item) :
    scan.traceFrom counts (.ok message :: rest) calls state =
      ((⟨.error (.receiver fault), rest⟩, calls ++ [(message, .error fault)]), next) := by
  rw [traceFrom_accepted _ _ _ _ accepts, refused]
  rfl

theorem traceFrom_completed (accepts : scan.filter.accepts message.body = true)
    (taken : scan.reply state message = (.ok (), next))
    (complete : scan.isComplete (counts.matched + 1) = true) (rest : List Item) :
    scan.traceFrom counts (.ok message :: rest) calls state =
      ((⟨.ok counts.withMatch, rest⟩, calls ++ [(message, .ok ())]), next) := by
  have recordedComplete : scan.recorded.isComplete counts.withMatch.matched = true := complete
  rw [traceFrom_accepted _ _ _ _ accepts, taken, afterReply, if_pos recordedComplete]
  rfl

theorem traceFrom_taken (accepts : scan.filter.accepts message.body = true)
    (taken : scan.reply state message = (.ok (), next))
    (incomplete : ¬ scan.isComplete (counts.matched + 1) = true) (rest : List Item) :
    scan.traceFrom counts (.ok message :: rest) calls state =
      scan.traceFrom counts.withMatch rest (calls ++ [(message, .ok ())]) next := by
  have recordedIncomplete : ¬ scan.recorded.isComplete counts.withMatch.matched = true := incomplete
  rw [traceFrom_accepted _ _ _ _ accepts, taken, afterReply, if_neg recordedIncomplete]
  rfl

end

/-! The whole run. -/

section

variable {σ ε : Type}

/-- How a recorded run goes on behind an undecided front. Either a part of its items ends it, and then
the items behind that part are left as they are, or the items end first. -/
inductive Ends (scan : Scan (StateM σ) ε) (front : List Item) (calls : Calls ε) (state : σ)
    (items : List Item) : Prop
  | decided {here unread allCalls outcome} (final : σ) : items = here ++ unread →
      Decided scan (front ++ here) allCalls outcome →
      (∀ others, scan.traceFrom (.ofItems scan.filter front) (here ++ others) calls state =
        ((⟨outcome, others⟩, allCalls), final)) →
      Ends scan front calls state items
  | exhausted {allCalls} (final : σ) : Undecided scan (front ++ items) allCalls →
      scan.traceFrom (.ofItems scan.filter front) items calls state =
        ((⟨.ok (.ofItems scan.filter (front ++ items)), []⟩, allCalls), final) →
      Ends scan front calls state items

variable {scan : Scan (StateM σ) ε} {front : List Item} {calls : Calls ε} {state : σ}

theorem Ends.step {item : Item} {later : Calls ε} {next : σ} {rest : List Item}
    (stepEq : ∀ others, scan.traceFrom (.ofItems scan.filter front) (item :: others) calls state =
      scan.traceFrom (.ofItems scan.filter (front ++ [item])) others later next)
    (ends : Ends scan (front ++ [item]) later next rest) :
    Ends scan front calls state (item :: rest) := by
  cases ends with
  | decided final split decided traceEq =>
      rw [List.append_assoc] at decided
      refine .decided final (congrArg (item :: ·) split) decided ?_
      intro others
      exact (stepEq _).trans (traceEq others)
  | exhausted final undecided traceEq =>
      rw [List.append_assoc] at undecided traceEq
      exact .exhausted final undecided ((stepEq rest).trans traceEq)

theorem Undecided.ends_taken (undecided : Undecided scan front calls) {message : Message} {next : σ}
    {rest : List Item} (accepts : scan.filter.accepts message.body = true)
    (taken : scan.reply state message = (.ok (), next))
    (ends : Undecided scan (front ++ [.ok message]) (calls ++ [(message, .ok ())]) →
      Ends scan (front ++ [.ok message]) (calls ++ [(message, .ok ())]) next rest) :
    Ends scan front calls state (.ok message :: rest) := by
  have countsEq : ScanCounts.ofItems scan.filter (front ++ [.ok message]) =
      (ScanCounts.ofItems scan.filter front).withMatch := ScanCounts.ofItems_concat_accepted accepts
  by_cases complete : scan.isComplete ((ScanCounts.ofItems scan.filter front).matched + 1) = true
  · have reached : scan.limit = some (calls.length + 1) := by
      obtain ⟨limit, found, reached⟩ := (isComplete_iff scan _).mp complete
      have below := undecided.below limit found
      rw [← undecided.length] at reached
      rw [found, Nat.le_antisymm reached below]
    refine .decided next rfl (.limit undecided accepts reached) ?_
    intro others
    rw [countsEq]
    exact traceFrom_completed _ _ _ _ accepts taken complete others
  · have below : ∀ limit, scan.limit = some limit → calls.length + 1 < limit := by
      intro limit found
      apply Classical.byContradiction
      intro reached
      rw [undecided.length, Nat.not_lt] at reached
      exact complete ((isComplete_iff scan _).mpr ⟨limit, found, reached⟩)
    have stepEq := traceFrom_taken scan _ calls state accepts taken complete
    rw [← countsEq] at stepEq
    exact .step stepEq (ends (undecided.take accepts below))

theorem Undecided.ends (items : List Item) (undecided : Undecided scan front calls) :
    Ends scan front calls state items := by
  induction items generalizing front calls state with
  | nil =>
      rw [← List.append_nil front] at undecided
      refine .exhausted state undecided ?_
      rw [List.append_nil]
      rfl
  | cons item rest ih =>
      cases item with
      | error error =>
          by_cases unreadable : IsUnreadable error
          · exact .decided state rfl (.source undecided unreadable)
              (traceFrom_unreadable _ _ _ _ unreadable)
          · have stepEq := traceFrom_skip scan (.ofItems scan.filter front) calls state unreadable
            rw [← ScanCounts.ofItems_concat_error unreadable] at stepEq
            exact .step stepEq (ih (undecided.skip unreadable))
      | ok message =>
          by_cases accepts : scan.filter.accepts message.body = true
          · rcases replyEq : scan.reply state message with ⟨fault | _, next⟩
            · exact .decided next rfl (.receiver undecided accepts)
                (traceFrom_refused _ _ _ _ accepts replyEq)
            · exact undecided.ends_taken accepts replyEq ih
          · rw [Bool.not_eq_true] at accepts
            have stepEq := traceFrom_pass scan (.ofItems scan.filter front) calls state accepts
            rw [← ScanCounts.ofItems_concat_rejected accepts] at stepEq
            exact .step stepEq (ih (undecided.pass accepts))

/-- A scan with a limit of no matches pulls nothing. Every other scan pulls the shortest part of the
items that ends it, or all of them, and hands on the accepted messages of that part in order. The
record is about the scan itself: without it, the result and the last state are the same. -/
theorem run_ending (scan : Scan (StateM σ) ε) (items : List Item) (state : σ) :
    (scan.limit = some 0 → scan.trace items state = ((⟨.ok .zero, items⟩, []), state)) ∧
    (scan.limit ≠ some 0 → ∃ pulled result calls final,
      scan.trace items state = ((result, calls), final) ∧
      items = pulled ++ result.unread ∧
      Accounts scan pulled calls result.outcome ∧
      (Decided scan pulled calls result.outcome ∧
          (∀ others, scan.trace (pulled ++ others) state =
            ((⟨result.outcome, others⟩, calls), final)) ∨
        Undecided scan pulled calls ∧ result.unread = [] ∧
          result.outcome = .ok (.ofItems scan.filter pulled))) ∧
    (scan.run items).run state = ((scan.trace items state).1.1, (scan.trace items state).2) := by
  refine ⟨fun zero => trace_of_zero zero items state, ?_, run_eq_trace scan items state⟩
  intro asked
  have ends : Ends scan [] [] state items := (undecided_nil asked).ends items
  cases ends with
  | @decided pulled unread calls outcome final split decided traceEq =>
      refine ⟨pulled, ⟨outcome, unread⟩, calls, final, ?_, split, decided.accounts, .inl ?_⟩
      · rw [trace_eq_traceFrom asked, split, traceEq]
      · refine ⟨decided, ?_⟩
        intro others
        rw [trace_eq_traceFrom asked, traceEq]
  | @exhausted calls final undecided traceEq =>
      rw [← trace_eq_traceFrom asked] at traceEq
      exact ⟨items, _, calls, final, traceEq, (List.append_nil items).symm, undecided.accounts,
        .inr ⟨undecided, rfl, rfl⟩⟩

end

end Scan

end TopicSieve
