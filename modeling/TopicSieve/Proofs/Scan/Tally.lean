import TopicSieve.Proofs.Scan.Ending

/-!
What a scan counts whose receiver takes every match. Main statement: such a scan ends with its limit
if there are as many matches in front of the first item that cannot be read; otherwise it fails at
that item, and ends with the number of all matches where there is none.
-/

namespace TopicSieve

def isReadable : Item → Bool
  | .ok _ => true
  | .error error => error.isSkippable

theorem isReadable_error_iff (error : MessageError) :
    isReadable (.error error) = true ↔ ¬ IsUnreadable error := by
  rw [isUnreadable_iff, Bool.not_eq_false, isReadable]

namespace Scan

/-! The number of matches, told by the items. -/

/-- The number of matches that a scan ends with, if it does not fail, when it goes on with the items
behind `matched` matches. -/
def tallyFrom (filter : Filter) (limit : Option Nat) (matched : Nat) (items : List Item) :
    Option Nat :=
  let total := matched + (filter.accepted (items.takeWhile isReadable)).length
  if limit.any (· ≤ total) then limit
  else if items.all isReadable then some total else none

def tally (filter : Filter) (limit : Option Nat) (items : List Item) : Option Nat :=
  tallyFrom filter limit 0 items

section

variable {filter : Filter} {limit : Option Nat} {matched : Nat}

theorem tallyFrom_reached (reached : limit.any (· ≤ matched) = true) (items : List Item) :
    tallyFrom filter limit matched items = limit := by
  cases limit with
  | none => contradiction
  | some limit =>
      have bound : limit ≤ matched := of_decide_eq_true reached
      have beyond : limit ≤ matched + (filter.accepted (items.takeWhile isReadable)).length :=
        Nat.le_add_right_of_le bound
      simp [tallyFrom, beyond]

theorem tallyFrom_nil (below : limit.any (· ≤ matched) = false) :
    tallyFrom filter limit matched [] = some matched := by
  rw [tallyFrom, List.takeWhile_nil, Filter.accepted, List.filterMap_nil, List.length_nil,
    Nat.add_zero, below]
  rfl

theorem tallyFrom_unreadable {error : MessageError} (unreadable : IsUnreadable error)
    (below : limit.any (· ≤ matched) = false) (rest : List Item) :
    tallyFrom filter limit matched (.error error :: rest) = none := by
  have stops : isReadable (.error error) = false := (isUnreadable_iff error).mp unreadable
  rw [tallyFrom, List.takeWhile_cons, stops, List.all_cons, stops, Filter.accepted]
  rw [if_neg Bool.false_ne_true, List.filterMap_nil, List.length_nil, Nat.add_zero, below]
  rfl

theorem tallyFrom_readable {item : Item} (readable : isReadable item = true) (rest : List Item) :
    tallyFrom filter limit matched (item :: rest) =
      tallyFrom filter limit (matched + (filter.accepted [item]).length) rest := by
  have accepted : filter.accepted ((item :: rest).takeWhile isReadable) =
      filter.accepted [item] ++ filter.accepted (rest.takeWhile isReadable) := by
    rw [List.takeWhile_cons_of_pos readable, ← List.singleton_append, Filter.accepted_append]
  rw [tallyFrom, tallyFrom, accepted, List.length_append, ← Nat.add_assoc, List.all_cons, readable,
    Bool.true_and]

theorem tallyFrom_skip {error : MessageError} (readable : ¬ IsUnreadable error)
    (rest : List Item) :
    tallyFrom filter limit matched (.error error :: rest) = tallyFrom filter limit matched rest :=
  tallyFrom_readable ((isReadable_error_iff error).mpr readable) rest

theorem tallyFrom_pass {message : Message} (rejected : filter.accepts message.body = false)
    (rest : List Item) :
    tallyFrom filter limit matched (.ok message :: rest) = tallyFrom filter limit matched rest := by
  rw [tallyFrom_readable rfl]
  simp [Filter.accepted, rejected]

theorem tallyFrom_match {message : Message} (accepts : filter.accepts message.body = true)
    (rest : List Item) :
    tallyFrom filter limit matched (.ok message :: rest) =
      tallyFrom filter limit (matched + 1) rest := by
  rw [tallyFrom_readable rfl]
  simp [Filter.accepted, accepts]

end

/-! The same number, as a scan gives it. -/

variable {σ ε : Type}

structure TakesAll (kept : σ → Prop) (scan : Scan (StateM σ) ε) : Prop where
  receive : ∀ message state, (scan.receive message).run state = (.ok (), state)
  observe : ∀ event {state}, kept state → kept ((scan.observe event).run state).2

def EndsWith (kept : σ → Prop) (matched : Option Nat) (run : (ScanResult ε × Calls ε) × σ) : Prop :=
  run.1.1.outcome.toOption.map ScanCounts.matched = matched ∧ kept run.2

variable {kept : σ → Prop} {scan : Scan (StateM σ) ε}

theorem TakesAll.reply (takesAll : TakesAll kept scan) (message : Message) (state : σ) :
    scan.reply state message = (.ok (), ((scan.observe (.matched message)).run state).2) :=
  takesAll.receive message _

theorem TakesAll.traceFrom_endsWith (takesAll : TakesAll kept scan) {counts : ScanCounts}
    (below : scan.isComplete counts.matched = false) (items : List Item) (calls : Calls ε)
    {state : σ} (start : kept state) :
    EndsWith kept (tallyFrom scan.filter scan.limit counts.matched items)
      (scan.traceFrom counts items calls state) := by
  -- Below the limit, both sides go on with the same number of matches.
  induction items generalizing counts calls state with
  | nil => exact ⟨(tallyFrom_nil below).symm, start⟩
  | cons item rest ih =>
      cases item with
      | error error =>
          by_cases unreadable : IsUnreadable error
          · rw [tallyFrom_unreadable unreadable below, traceFrom_unreadable _ _ _ _ unreadable]
            exact ⟨rfl, start⟩
          · rw [tallyFrom_skip unreadable, traceFrom_skip _ _ _ _ unreadable]
            refine ih ?_ calls (takesAll.observe _ start)
            exact below
      | ok message =>
          by_cases accepts : scan.filter.accepts message.body = true
          · have taken := takesAll.reply message state
            have after := takesAll.observe (.matched message) start
            rw [tallyFrom_match accepts]
            by_cases complete : scan.isComplete (counts.matched + 1) = true
            · have exactly : scan.limit = some (counts.matched + 1) := by
                obtain ⟨limit, found, reached⟩ := (isComplete_iff scan _).mp complete
                have above : ¬ limit ≤ counts.matched := by simpa [isComplete, found] using below
                rw [found, Nat.le_antisymm reached (Nat.not_le.mp above)]
              rw [tallyFrom_reached complete, traceFrom_completed _ _ _ _ accepts taken complete,
                exactly]
              exact ⟨rfl, after⟩
            · rw [traceFrom_taken _ _ _ _ accepts taken complete]
              rw [Bool.not_eq_true] at complete
              exact ih complete _ after
          · rw [Bool.not_eq_true] at accepts
            rw [tallyFrom_pass accepts, traceFrom_pass _ _ _ _ accepts]
            refine ih ?_ calls (takesAll.observe _ start)
            exact below

theorem TakesAll.trace_endsWith (takesAll : TakesAll kept scan) (items : List Item) {state : σ}
    (start : kept state) :
    EndsWith kept (tally scan.filter scan.limit items) (scan.trace items state) := by
  by_cases zero : scan.limit = some 0
  · have reached : scan.limit.any (· ≤ 0) = true := by simp [zero]
    rw [tally, tallyFrom_reached reached, trace_of_zero zero, zero]
    exact ⟨rfl, start⟩
  · have below : scan.isComplete 0 = false := by
      rw [← Bool.not_eq_true, isComplete_iff]
      rintro ⟨limit, found, reached⟩
      exact zero (Nat.le_zero.mp reached ▸ found)
    rw [trace_eq_traceFrom zero]
    exact takesAll.traceFrom_endsWith below items [] start

/-- A scan that takes every match ends with as many matches as the items tell, or fails. -/
theorem TakesAll.run_tally (takesAll : TakesAll kept scan) (items : List Item) {state : σ}
    (start : kept state) :
    ((scan.run items).run state).1.outcome.toOption.map ScanCounts.matched =
        tally scan.filter scan.limit items ∧
      kept ((scan.run items).run state).2 := by
  rw [run_eq_trace]
  exact takesAll.trace_endsWith items start

end Scan

end TopicSieve
