import WinWinCode.Foundation.Runs
import WinWinCode.Network.RequestJournal

/-!
What the journal guarantees of the attempts of one operation. The tables are read as
the state of the operation's queue and the list of its attempts; each call moves this
view by one of a few transitions, whatever happens to other operations, and a crash
does not move it at all. The guarantees hold of the log of a whole run.
-/

namespace WinWinCode.Network

open Counting Fallible Programs Tables List Table JournalTables

/-- The journal as one operation sees it. -/
structure Operation where
  state : Option QueueState
  attempts : List AttemptRow

def JournalTables.view (tables : JournalTables) (hash : String) : Operation :=
  ⟨tables.queueState hash, tables.attemptsOf hash⟩

def settle (sequence : Nat) (outcome : AttemptOutcome) (failure : Option NetworkFailure)
    (now : Nat) (row : AttemptRow) : AttemptRow :=
  if row.sequence = sequence then
    { row with outcome := outcome, failure := failure, finishedMs := some now }
  else row

def lastSequence (attempts : List AttemptRow) : Nat :=
  (attempts.map AttemptRow.sequence).foldl max 0

def Operation.outstanding (operation : Operation) : Option Nat :=
  operation.state.bind fun state => if state.inFlight then some state.sequence else none

def Operation.writtenOff (operation : Operation) (state : QueueState) (now : Nat) :
    QueueState × List AttemptRow :=
  if state.inFlight then
    (applyFailure state interrupted now,
      operation.attempts.map (settle state.sequence .unknown (some interrupted) now))
  else (state, operation.attempts)

/-- What `prepare` decides on: the queue's state with an attempt in flight written off. -/
structure Settled (replay : Replay) (maxAttempts : UInt32) (now : Nat) (operation : Operation)
    (current : QueueState) (attempts : List AttemptRow) : Prop where
  fresh : ¬ (operation.state = none ∧ replay = .retryInference ∧
    ∃ row ∈ operation.attempts, row.outcome = .completed)
  policy : (operation.state.getD (initialState replay maxAttempts)).replay = replay ∧
    (operation.state.getD (initialState replay maxAttempts)).maxAttempts = maxAttempts
  wrote : operation.writtenOff (operation.state.getD (initialState replay maxAttempts)) now =
    (current, attempts)

inductive Prepared (hash : String) (replay : Replay) (maxAttempts : UInt32) (now : Nat)
    (operation : Operation) : Operation → QueuePermit → Prop
  | completed (idle : operation.state = none) (mode : replay = .retryInference)
      (done : ∃ row ∈ operation.attempts, row.outcome = .completed) :
      Prepared hash replay maxAttempts now operation operation (.stopped completedBefore)
  | stopped (current : QueueState) (attempts : List AttemptRow)
      (settled : Settled replay maxAttempts now operation current attempts)
      (halted : current.stopped = true) :
      Prepared hash replay maxAttempts now operation ⟨some current, attempts⟩
        (.stopped current.failure)
  | waiting (current : QueueState) (attempts : List AttemptRow) (delay : Nat)
      (settled : Settled replay maxAttempts now operation current attempts)
      (going : current.stopped = false) :
      Prepared hash replay maxAttempts now operation ⟨some current, attempts⟩
        (.waiting delay current.failure)
  | ready (current : QueueState) (attempts : List AttemptRow)
      (settled : Settled replay maxAttempts now operation current attempts)
      (going : current.stopped = false) :
      Prepared hash replay maxAttempts now operation
        ⟨some { current with sequence := lastSequence attempts + 1, inFlight := true },
          attempts ++ [⟨hash, lastSequence attempts + 1, now, none, .inFlight, none⟩]⟩
        (.ready (lastSequence attempts + 1))

inductive Finished (sequence : Nat) (maxDelay : Option Nat) (now : Nat) (operation : Operation) :
    Option NetworkFailure → Operation → Prop
  | completed (state : QueueState) (found : operation.state = some state)
      (flying : state.inFlight = true) (current : state.sequence = sequence) :
      Finished sequence maxDelay now operation none
        ⟨none, operation.attempts.map (settle sequence .completed none now)⟩
  | failed (state : QueueState) (failure : NetworkFailure) (found : operation.state = some state)
      (flying : state.inFlight = true) (current : state.sequence = sequence) :
      Finished sequence maxDelay now operation (some failure)
        ⟨some (failedState state failure now maxDelay),
          operation.attempts.map (settle sequence .failed (some failure) now)⟩

/-! The tables move as the view says. -/

namespace JournalTables

variable (tables : JournalTables) (operation : String)

theorem attemptsOf_settleAttempt (hash : String) (sequence : Nat) (outcome : AttemptOutcome)
    (failure : Option NetworkFailure) (now : Nat) :
    (tables.settleAttempt operation sequence outcome failure now).attemptsOf hash =
      if hash = operation then (tables.attemptsOf hash).map (settle sequence outcome failure now)
      else tables.attemptsOf hash := by
  simp only [attemptsOf, settleAttempt, updateWhere_rows]
  by_cases here : hash = operation
  · subst here
    rw [if_pos rfl]
    apply filter_map_alter
    · intro row
      unfold Table.alter
      split <;> rfl
    · intro row kept
      simp only [beq_iff_eq] at kept
      simp [Table.alter, settle, kept]
  · rw [if_neg here]
    have untouched := @Table.filter_map_alter AttemptRow
      (fun row => row.operationHash == operation && row.sequence == sequence)
      ({ · with outcome := outcome, failure := failure, finishedMs := some now })
      (·.operationHash == hash)
      id tables.attempts.rows
    rw [untouched, map_id]
    · intro _
      unfold Table.alter
      split <;> rfl
    · intro _ kept
      simp only [beq_iff_eq] at kept
      simp [Table.alter, kept, here]

/-- The queue keeps one state for each operation, so a save always succeeds. -/
theorem saveState_eq (state : QueueState) :
    ∃ saved, tables.saveState operation state = .ok saved ∧ saved.attempts = tables.attempts ∧
      ∀ hash, saved.queueState hash =
        if hash = operation then some state else tables.queueState hash := by
  have free : ¬ ∃ kept ∈ (tables.queue.deleteWhere (·.operationHash == operation)).rows,
      SameQueue kept ⟨operation, state⟩ := by
    rintro ⟨kept, member, same⟩
    have spared := (mem_filter.mp member).2
    simp only [Bool.not_eq_true', beq_eq_false_iff_ne] at spared
    exact spared same
  cases done : tables.queue.upsert (·.operationHash == operation) ⟨operation, state⟩ with
  | none =>
    rw [Table.upsert, Table.insert, dif_pos free] at done
    cases done
  | some queue =>
    refine ⟨{ tables with queue := queue }, ?_, rfl, ?_⟩
    · rw [saveState, done]
      rfl
    · intro hash
      rw [queueState, find_upsert QueueRow.operationHash _ done rfl]
      by_cases here : operation = hash
      · rw [if_pos here, if_pos here.symm]
        rfl
      · rw [if_neg here, if_neg (Ne.symm here)]
        rfl

variable {tables : JournalTables}

theorem hasCompleted_iff {operation : String} : tables.hasCompleted operation ↔
      ∃ row ∈ tables.attemptsOf operation, row.outcome = .completed := by
  simp [hasCompleted, any_eq_true]

theorem attemptsOf_insert {row : AttemptRow} {attempts : Table AttemptRow SameAttempt}
    (inserted : tables.attempts.insert row = some attempts) (hash : String) :
    attemptsOf { tables with attempts := attempts } hash =
      if hash = row.operationHash then tables.attemptsOf hash ++ [row]
      else tables.attemptsOf hash := by
  simp only [attemptsOf, (insert_eq_some.mp inserted).2, filter_append]
  by_cases here : hash = row.operationHash
  · simp [here]
  · simp [here, Ne.symm here]

end JournalTables

def Elsewhere (hash : String) (before after : JournalTables) : Prop :=
  ∀ other, other ≠ hash → after.view other = before.view other

variable {hash : String} {tables next : JournalTables} {state : QueueState}

theorem view_of_moved {state : Option QueueState} {change : List AttemptRow → List AttemptRow}
    (queue : ∀ other, next.queueState other =
      if other = hash then state else tables.queueState other)
    (attempts : ∀ other, next.attemptsOf other =
      if other = hash then change (tables.attemptsOf other) else tables.attemptsOf other) :
    next.view hash = ⟨state, change (tables.attemptsOf hash)⟩ ∧ Elsewhere hash tables next := by
  constructor
  · rw [view, queue, attempts, if_pos rfl, if_pos rfl]
  · intro _ apart
    rw [view, queue, attempts, if_neg apart, if_neg apart]
    rfl

variable {now : Nat} {current : QueueState}

theorem writeOff_moves (done : writeOff hash now tables state = .ok (next, current)) :
    ((tables.view hash).writtenOff state now = (current, next.attemptsOf hash)) ∧
      next.queueState hash = tables.queueState hash ∧ Elsewhere hash tables next := by
  unfold writeOff at done
  by_cases flying : state.inFlight = true
  · simp only [flying, if_true, eq_ok, Prod.mk.injEq] at done
    obtain ⟨_, _, _, _, rfl, rfl⟩ := done
    refine ⟨?_, rfl, ?_⟩
    · rw [attemptsOf_settleAttempt, if_pos rfl, Operation.writtenOff, if_pos flying]
      rfl
    · intro _ apart
      simp only [view, attemptsOf_settleAttempt, if_neg apart]
      rfl
  · simp only [flying, if_false, pure_eq_ok, Prod.mk.injEq, Bool.false_eq_true] at done
    obtain ⟨rfl, rfl⟩ := done
    refine ⟨?_, rfl, fun _ _ => rfl⟩
    rw [Operation.writtenOff, if_neg flying]
    rfl

theorem saveState_moves (done : tables.saveState hash state = .ok next) :
    next.view hash = ⟨some state, tables.attemptsOf hash⟩ ∧ Elsewhere hash tables next := by
  obtain ⟨saved, ran, attempts, queue⟩ := tables.saveState_eq hash state
  obtain rfl : saved = next := Except.ok.inj (ran.symm.trans done)
  have kept : ∀ other, saved.attemptsOf other =
      if other = hash then id (tables.attemptsOf other) else tables.attemptsOf other := by
    intro _
    rw [id, ite_self]
    simp only [attemptsOf, attempts]
  exact view_of_moved queue kept

variable {operation : Operation} {maxAttempts : UInt32} {permit : QueuePermit} {replay : Replay}

theorem issuePermit_moves
    (settled : Settled replay maxAttempts now operation state (tables.attemptsOf hash))
    (done : issuePermit hash now tables state = .ok (next, permit)) :
    Prepared hash replay maxAttempts now operation (next.view hash) permit ∧
      Elsewhere hash tables next := by
  unfold issuePermit at done
  split at done
  · rename_i halted
    simp only [eq_ok, Prod.mk.injEq] at done
    obtain ⟨_, stored, rfl, rfl⟩ := done
    obtain ⟨view, others⟩ := saveState_moves stored
    rw [view]
    exact ⟨.stopped state _ settled halted, others⟩
  rename_i going
  split at done
  · simp only [eq_ok, Prod.mk.injEq] at done
    obtain ⟨_, stored, rfl, rfl⟩ := done
    obtain ⟨view, others⟩ := saveState_moves stored
    rw [view]
    exact ⟨.waiting state _ _ settled (Bool.eq_false_iff.mpr going), others⟩
  · simp only [eq_ok, Prod.mk.injEq] at done
    obtain ⟨_, _, _, _, _, inserted, _, stored, rfl, rfl⟩ := done
    obtain ⟨view, others⟩ := saveState_moves stored
    rw [view, attemptsOf_insert inserted, if_pos rfl]
    constructor
    · exact .ready state _ settled (Bool.eq_false_iff.mpr going)
    · intro other apart
      rw [others other apart, JournalTables.view, attemptsOf_insert inserted,
        if_neg apart]
      rfl

theorem prepareTables_moves
    (done : prepareTables hash replay maxAttempts now tables = .ok (next, permit)) :
    Prepared hash replay maxAttempts now (tables.view hash) (next.view hash) permit ∧
      Elsewhere hash tables next := by
  unfold prepareTables at done
  dsimp only at done
  split at done
  · rename_i before
    cases done
    exact ⟨.completed before.1 before.2.1 (hasCompleted_iff.mp before.2.2),
      fun _ _ => rfl⟩
  rename_i fresh
  simp only [eq_ok, not_or, not_not, ne_eq] at done
  obtain ⟨_, policy, ⟨_, _⟩, wrote, issued⟩ := done
  obtain ⟨writtenOff, _, elsewhere⟩ := writeOff_moves wrote
  rw [hasCompleted_iff] at fresh
  obtain ⟨moved, others⟩ := issuePermit_moves ⟨fresh, policy, writtenOff⟩ issued
  exact ⟨moved, fun other apart => (others other apart).trans (elsewhere other apart)⟩

theorem queueState_failed (found : tables.queueState hash = some state) (failed : QueueState)
    (other : String) :
    ((tables.queue.updateWhere (·.operationHash == hash) (fun row => { row with state := failed })
      (fun _ _ _ => ⟨id, id⟩)).find (·.operationHash == other)).map QueueRow.state =
      if other = hash then some failed else tables.queueState other := by
  rw [find_updateWhere tables.queue (·.operationHash == hash) (·.operationHash == other)
    ({ · with state := failed }) (fun _ _ _ => ⟨id, id⟩) (fun _ => rfl)]
  by_cases here : other = hash
  · subst here
    rw [if_pos rfl]
    rw [queueState, Option.map_eq_some_iff] at found
    obtain ⟨row, found, _⟩ := found
    rw [found]
    have hit := (find_eq_some found).2
    simp [Table.alter, hit]
  · rw [if_neg here, queueState]
    cases found : tables.queue.find (·.operationHash == other) with
    | none => rfl
    | some row =>
      have elsewhere : row.operationHash = other := by simpa using (find_eq_some found).2
      simp [Table.alter, elsewhere, here]

theorem queueState_completed (tables : JournalTables) (hash other : String) :
    ((tables.queue.deleteWhere (·.operationHash == hash)).find
      (·.operationHash == other)).map QueueRow.state =
      if other = hash then none else tables.queueState other := by
  by_cases here : other = hash
  · subst here
    rw [if_pos rfl, find_deleteWhere_self]
    rfl
  · have spared : ∀ row : QueueRow, (row.operationHash == other) = true →
        (row.operationHash == hash) = false := by
      intro _ same
      rw [beq_iff_eq.mp same]
      exact beq_eq_false_iff_ne.mpr here
    rw [if_neg here, find_deleteWhere _ spared]
    rfl

variable {sequence : Nat}

theorem finishTables_moves {failure : Option NetworkFailure} {maxDelay : Option Nat} {answer : Unit}
    (done : finishTables hash sequence failure maxDelay now tables = .ok (next, answer)) :
    Finished sequence maxDelay now (tables.view hash) failure (next.view hash) ∧
      Elsewhere hash tables next := by
  simp only [finishTables, eq_ok, not_or, not_not, ne_eq, Bool.not_eq_false] at done
  obtain ⟨state, found, _, ⟨flying, current⟩, _, _, _, _, rest⟩ := done
  cases failure with
  | none =>
    simp only [pure_eq_ok, Prod.mk.injEq, and_true] at rest
    have queue : ∀ other, next.queueState other =
        if other = hash then none else tables.queueState other := by
      intro other
      rw [← rest]
      exact queueState_completed tables hash other
    have attempts : ∀ other, next.attemptsOf other = if other = hash then
        (tables.attemptsOf other).map (settle sequence .completed none now)
        else tables.attemptsOf other := by
      intro other
      rw [← rest]
      exact tables.attemptsOf_settleAttempt hash other sequence .completed none now
    obtain ⟨view, elsewhere⟩ := view_of_moved queue attempts
    rw [view]
    exact ⟨.completed state found flying current, elsewhere⟩
  | some failure =>
    simp only [pure_eq_ok, Prod.mk.injEq, and_true] at rest
    have queue : ∀ other, next.queueState other = if other = hash then
        some (failedState state failure now maxDelay) else tables.queueState other := by
      intro other
      rw [← rest]
      exact queueState_failed found _ other
    have attempts : ∀ other, next.attemptsOf other = if other = hash then
        (tables.attemptsOf other).map (settle sequence .failed (some failure) now)
        else tables.attemptsOf other := by
      intro other
      rw [← rest]
      exact tables.attemptsOf_settleAttempt hash other sequence .failed (some failure) now
    obtain ⟨view, elsewhere⟩ := view_of_moved queue attempts
    rw [view]
    exact ⟨.failed state failure found flying current, elsewhere⟩

/-! What a failure makes of the queue's state. -/

/-- The state after a failed attempt: the budget is charged for what may have been sent, and
a failure that the policy does not retry ends the queue. -/
structure Failing (state : QueueState) (failure : NetworkFailure) (next : QueueState) : Prop where
  landed : next.inFlight = false
  reason : next.failure = failure
  replay : next.replay = state.replay
  maxAttempts : next.maxAttempts = state.maxAttempts
  decided : (next.stopped = true ∧ next.attempt = state.attempt) ∨
    (next.stopped = state.stopped ∧
      (state.replay = .reconcileFirst → failure.acceptance = .notSent) ∧
      (failure.disconnected = true → next.attempt = state.attempt) ∧
      (failure.disconnected = false → state.replay ≠ .replayExact →
        state.attempt < max state.maxAttempts.toNat 1 ∧ next.attempt = state.attempt + 1))

theorem saturatingAdd32_one {count : Nat} {limit : UInt32} (below : count < max limit.toNat 1) :
    saturatingAdd32 count 1 = count + 1 := by
  have word := limit.toNat_lt
  unfold saturatingAdd32
  omega

theorem applyFailure_failing (state : QueueState) (failure : NetworkFailure) (now : Nat) :
    Failing state failure (applyFailure state failure now) := by
  unfold applyFailure
  dsimp only
  split
  · rename_i delay retries
    have policy := decide_retries retries
    refine ⟨rfl, rfl, rfl, rfl, .inr ⟨rfl, policy.1, ?_, ?_⟩⟩
    · intro disconnected
      rw [if_pos disconnected]
    · intro connected mode
      have below := policy.2 connected mode
      exact ⟨below, by rw [if_neg (by simp [connected]), saturatingAdd32_one below]⟩
  · exact ⟨rfl, rfl, rfl, rfl, .inl ⟨rfl, rfl⟩⟩

/-- The caller's cap moves the instant of the retry and nothing else. -/
theorem failedState_failing (state : QueueState) (failure : NetworkFailure) (now : Nat)
    (maxDelay : Option Nat) : Failing state failure (failedState state failure now maxDelay) := by
  have failing := applyFailure_failing state failure now
  unfold failedState
  cases maxDelay with
  | none => exact failing
  | some _ =>
    dsimp only
    split
    · exact failing
    · exact ⟨failing.landed, failing.reason, failing.replay, failing.maxAttempts, failing.decided⟩

/-! The invariant of an operation. -/

/-- An attempt that counts against the budget: not one that failed for want of a connection. -/
def AttemptRow.charged (row : AttemptRow) : Bool :=
  !(row.outcome == .failed && row.failure.any NetworkFailure.disconnected)

def chargedAttempts (attempts : List AttemptRow) : Nat := attempts.countP AttemptRow.charged

/-- The budget of an inference: one charged attempt for each unit of the counter, the one in
flight included. -/
structure Budget (maxAttempts : UInt32) (operation : Operation) : Prop where
  bounded : chargedAttempts operation.attempts ≤ max maxAttempts.toNat 1
  idle : operation.state = none → operation.attempts = [] ∨
    ∃ row ∈ operation.attempts, row.outcome = .completed
  within : ∀ state, operation.state = some state → state.attempt ≤ max maxAttempts.toNat 1
  counted : ∀ state, operation.state = some state → state.stopped = false →
    chargedAttempts operation.attempts + (if state.inFlight then 0 else 1) = state.attempt

structure Operation.Sound (replay : Replay) (maxAttempts : UInt32) (operation : Operation) :
    Prop where
  increasing : operation.attempts.Pairwise fun early late => early.sequence < late.sequence
  landed : operation.outstanding = none → ∀ row ∈ operation.attempts, row.outcome ≠ .inFlight
  flying : ∀ sequence, operation.outstanding = some sequence → ∃ early row,
    operation.attempts = early ++ [row] ∧ row.sequence = sequence ∧ row.outcome = .inFlight ∧
      ∀ other ∈ early, other.outcome ≠ .inFlight
  policy : ∀ state, operation.state = some state →
    state.replay = replay ∧ state.maxAttempts = maxAttempts
  halted : ∀ state, operation.state = some state → state.stopped = true → state.inFlight = false
  budget : replay = .retryInference → Budget maxAttempts operation

theorem outstanding_eq_some :
    operation.outstanding = some sequence ↔ ∃ state, operation.state = some state ∧
      state.inFlight ∧ state.sequence = sequence := by
  simp only [Operation.outstanding, Option.bind_eq_some_iff]
  constructor
  · rintro ⟨state, found, here⟩
    split at here
    · exact ⟨state, found, ‹_›, Option.some.inj here⟩
    · cases here
  · rintro ⟨state, found, flying, current⟩
    exact ⟨state, found, by rw [if_pos flying, current]⟩

theorem outstanding_of_landed {attempts : List AttemptRow} (landed : state.inFlight = false) :
    Operation.outstanding ⟨some state, attempts⟩ = none := by
  simp [Operation.outstanding, landed]

theorem Operation.Sound.settle_last (sound : operation.Sound replay maxAttempts)
    (flying : operation.outstanding = some sequence) (outcome : AttemptOutcome)
    (failure : Option NetworkFailure) (now : Nat) :
    ∃ early row, operation.attempts = early ++ [row] ∧ row.sequence = sequence ∧
      row.outcome = .inFlight ∧ (∀ other ∈ early, other.outcome ≠ .inFlight) ∧
      operation.attempts.map (settle sequence outcome failure now) =
        early ++ [{ row with outcome := outcome, failure := failure, finishedMs := some now }] := by
  obtain ⟨early, row, rows, here, inFlight, others⟩ := sound.flying sequence flying
  refine ⟨early, row, rows, here, inFlight, others, ?_⟩
  have increasing := sound.increasing
  rw [rows, pairwise_append] at increasing
  have untouched : early.map (settle sequence outcome failure now) = early := by
    apply (map_congr_left _).trans (map_id early)
    intro other member
    have below := increasing.2.2 other member row mem_cons_self
    rw [settle, if_neg (by omega), id]
  rw [rows, map_append, untouched, map_singleton, settle, if_pos here]

variable {outcome : AttemptOutcome}

section Keeping
variable {attempts : List AttemptRow}

section
variable (sound : operation.Sound replay maxAttempts)
include sound

/-- Settling the attempt in flight leaves the order, leaves nothing in flight, and moves
the charge of that one attempt only. -/
theorem Operation.Sound.land (found : operation.state = some state) (flying : state.inFlight)
    (ended : outcome ≠ .inFlight) (failure : Option NetworkFailure) (now : Nat) :
    ∃ (early : List AttemptRow) (row : AttemptRow),
      operation.attempts.map (settle state.sequence outcome failure now) =
        early ++ [{ row with outcome := outcome, failure := failure, finishedMs := some now }] ∧
      (operation.attempts.map (settle state.sequence outcome failure now)).Pairwise
        (fun earlier later => earlier.sequence < later.sequence) ∧
      (∀ other ∈ operation.attempts.map (settle state.sequence outcome failure now),
        other.outcome ≠ .inFlight) ∧
      chargedAttempts operation.attempts = chargedAttempts early + 1 := by
  have outstanding := outstanding_eq_some.mpr ⟨state, found, flying, rfl⟩
  rcases sound.settle_last outstanding outcome failure now with
    ⟨early, row, rows, here, inFlight, others, settled⟩
  have increasing := sound.increasing
  rw [rows, pairwise_append] at increasing
  have wasCharged : row.charged := by simp [AttemptRow.charged, inFlight]
  refine ⟨early, row, settled, ?_, ?_, ?_⟩
  · rw [settled]
    apply pairwise_concat increasing.1
    exact fun other member => increasing.2.2 other member row mem_cons_self
  · rw [settled]
    exact forall_mem_concat others ended
  · rw [rows, chargedAttempts, countP_append, countP_singleton, if_pos wasCharged]
    rfl

theorem Operation.Sound.fail {next : QueueState} (found : operation.state = some state)
    (flying : state.inFlight) {failure : NetworkFailure} (failing : Failing state failure next)
    (ended : outcome ≠ .inFlight)
    (charges : (outcome == .failed && failure.disconnected) = failure.disconnected) (now : Nat) :
    Operation.Sound replay maxAttempts
      ⟨some next, operation.attempts.map (settle state.sequence outcome (some failure) now)⟩ := by
  rcases sound.land found flying ended (some failure) now with
    ⟨early, row, settled, increasing, ends, before⟩
  have landed : Operation.outstanding ⟨some next, operation.attempts.map
      (settle state.sequence outcome (some failure) now)⟩ = none :=
    outstanding_of_landed failing.landed
  have policy := sound.policy state found
  constructor
  · exact increasing
  · exact fun _ => ends
  · intro sequence present
    rw [landed] at present
    cases present
  · intro _ same
    cases same
    exact ⟨failing.replay.trans policy.1, failing.maxAttempts.trans policy.2⟩
  · intro _ same _
    cases same
    exact failing.landed
  · intro mode
    have budget := sound.budget mode
    have going : state.stopped = false := by
      by_contra stopped
      have := sound.halted state found (by simpa using stopped)
      rw [flying] at this
      cases this
    have counted := budget.counted state found going
    have within := budget.within state found
    -- A disconnect is not charged to the budget, any other failure is.
    have after : chargedAttempts (operation.attempts.map
        (settle state.sequence outcome (some failure) now)) =
        chargedAttempts early + (if failure.disconnected then 0 else 1) := by
      rw [settled, chargedAttempts, countP_append, countP_singleton]
      simp only [AttemptRow.charged, Option.any_some, charges]
      cases failure.disconnected <;> rfl
    rw [if_pos flying] at counted
    constructor
    · rw [after]
      split <;> omega
    · intro idle
      cases idle
    · intro _ same
      cases same
      rcases failing.decided with ⟨_, same⟩ | ⟨_, _, held, spent⟩
      · omega
      · cases disconnected : failure.disconnected with
        | true => rw [held disconnected]; exact within
        | false =>
          have := spent disconnected (by rw [policy.1, mode]; simp)
          rw [policy.2] at this
          omega
    · intro _ same onward
      cases same
      have resting : (if next.inFlight = true then 0 else 1) = 1 := by rw [failing.landed]; rfl
      rw [after, resting]
      rcases failing.decided with ⟨stops, _⟩ | ⟨_, _, held, spent⟩
      · rw [stops] at onward
        cases onward
      · cases disconnected : failure.disconnected with
        | true =>
          have := held disconnected
          simp only [if_true]
          omega
        | false =>
          have := (spent disconnected (by rw [policy.1, mode]; simp)).2
          simp only [Bool.false_eq_true, if_false]
          omega

/-- The state that `prepare` decides on is one of the operation with nothing in flight. -/
theorem Operation.Sound.settled
    (settled : Settled replay maxAttempts now operation current attempts) :
    Operation.Sound replay maxAttempts ⟨some current, attempts⟩ ∧ current.inFlight = false := by
  have wrote := settled.wrote
  cases found : operation.state with
  | none =>
    rw [found, Option.getD_none, Operation.writtenOff, if_neg (by simp [initialState])] at wrote
    cases wrote
    have idle : operation.outstanding = none := by simp [Operation.outstanding, found]
    refine ⟨⟨sound.increasing, fun _ => sound.landed idle, ?_, ?_, ?_, ?_⟩, rfl⟩
    · intro _ present
      rw [outstanding_of_landed rfl] at present
      cases present
    · intro state same
      cases same
      exact ⟨rfl, rfl⟩
    · intro state same _
      cases same
      rfl
    · intro mode
      -- Without a state there are no attempts, unless the operation has already completed.
      have nothing : operation.attempts = [] := by
        rcases (sound.budget mode).idle found with empty | done
        · exact empty
        · exact absurd ⟨found, mode, done⟩ settled.fresh
      refine ⟨(sound.budget mode).bounded, fun idle => (nomatch idle), ?_, ?_⟩
      · intro state same
        cases same
        exact le_max_right _ _
      · intro state same _
        cases same
        change chargedAttempts operation.attempts + _ = _
        rw [nothing]
        rfl
  | some state =>
    rw [found, Option.getD_some, Operation.writtenOff] at wrote
    by_cases flying : state.inFlight = true
    · rw [if_pos flying] at wrote
      cases wrote
      have failing := applyFailure_failing state interrupted now
      exact ⟨sound.fail found flying failing (by decide) rfl now, failing.landed⟩
    · rw [if_neg flying] at wrote
      obtain ⟨rfl, rfl⟩ := Prod.mk.inj wrote
      have same : operation = ⟨some state, operation.attempts⟩ := by rw [← found]
      exact ⟨same ▸ sound, Bool.eq_false_iff.mpr flying⟩

end

theorem lastSequence_ge {row : AttemptRow} (member : row ∈ attempts) :
    row.sequence ≤ lastSequence attempts :=
  le_foldl_max (Or.inr (mem_map_of_mem member))

theorem ready_sound (sound : Operation.Sound replay maxAttempts ⟨some current, attempts⟩)
    (landed : current.inFlight = false) (going : current.stopped = false) :
    Operation.Sound replay maxAttempts
      ⟨some { current with sequence := lastSequence attempts + 1, inFlight := true },
        attempts ++ [⟨hash, lastSequence attempts + 1, now, none, .inFlight, none⟩]⟩ := by
  constructor
  · apply pairwise_concat sound.increasing
    exact fun row member => Nat.lt_succ_of_le (lastSequence_ge member)
  · intro idle
    cases idle
  · intro _ present
    refine ⟨attempts, _, rfl, Option.some.inj present, rfl, ?_⟩
    exact sound.landed (outstanding_of_landed landed)
  · intro _ same
    cases same
    exact sound.policy current rfl
  · intro _ same stopped
    cases same
    rw [going] at stopped
    cases stopped
  · intro mode
    have budget := sound.budget mode
    have counted := budget.counted current rfl going
    have within := budget.within current rfl
    rw [if_neg (by simp [landed])] at counted
    change chargedAttempts attempts + 1 = current.attempt at counted
    have after : chargedAttempts (attempts ++
        [⟨hash, lastSequence attempts + 1, now, none, .inFlight, none⟩]) =
        chargedAttempts attempts + 1 := by
      rw [chargedAttempts, countP_append]
      rfl
    constructor
    · change chargedAttempts (attempts ++ _) ≤ _
      omega
    · intro idle
      cases idle
    · intro _ same
      cases same
      exact within
    · intro _ same _
      cases same
      change chargedAttempts (attempts ++ _) + 0 = current.attempt
      omega

end Keeping

end WinWinCode.Network
