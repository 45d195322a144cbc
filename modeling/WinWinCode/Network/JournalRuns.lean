import WinWinCode.Network.AttemptSafety

/-!
Runs of the request journal. A run is any sequence of calls on the journal, with the
journal reopened at any point; a call that fails leaves the tables as they were. Each
call leaves a note: what `prepare` wrote off and answered, or which attempt `finish`
finished. The notes of one operation are in an order that no later call can break.
-/

namespace WinWinCode.Network

open Counting Fallible Programs Tables List Runs

inductive JournalCall where
  | prepare (operation : List UInt8) (replay : Replay) (maxAttempts : UInt32)
      (readings : ClockReadings)
  | finish (operation : List UInt8) (sequence : Nat) (failure : Option NetworkFailure)
      (readings : ClockReadings) (maxDelay : Option Nat)
  | bindEnvelope (operation : List UInt8) (cursor : EnvelopeCursor)
  | retryDelay (operation : List UInt8) (readings : ClockReadings)
  | resumeControlAuthentication
  | reopen

/-- The journal after a call. A crash loses the process with its clock, not the tables. -/
def performJournal (key : List UInt8 → String) (journal : RequestJournal) :
    JournalCall → RequestJournal
  | .prepare operation replay maxAttempts readings =>
    (prepare key operation replay maxAttempts readings journal).1
  | .finish operation sequence failure readings maxDelay =>
    (finishWithDelayCap key operation sequence failure readings maxDelay journal).1
  | .bindEnvelope operation cursor => (bindEnvelope key operation cursor journal).1
  | .retryDelay operation readings => (retryDelay key operation readings journal).1
  | .resumeControlAuthentication => (resumeControlAuthentication journal).1
  | .reopen => openJournal journal.tables

inductive JournalNote where
  | prepared (operation : String) (abandoned : Option Nat) (permit : QueuePermit)
  | refused (operation : String)
  | finished (operation : String) (sequence : Nat) (failure : Option NetworkFailure)
  | silent
deriving DecidableEq

def noteOf (key : List UInt8 → String) (journal : RequestJournal) : JournalCall → JournalNote
  | .prepare operation replay maxAttempts readings =>
    match (prepare key operation replay maxAttempts readings journal).2 with
    | .ok permit =>
      .prepared (key operation) (journal.tables.view (key operation)).outstanding permit
    | .error _ => .refused (key operation)
  | .finish operation sequence failure readings maxDelay =>
    match (finishWithDelayCap key operation sequence failure readings maxDelay journal).2 with
    | .ok _ => .finished (key operation) sequence failure
    | .error _ => .silent
  | .bindEnvelope _ _ => .silent
  | .retryDelay _ _ => .silent
  | .resumeControlAuthentication => .silent
  | .reopen => .silent

/-- The operation is always prepared with one replay mode and one bound. -/
def JournalCall.Fixed (key : List UInt8 → String) (hash : String) (replay : Replay)
    (maxAttempts : UInt32) : JournalCall → Prop
  | .prepare operation mode bound _ => key operation = hash → mode = replay ∧ bound = maxAttempts
  | .finish _ _ _ _ _ => True
  | .bindEnvelope _ _ => True
  | .retryDelay _ _ => True
  | .resumeControlAuthentication => True
  | .reopen => True

inductive Halted (replay : Replay) (maxAttempts : UInt32) (operation : Operation) :
    NetworkFailure → Prop
  | stopped (state : QueueState) (found : operation.state = some state)
      (stops : state.stopped = true) (landed : state.inFlight = false)
      (policy : state.replay = replay ∧ state.maxAttempts = maxAttempts) :
      Halted replay maxAttempts operation state.failure
  | completed (idle : operation.state = none) (mode : replay = .retryInference)
      (done : ∃ row ∈ operation.attempts, row.outcome = .completed) :
      Halted replay maxAttempts operation completedBefore

inductive Moves (hash : String) (replay : Replay) (maxAttempts : UInt32) (operation : Operation) :
    JournalNote → Operation → Prop
  | prepared (now : Nat) (next : Operation) (permit : QueuePermit)
      (moved : Prepared hash replay maxAttempts now operation next permit) :
      Moves hash replay maxAttempts operation (.prepared hash operation.outstanding permit) next
  | refused (going : ∀ failure, ¬ Halted replay maxAttempts operation failure) :
      Moves hash replay maxAttempts operation (.refused hash) operation
  | finished (now sequence : Nat) (maxDelay : Option Nat) (failure : Option NetworkFailure)
      (next : Operation) (moved : Finished sequence maxDelay now operation failure next) :
      Moves hash replay maxAttempts operation (.finished hash sequence failure) next
  | elsewhere (note : JournalNote)
      (apart : ∀ other abandoned permit sequence failure, other = hash →
        note ≠ .prepared other abandoned permit ∧ note ≠ .refused other ∧
          note ≠ .finished other sequence failure) :
      Moves hash replay maxAttempts operation note operation
  | resumed (state : QueueState) (found : operation.state = some state)
      (control : stoppedByCredentials state = true) :
      Moves hash replay maxAttempts operation .silent ⟨none, operation.attempts⟩

variable (journal : RequestJournal) {failure : NetworkFailure}

section Calls
variable {key : List UInt8 → String} {hash : String} {replay : Replay} {maxAttempts : UInt32}

theorem transaction_cases {Answer : Type}
    (change : JournalTables → Except NetworkFailure (JournalTables × Answer))
    (journal : RequestJournal) : (∃ failure, change journal.tables = .error failure ∧
      transaction change journal = (journal, .error failure)) ∨
    (∃ next answer, change journal.tables = .ok (next, answer) ∧
      transaction change journal = ({ journal with tables := next }, .ok answer)) := by
  unfold transaction
  cases change journal.tables with
  | error failure => exact .inl ⟨failure, rfl, rfl⟩
  | ok done => exact .inr ⟨done.1, done.2, rfl, rfl⟩

theorem prepareTables_halted {tables : JournalTables}
    (halted : Halted replay maxAttempts (tables.view hash) failure) (now : Nat) :
    ∃ next, prepareTables hash replay maxAttempts now tables = .ok (next, .stopped failure) := by
  cases halted with
  | completed idle mode done =>
    refine ⟨tables, ?_⟩
    exact if_pos ⟨idle, mode, JournalTables.hasCompleted_iff.mpr done⟩
  | stopped state found stops landed policy =>
    change tables.queueState hash = some state at found
    obtain ⟨saved, ran, _⟩ := tables.saveState_eq hash state
    refine ⟨saved, ?_⟩
    have same : ¬ (state.replay ≠ replay ∨ state.maxAttempts ≠ maxAttempts) := by
      simp [policy.1, policy.2]
    unfold prepareTables
    dsimp only
    rw [if_neg (by simp [found]), found, Option.getD_some, refuse_bind_of_not same, writeOff,
      if_neg (by simp [landed])]
    change issuePermit hash now tables state = _
    rw [issuePermit, if_pos stops, ran]
    rfl

theorem prepare_moves (operation : List UInt8) (mode : Replay) (bound : UInt32)
    (readings : ClockReadings)
    (fixed : (JournalCall.prepare operation mode bound readings).Fixed key hash replay maxAttempts) :
    Moves hash replay maxAttempts (journal.tables.view hash)
      (noteOf key journal (.prepare operation mode bound readings))
      ((performJournal key journal (.prepare operation mode bound readings)).tables.view hash) := by
  let started := (monotonicNow readings journal).1
  obtain ⟨now, ran⟩ : ∃ now, prepare key operation mode bound readings journal =
      transaction (prepareTables (key operation) mode bound now) started := ⟨_, rfl⟩
  simp only [performJournal, noteOf, ran]
  rcases transaction_cases (prepareTables (key operation) mode bound now) started with
    ⟨failure, refused, left⟩ | ⟨next, permit, done, left⟩
  · rw [left]
    by_cases here : key operation = hash
    · obtain ⟨rfl, rfl⟩ := fixed here
      subst here
      apply Moves.refused
      intro _ halted
      obtain ⟨next, answered⟩ := prepareTables_halted halted now
      rw [show started.tables = journal.tables from rfl, answered] at refused
      cases refused
    · exact .elsewhere _ (by simp +contextual [here])
  · rw [left]
    obtain ⟨moved, others⟩ := prepareTables_moves done
    by_cases here : key operation = hash
    · obtain ⟨rfl, rfl⟩ := fixed here
      subst here
      exact Moves.prepared now (next.view _) permit moved
    · have unmoved : next.view hash = journal.tables.view hash := others hash (Ne.symm here)
      rw [unmoved]
      exact .elsewhere _ (by simp +contextual [here])

theorem finish_moves (operation : List UInt8) (sequence : Nat) (failure : Option NetworkFailure)
    (readings : ClockReadings) (maxDelay : Option Nat) :
    Moves hash replay maxAttempts (journal.tables.view hash)
      (noteOf key journal (.finish operation sequence failure readings maxDelay))
      ((performJournal key journal
        (.finish operation sequence failure readings maxDelay)).tables.view hash) := by
  let started := (monotonicNow readings journal).1
  obtain ⟨now, ran⟩ : ∃ now, finishWithDelayCap key operation sequence failure readings maxDelay
      journal = transaction (finishTables (key operation) sequence failure maxDelay now) started :=
    ⟨_, rfl⟩
  simp only [performJournal, noteOf, ran]
  rcases transaction_cases (finishTables (key operation) sequence failure maxDelay now) started with
    ⟨_, _, left⟩ | ⟨next, _, done, left⟩
  · rw [left]
    exact Moves.elsewhere _ fun _ _ _ _ _ _ => ⟨nofun, nofun, nofun⟩
  · rw [left]
    obtain ⟨moved, others⟩ := finishTables_moves done
    by_cases here : key operation = hash
    · subst here
      exact Moves.finished now sequence maxDelay failure (next.view _) moved
    · have unmoved : next.view hash = journal.tables.view hash := others hash (Ne.symm here)
      rw [unmoved]
      exact .elsewhere _ (by simp +contextual [here])

theorem queueState_resumed (tables : JournalTables) (hash : String) :
    ((tables.queue.deleteWhere (stoppedByCredentials ·.state)).find
      (·.operationHash == hash)).map QueueRow.state =
      (tables.queueState hash).filter fun state => !stoppedByCredentials state := by
  have unique : ∀ left ∈ tables.queue.rows, ∀ right ∈ tables.queue.rows,
      (left.operationHash == hash) = true → (right.operationHash == hash) = true →
      left = right := by
    intro _ leftIn _ rightIn leftHere rightHere
    apply tables.queue.eq_of_clash (fun _ _ clash => clash.symm) leftIn rightIn
    exact (beq_iff_eq.mp leftHere).trans (beq_iff_eq.mp rightHere).symm
  rw [tables.queue.find_deleteWhere_unique unique, JournalTables.queueState]
  cases tables.queue.find (·.operationHash == hash) with
  | none => rfl
  | some _ =>
    rw [Option.filter_some, Option.map_some, Option.filter_some]
    split <;> rfl

theorem performJournal_moves (call : JournalCall) (fixed : call.Fixed key hash replay maxAttempts) :
    Moves hash replay maxAttempts (journal.tables.view hash) (noteOf key journal call)
      ((performJournal key journal call).tables.view hash) := by
  have silent : Moves hash replay maxAttempts (journal.tables.view hash) .silent
      (journal.tables.view hash) :=
    Moves.elsewhere _ fun _ _ _ _ _ _ => ⟨nofun, nofun, nofun⟩
  cases call with
  | prepare operation mode bound readings =>
    exact prepare_moves journal operation mode bound readings fixed
  | finish operation sequence failure readings maxDelay =>
    exact finish_moves journal operation sequence failure readings maxDelay
  | bindEnvelope operation cursor =>
    simp only [performJournal, noteOf, bindEnvelope]
    rcases transaction_cases (bindTables (key operation) cursor) journal with
      ⟨_, _, left⟩ | ⟨next, _, done, left⟩
    · rw [left]
      exact silent
    · rw [left]
      simp only [bindTables, eq_ok, Prod.mk.injEq] at done
      obtain ⟨_, _, _, _, _, _, rfl, _⟩ := done
      exact silent
  | retryDelay _ _ | reopen => exact silent
  | resumeControlAuthentication =>
    have view : (performJournal key journal .resumeControlAuthentication).tables.view hash =
        ⟨(journal.tables.queueState hash).filter fun state => !stoppedByCredentials state,
          journal.tables.attemptsOf hash⟩ := by
      rw [← queueState_resumed]
      rfl
    rw [view]
    cases found : journal.tables.queueState hash with
    | none =>
      rw [JournalTables.view, found] at silent ⊢
      exact silent
    | some state =>
      rw [Option.filter_some]
      cases control : stoppedByCredentials state with
      | true => exact Moves.resumed state found control
      | false =>
        rw [JournalTables.view, found] at silent ⊢
        exact silent

end Calls

/-! One step of an operation. -/

variable {permit : QueuePermit}

section Steps
variable {hash : String} {replay : Replay} {maxAttempts : UInt32} {operation next : Operation}
  {note : JournalNote}

theorem Operation.Sound.complete (sound : operation.Sound replay maxAttempts) {state : QueueState}
    (found : operation.state = some state) (flying : state.inFlight) (now : Nat) :
    Operation.Sound replay maxAttempts
      ⟨none, operation.attempts.map (settle state.sequence .completed none now)⟩ := by
  have ended : AttemptOutcome.completed ≠ .inFlight := by decide
  rcases sound.land found flying ended none now with
    ⟨early, row, settled, increasing, ends, before⟩
  constructor
  · exact increasing
  · exact fun _ => ends
  · exact fun _ present => nomatch present
  · exact fun _ same => nomatch same
  · exact fun _ same => nomatch same
  · intro mode
    have bounded := (sound.budget mode).bounded
    refine ⟨?_, fun _ => Or.inr ?_, fun _ same => (nomatch same), fun _ same => (nomatch same)⟩
    · change chargedAttempts (operation.attempts.map _) ≤ _
      rw [settled, chargedAttempts, countP_append]
      change chargedAttempts early + 1 ≤ _
      omega
    · change ∃ row ∈ operation.attempts.map _, _
      rw [settled]
      exact ⟨_, mem_append_right _ mem_cons_self, rfl⟩

def Kept (early late : List AttemptRow) : Prop :=
  ∀ row ∈ early, ∃ kept ∈ late, kept.sequence = row.sequence ∧
    (row.outcome ≠ .inFlight → kept.outcome ≠ .inFlight)

theorem kept_refl (attempts : List AttemptRow) : Kept attempts attempts :=
  fun row member => ⟨row, member, rfl, id⟩

variable {failure : Option NetworkFailure} {sequence now : Nat}

theorem kept_settle (attempts : List AttemptRow) {outcome : AttemptOutcome}
    (ended : outcome ≠ .inFlight) :
    Kept attempts (attempts.map (settle sequence outcome failure now)) := by
  intro _ member
  refine ⟨_, mem_map_of_mem member, ?_, ?_⟩
  · unfold settle
    split <;> rfl
  · intro done
    unfold settle
    split
    · exact ended
    · exact done

theorem Settled.kept {current : QueueState} {attempts : List AttemptRow}
    (settled : Settled replay maxAttempts now operation current attempts) :
    Kept operation.attempts attempts := by
  have wrote := settled.wrote
  unfold Operation.writtenOff at wrote
  split at wrote
  · cases wrote
    exact kept_settle operation.attempts nofun
  · cases wrote
    exact kept_refl operation.attempts

def Issued (operation : Operation) (sequence : Nat) : Prop :=
  ∃ row ∈ operation.attempts, row.sequence = sequence

def Decided (operation : Operation) (sequence : Nat) : Prop :=
  ∃ row ∈ operation.attempts, row.sequence = sequence ∧ row.outcome ≠ .inFlight

section
variable (moves : Moves hash replay maxAttempts operation note next)
include moves

theorem Moves.sound (sound : operation.Sound replay maxAttempts) :
    next.Sound replay maxAttempts := by
  cases moves with
  | prepared now next permit moved =>
    cases moved with
    | completed => exact sound
    | stopped current attempts settled halted
    | waiting current attempts delay settled going => exact (sound.settled settled).1
    | ready current attempts settled going =>
      have kept := sound.settled settled
      exact ready_sound kept.1 kept.2 going
  | refused | elsewhere => exact sound
  | finished now sequence maxDelay failure next moved =>
    cases moved with
    | completed state found flying current =>
      subst current
      exact sound.complete found flying now
    | failed state failure found flying current =>
      subst current
      have ended : AttemptOutcome.failed ≠ .inFlight := by decide
      exact sound.fail found flying (failedState_failing state failure now maxDelay) ended rfl now
  | resumed state found control =>
    have policy := sound.policy state found
    simp only [stoppedByCredentials, Bool.and_eq_true, beq_iff_eq] at control
    obtain ⟨⟨stops, exact_⟩, _⟩ := control
    have idle : operation.outstanding = none := by
      simp [Operation.outstanding, found, sound.halted state found stops]
    refine ⟨sound.increasing, fun _ => sound.landed idle, by rintro _ ⟨⟩, by rintro _ ⟨⟩,
      by rintro _ ⟨⟩, ?_⟩
    intro mode
    rw [← policy.1, exact_] at mode
    cases mode

theorem Moves.kept : Kept operation.attempts next.attempts := by
  cases moves with
  | prepared _ _ _ moved =>
    cases moved with
    | completed => exact kept_refl _
    | stopped _ _ settled _ | waiting _ _ _ settled _ => exact settled.kept
    | ready _ _ settled _ =>
      intro row member
      obtain ⟨kept, present, same⟩ := settled.kept row member
      exact ⟨kept, mem_append_left _ present, same⟩
  | refused | elsewhere | resumed => exact kept_refl _
  | finished _ _ _ _ _ moved =>
    cases moved with
    | completed | failed => exact kept_settle _ nofun

theorem Moves.issued (issued : Issued operation sequence) : Issued next sequence := by
  obtain ⟨row, member, same⟩ := issued
  obtain ⟨kept, present, equal, _⟩ := moves.kept row member
  exact ⟨kept, present, equal.trans same⟩

theorem Moves.decided (decided : Decided operation sequence) : Decided next sequence := by
  obtain ⟨row, member, same, ended⟩ := decided
  obtain ⟨kept, present, equal, still⟩ := moves.kept row member
  exact ⟨kept, present, equal.trans same, still ended⟩

end

section
variable (sound : operation.Sound replay maxAttempts) {current : Nat}
  (flying : operation.outstanding = some current)
include sound flying

/-- The attempt in flight is the latest one. -/
theorem Operation.Sound.latest {row : AttemptRow} (member : row ∈ operation.attempts) :
    row.sequence < current ∨ row.sequence = current ∧ row.outcome = .inFlight := by
  obtain ⟨_, last, rows, rfl, inFlight, _⟩ := sound.flying current flying
  have increasing := sound.increasing
  rw [rows, pairwise_append] at increasing
  rw [rows] at member
  rcases mem_append.mp member with earlier | same
  · exact .inl (increasing.2.2 row earlier last mem_cons_self)
  · rw [mem_singleton.mp same]
    exact .inr ⟨rfl, inFlight⟩

theorem Operation.Sound.issued_le (issued : Issued operation sequence) : sequence ≤ current := by
  obtain ⟨_, member, rfl⟩ := issued
  exact (sound.latest flying member).elim le_of_lt fun last => last.1.le

theorem Operation.Sound.decided_ne (decided : Decided operation sequence) : sequence ≠ current := by
  obtain ⟨_, member, rfl, ended⟩ := decided
  exact (sound.latest flying member).elim Nat.ne_of_lt fun last => absurd last.2 ended

end

variable {maxDelay : Option Nat}

theorem Finished.outstanding (moved : Finished sequence maxDelay now operation failure next) :
    operation.outstanding = some sequence := by
  cases moved with
  | completed state found flying current | failed state _ found flying current =>
    exact outstanding_eq_some.mpr ⟨state, found, flying, current⟩

variable {failure : NetworkFailure}

theorem Halted.outstanding
    (halted : Halted replay maxAttempts operation failure) : operation.outstanding = none := by
  cases halted with
  | stopped _ found _ landed => simp [Operation.outstanding, found, landed]
  | completed idle => simp [Operation.outstanding, idle]

theorem Prepared.of_halted (moved : Prepared hash replay maxAttempts now operation next permit)
    (halted : Halted replay maxAttempts operation failure) :
    permit = .stopped failure ∧ Halted replay maxAttempts next failure := by
  have settles : ∀ current attempts, Settled replay maxAttempts now operation current attempts →
      current.stopped = true ∧ current.failure = failure ∧
        Halted replay maxAttempts ⟨some current, attempts⟩ failure := by
    intro current attempts settled
    cases halted with
    | completed idle mode done => exact absurd ⟨idle, mode, done⟩ settled.fresh
    | stopped state found stops landed policy =>
      have wrote := settled.wrote
      rw [found, Option.getD_some, Operation.writtenOff, if_neg (by simp [landed])] at wrote
      obtain ⟨rfl, rfl⟩ := Prod.mk.inj wrote
      exact ⟨stops, rfl, .stopped state rfl stops landed policy⟩
  cases moved with
  | completed idle mode done =>
    cases halted with
    | completed => exact ⟨rfl, .completed idle mode done⟩
    | stopped _ found =>
      rw [idle] at found
      cases found
  | stopped current attempts settled stops =>
    obtain ⟨_, same, kept⟩ := settles current attempts settled
    exact ⟨by rw [same], kept⟩
  | waiting current attempts _ settled going | ready current attempts settled going =>
    have stops := (settles current attempts settled).1
    rw [going] at stops
    cases stops

/-- An operation that has ended stays ended, and says so to every later `prepare`. -/
theorem Moves.of_halted (mode : replay ≠ .replayExact)
    (moves : Moves hash replay maxAttempts operation note next)
    (halted : Halted replay maxAttempts operation failure) :
    Halted replay maxAttempts next failure ∧ note ≠ .refused hash ∧
      ∀ abandoned permit, note = .prepared hash abandoned permit → permit = .stopped failure := by
  cases moves with
  | prepared _ _ permit moved =>
    obtain ⟨answer, kept⟩ := moved.of_halted halted
    refine ⟨kept, nofun, ?_⟩
    rintro abandoned other same
    cases same
    exact answer
  | refused going => exact absurd halted (going failure)
  | finished _ _ _ _ _ moved =>
    have flying := moved.outstanding
    rw [halted.outstanding] at flying
    cases flying
  | elsewhere _ apart =>
    have other := fun abandoned permit => apart hash abandoned permit 0 none rfl
    refine ⟨halted, (other none (.ready 0)).2.1, ?_⟩
    intro abandoned permit same
    exact absurd same (other abandoned permit).1
  | resumed _ found control =>
    cases halted with
    | completed idle =>
      rw [idle] at found
      cases found
    | stopped _ same _ _ policy =>
      rw [found, Option.some.injEq] at same
      subst same
      simp only [stoppedByCredentials, Bool.and_eq_true, beq_iff_eq] at control
      exact absurd (policy.1.symm.trans control.1.2) mode

theorem Operation.Sound.settled_row (sound : operation.Sound replay maxAttempts)
    (flying : operation.outstanding = some sequence) (outcome : AttemptOutcome)
    (failure : Option NetworkFailure) (now : Nat) :
    ∃ row ∈ operation.attempts.map (settle sequence outcome failure now),
      row.sequence = sequence ∧ row.outcome = outcome := by
  obtain ⟨_, _, _, same, _, _, rows⟩ := sound.settle_last flying outcome failure now
  rw [rows]
  exact ⟨_, mem_append_right _ mem_cons_self, same, rfl⟩

/-- An attempt that was in flight at a `prepare` is ended after it. Where the request may not be
sent twice, the operation has ended with it. -/
theorem Prepared.abandoned (moved : Prepared hash replay maxAttempts now operation next permit)
    (sound : operation.Sound replay maxAttempts) (flying : operation.outstanding = some sequence) :
    Decided next sequence ∧ (replay = .reconcileFirst →
      ∃ failure, permit = .stopped failure ∧ Halted replay maxAttempts next failure) := by
  obtain ⟨state, found, inFlight, here⟩ := outstanding_eq_some.mp flying
  have policy := sound.policy state found
  have settles : ∀ current attempts, Settled replay maxAttempts now operation current attempts →
      Decided ⟨some current, attempts⟩ sequence ∧
        (replay = .reconcileFirst → current.stopped = true) := by
    intro current attempts settled
    have wrote := settled.wrote
    rw [found, Option.getD_some, Operation.writtenOff, if_pos inFlight, here] at wrote
    cases wrote
    constructor
    · obtain ⟨row, member, same, ended⟩ := sound.settled_row flying .unknown (some interrupted) now
      exact ⟨row, member, same, by rw [ended]; rintro ⟨⟩⟩
    · intro mode
      rcases (applyFailure_failing state interrupted now).decided with ⟨stops, _⟩ | ⟨_, sent, _⟩
      · exact stops
      · cases sent (policy.1.trans mode)
  cases moved with
  | completed idle =>
    rw [idle] at found
    cases found
  | stopped current attempts settled stops =>
    refine ⟨(settles current attempts settled).1, fun _ => ⟨current.failure, rfl, ?_⟩⟩
    have kept := sound.settled settled
    exact .stopped current rfl stops kept.2 (kept.1.policy current rfl)
  | waiting current attempts _ settled going =>
    refine ⟨(settles current attempts settled).1, fun mode => ?_⟩
    have stops := (settles current attempts settled).2 mode
    rw [going] at stops
    cases stops
  | ready current attempts settled going =>
    constructor
    · obtain ⟨row, member, decided⟩ := (settles current attempts settled).1
      exact ⟨row, mem_append_left _ member, decided⟩
    · intro mode
      have stops := (settles current attempts settled).2 mode
      rw [going] at stops
      cases stops

theorem Finished.leaves {failure : Option NetworkFailure}
    (moved : Finished sequence maxDelay now operation failure next)
    (sound : operation.Sound replay maxAttempts) :
    Decided next sequence ∧ (replay = .retryInference → failure = none →
        Halted replay maxAttempts next completedBefore) ∧
      (replay = .reconcileFirst → ∀ reason, failure = some reason → reason.acceptance ≠ .notSent →
        Halted replay maxAttempts next reason) := by
  have flying := moved.outstanding
  cases moved with
  | completed state found _ _ =>
    obtain ⟨done, member, here, completed⟩ := sound.settled_row flying .completed none now
    refine ⟨⟨done, member, here, by rw [completed]; exact nofun⟩, ?_, ?_⟩
    · exact fun mode _ => .completed rfl mode ⟨done, member, completed⟩
    · exact fun _ _ failed => nomatch failed
  | failed state failure found _ _ =>
    have failing := failedState_failing state failure now maxDelay
    have policy := sound.policy state found
    obtain ⟨row, member, here, ended⟩ := sound.settled_row flying .failed (some failure) now
    refine ⟨⟨row, member, here, ?_⟩, fun _ none_ => (nomatch none_), ?_⟩
    · rw [ended]
      exact nofun
    · rintro mode reason same sent
      cases same
      rcases failing.decided with ⟨stops, _⟩ | ⟨_, unsent, _⟩
      · have halted := @Halted.stopped _ _ ⟨some (failedState state failure now maxDelay),
            operation.attempts.map (settle sequence .failed (some failure) now)⟩ _ rfl stops
            failing.landed ⟨failing.replay.trans policy.1, failing.maxAttempts.trans policy.2⟩
        rwa [failing.reason] at halted
      · exact absurd (unsent (policy.1.trans mode)) sent

theorem Prepared.stopped_halts
    (moved : Prepared hash replay maxAttempts now operation next (.stopped failure))
    (sound : operation.Sound replay maxAttempts) : Halted replay maxAttempts next failure := by
  cases moved with
  | completed idle mode done => exact .completed idle mode done
  | stopped current _ settled stops =>
    have kept := sound.settled settled
    exact .stopped current rfl stops kept.2 (kept.1.policy current rfl)

theorem Prepared.ready_above
    (moved : Prepared hash replay maxAttempts now operation next (.ready sequence)) :
    Issued next sequence ∧ ∀ earlier, Issued operation earlier → earlier < sequence := by
  cases moved with
  | ready _ _ settled _ =>
    constructor
    · exact ⟨_, mem_append_right _ mem_cons_self, rfl⟩
    · rintro _ ⟨row, member, rfl⟩
      obtain ⟨kept, present, same, _⟩ := settled.kept row member
      rw [← same]
      exact Nat.lt_succ_of_le (lastSequence_ge present)

end Steps

/-! The log of a run. -/

/-- What two notes of one operation, the second later in the run, never say together. -/
structure Ordered (hash : String) (replay : Replay) (early late : JournalNote) : Prop where
  increasing : ∀ abandoned first abandoned' second,
    early = .prepared hash abandoned (.ready first) →
    late = .prepared hash abandoned' (.ready second) → first < second
  finishedOnce : ∀ first failure second failure', early = .finished hash first failure →
    late = .finished hash second failure' → first ≠ second
  notSuperseded : ∀ abandoned issued finished failure,
    early = .prepared hash abandoned (.ready issued) →
    late = .finished hash finished failure → issued ≤ finished
  notWrittenOff : ∀ abandoned permit finished failure,
    early = .prepared hash (some abandoned) permit →
    late = .finished hash finished failure → abandoned ≠ finished
  completedLast : replay = .retryInference → ∀ sequence abandoned next,
    early = .finished hash sequence none → late ≠ .prepared hash abandoned (.ready next)
  unresolvedLast : replay = .reconcileFirst → ∀ sequence failure abandoned next,
    failure.acceptance ≠ .notSent → early = .finished hash sequence (some failure) →
    late ≠ .prepared hash abandoned (.ready next)
  abandonedLast : replay = .reconcileFirst → ∀ sequence permit abandoned next,
    early = .prepared hash (some sequence) permit →
    late ≠ .prepared hash abandoned (.ready next)
  stoppedForever : replay ≠ .replayExact → ∀ abandoned failure,
    early = .prepared hash abandoned (.stopped failure) →
    late ≠ .refused hash ∧
      ∀ abandoned' permit, late = .prepared hash abandoned' permit → permit = .stopped failure

structure Since (hash : String) (replay : Replay) (maxAttempts : UInt32) (note : JournalNote)
    (operation : Operation) : Prop where
  issued : ∀ abandoned sequence, note = .prepared hash abandoned (.ready sequence) →
    Issued operation sequence
  abandoned : ∀ sequence permit, note = .prepared hash (some sequence) permit →
    Decided operation sequence ∧
      (replay = .reconcileFirst → ∃ failure, Halted replay maxAttempts operation failure)
  stopped : replay ≠ .replayExact → ∀ abandoned failure,
    note = .prepared hash abandoned (.stopped failure) →
    Halted replay maxAttempts operation failure
  finished : ∀ sequence failure, note = .finished hash sequence failure →
    Decided operation sequence ∧
      (replay = .retryInference → failure = none →
        Halted replay maxAttempts operation completedBefore) ∧
      (replay = .reconcileFirst → ∀ reason, failure = some reason → reason.acceptance ≠ .notSent →
        Halted replay maxAttempts operation reason)

section Logs
variable {hash : String} {replay : Replay} {maxAttempts : UInt32} {operation next : Operation}
  {note later : JournalNote}

theorem since_of_other (unprepared : ∀ abandoned permit, note ≠ .prepared hash abandoned permit)
    (unfinished : ∀ sequence failure, note ≠ .finished hash sequence failure) :
    Since hash replay maxAttempts note operation where
  issued := fun abandoned _ same => absurd same (unprepared abandoned _)
  abandoned := fun _ permit same => absurd same (unprepared _ permit)
  stopped := fun _ abandoned _ same => absurd same (unprepared abandoned _)
  finished := fun sequence failure same => absurd same (unfinished sequence failure)

theorem Moves.leaves (moves : Moves hash replay maxAttempts operation note next)
    (sound : operation.Sound replay maxAttempts) : Since hash replay maxAttempts note next := by
  cases moves with
  | prepared now next permit moved =>
    constructor
    · intro abandoned sequence same
      cases same
      exact moved.ready_above.1
    · intro sequence answer same
      obtain ⟨_, flying, _⟩ := JournalNote.prepared.inj same
      obtain ⟨decided, ended⟩ := moved.abandoned sound flying
      refine ⟨decided, fun mode => ?_⟩
      obtain ⟨failure, _, halted⟩ := ended mode
      exact ⟨failure, halted⟩
    · intro _ abandoned failure same
      cases same
      exact moved.stopped_halts sound
    · intro sequence failure same
      cases same
  | refused | resumed => exact since_of_other nofun nofun
  | finished now sequence maxDelay failure next moved =>
    refine ⟨fun _ _ same => (nomatch same), fun _ _ same => (nomatch same),
      fun _ _ _ same => (nomatch same), ?_⟩
    intro other reason same
    cases same
    exact moved.leaves sound
  | elsewhere note apart =>
    exact since_of_other (fun abandoned permit => (apart hash abandoned permit 0 none rfl).1)
      (fun sequence failure => (apart hash none (.ready 0) sequence failure rfl).2.2)

section
variable (moves : Moves hash replay maxAttempts operation later next)
include moves

theorem Moves.since (since : Since hash replay maxAttempts note operation) :
    Since hash replay maxAttempts note next := by
  constructor
  · intro abandoned sequence same
    exact moves.issued (since.issued abandoned sequence same)
  · intro sequence permit same
    obtain ⟨decided, ended⟩ := since.abandoned sequence permit same
    refine ⟨moves.decided decided, fun mode => ?_⟩
    obtain ⟨failure, halted⟩ := ended mode
    exact ⟨failure, (moves.of_halted (by rw [mode]; exact nofun) halted).1⟩
  · intro mode abandoned failure same
    exact (moves.of_halted mode (since.stopped mode abandoned failure same)).1
  · intro sequence failure same
    obtain ⟨decided, completed, unresolved⟩ := since.finished sequence failure same
    refine ⟨moves.decided decided, ?_, ?_⟩
    · intro mode success
      exact (moves.of_halted (by rw [mode]; exact nofun) (completed mode success)).1
    · intro mode reason failed sent
      exact (moves.of_halted (by rw [mode]; exact nofun) (unresolved mode reason failed sent)).1

theorem Moves.not_ready (mode : replay ≠ .replayExact)
    (halted : Halted replay maxAttempts operation failure) (abandoned : Option Nat)
    (sequence : Nat) : later ≠ .prepared hash abandoned (.ready sequence) := by
  intro same
  have answer := (moves.of_halted mode halted).2.2 abandoned _ same
  cases answer

theorem Moves.finishes {sequence : Nat} {failure : Option NetworkFailure}
    (same : later = .finished hash sequence failure) : operation.outstanding = some sequence := by
  subst same
  cases moves with
  | finished _ sequence _ failure _ moved => exact moved.outstanding
  | elsewhere _ apart => exact absurd rfl (apart hash none (.ready 0) sequence failure rfl).2.2

theorem Moves.readies {sequence : Nat} {abandoned : Option Nat}
    (same : later = .prepared hash abandoned (.ready sequence)) {earlier : Nat}
    (issued : Issued operation earlier) : earlier < sequence := by
  subst same
  cases moves with
  | prepared _ _ _ moved => exact moved.ready_above.2 earlier issued
  | elsewhere _ apart => exact absurd rfl (apart hash abandoned (.ready sequence) 0 none rfl).1

theorem Moves.ordered (sound : operation.Sound replay maxAttempts)
    (since : Since hash replay maxAttempts note operation) : Ordered hash replay note later := by
  constructor
  · intro abandoned first _ _ early late
    exact moves.readies late (since.issued abandoned first early)
  · intro first failure _ _ early late
    exact sound.decided_ne (moves.finishes late) (since.finished first failure early).1
  · intro abandoned issued finished failure early late
    exact sound.issued_le (moves.finishes late) (since.issued abandoned issued early)
  · intro abandoned permit finished failure early late
    exact sound.decided_ne (moves.finishes late) (since.abandoned abandoned permit early).1
  · intro mode sequence abandoned next early
    have halted := (since.finished sequence none early).2.1 mode rfl
    exact moves.not_ready (by rw [mode]; exact nofun) halted abandoned next
  · intro mode sequence failure abandoned next sent early
    have halted := (since.finished sequence (some failure) early).2.2 mode failure rfl sent
    exact moves.not_ready (by rw [mode]; exact nofun) halted abandoned next
  · intro mode sequence permit abandoned next early
    obtain ⟨failure, halted⟩ := (since.abandoned sequence permit early).2 mode
    exact moves.not_ready (by rw [mode]; exact nofun) halted abandoned next
  · intro mode abandoned failure early
    exact (moves.of_halted mode (since.stopped mode abandoned failure early)).2

end

/-- A request that may not be sent twice is not sent again by the `prepare` that writes it off. -/
theorem Moves.abandoned_not_ready (moves : Moves hash replay maxAttempts operation note next)
    (sound : operation.Sound replay maxAttempts) (mode : replay = .reconcileFirst)
    (abandoned sequence : Nat) : note ≠ .prepared hash (some abandoned) (.ready sequence) := by
  intro same
  subst same
  generalize noted : JournalNote.prepared hash (some abandoned) (.ready sequence) = note at moves
  cases moves with
  | prepared _ _ _ moved =>
    obtain ⟨_, flying, rfl⟩ := JournalNote.prepared.inj noted
    obtain ⟨_, answer, _⟩ := (moved.abandoned sound flying.symm).2 mode
    cases answer
  | refused | finished | resumed => cases noted
  | elsewhere _ apart => exact (apart hash _ _ 0 none rfl).1 noted.symm

end Logs

theorem attempts_safe (key : List UInt8 → String) (operation : List UInt8) (replay : Replay)
    (maxAttempts : UInt32) (calls : List JournalCall)
    (fixed : ∀ call ∈ calls, call.Fixed key (key operation) replay maxAttempts) :
    (log (performJournal key) (noteOf key) (openJournal emptyTables) calls).Pairwise
      (Ordered (key operation) replay) ∧
    (replay = .reconcileFirst →
      ∀ note ∈ log (performJournal key) (noteOf key) (openJournal emptyTables) calls,
        ∀ abandoned sequence, note ≠ .prepared (key operation) (some abandoned) (.ready sequence)) ∧
    (replay = .retryInference →
      chargedAttempts ((after (performJournal key) (openJournal emptyTables)
        calls).tables.attemptsOf (key operation)) ≤ max maxAttempts.toNat 1) := by
  let Inv : RequestJournal → Prop := fun journal =>
    (journal.tables.view (key operation)).Sound replay maxAttempts
  let Fits : JournalCall → Prop := (·.Fixed key (key operation) replay maxAttempts)
  have start : Inv (openJournal emptyTables) := by
    refine ⟨List.Pairwise.nil, fun _ => forall_mem_nil _, fun _ present => (nomatch present),
      fun _ same => (nomatch same), fun _ same => (nomatch same), fun _ => ?_⟩
    exact ⟨Nat.zero_le _, fun _ => Or.inl rfl, fun _ same => (nomatch same),
      fun _ same => (nomatch same)⟩
  have keeps : ∀ journal call, Fits call → Inv journal → Inv (performJournal key journal call) :=
    fun journal call fits sound => (performJournal_moves journal call fits).sound sound
  refine ⟨?_, ?_, ?_⟩
  · apply log_pairwise (performJournal key) Fits keeps start calls fixed fun note journal =>
      Since (key operation) replay maxAttempts note (journal.tables.view (key operation))
    · intro note journal call fits _ since
      exact (performJournal_moves journal call fits).since since
    · intro note journal call fits sound since
      exact (performJournal_moves journal call fits).ordered sound since
    · intro journal call fits sound
      exact (performJournal_moves journal call fits).leaves sound
  · intro mode
    apply log_all (performJournal key) Fits keeps start calls fixed fun note : JournalNote =>
      ∀ abandoned sequence : Nat,
        note ≠ .prepared (key operation) (some abandoned) (.ready sequence)
    intro journal call fits sound
    exact (performJournal_moves journal call fits).abandoned_not_ready sound mode
  · intro mode
    have sound := after_invariant_of (performJournal key) Fits keeps start calls fixed
    exact (sound.budget mode).bounded

def sampleCalls : List JournalCall :=
  [.prepare [] .retryInference 2 ⟨1000, 0, 0, 0⟩,
    .finish [] 1 (some interrupted) ⟨2000, 0, 0, 0⟩ none,
    .reopen,
    .prepare [] .retryInference 2 ⟨60000, 0, 0, 0⟩,
    .finish [] 2 none ⟨61000, 0, 0, 0⟩ none,
    .prepare [] .retryInference 2 ⟨62000, 0, 0, 0⟩]

theorem attempts_safe_restart :
    log (performJournal fun _ => "operation") (noteOf fun _ => "operation")
      (openJournal emptyTables) sampleCalls =
      [.prepared "operation" none (.ready 1), .finished "operation" 1 (some interrupted), .silent,
        .prepared "operation" none (.ready 2), .finished "operation" 2 none,
        .prepared "operation" none (.stopped completedBefore)] ∧
    chargedAttempts ((after (performJournal fun _ => "operation") (openJournal emptyTables)
      sampleCalls).tables.attemptsOf "operation") ≤ 2 := by
  constructor
  · decide +kernel
  · apply (attempts_safe (fun _ => "operation") [] .retryInference 2 sampleCalls _).2.2 rfl
    intro _ member
    simp only [sampleCalls, mem_cons, not_mem_nil, or_false] at member
    rcases member with rfl | rfl | rfl | rfl | rfl | rfl <;> simp [JournalCall.Fixed]

end WinWinCode.Network
