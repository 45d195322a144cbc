import WinWinCode.Foundation.Fallible
import WinWinCode.Foundation.Programs
import WinWinCode.Foundation.Tables
import WinWinCode.Network.RetryPolicy

/-!
The journal of network requests. For each operation it keeps the state of its queue
while a request is outstanding, one row for every attempt that was made, and the
envelope cursor the request was bound to. Each call is one transaction on these
tables; the clock the calls read lives in the process and starts again when the
journal is reopened.
-/

namespace WinWinCode.Network

open Counting Fallible Programs Tables

inductive QueuePermit where
  | ready (sequence : Nat)
  | waiting (delay : Nat) (failure : NetworkFailure)
  | stopped (failure : NetworkFailure)
deriving DecidableEq

structure EnvelopeCursor where
  (lastSequence ackSequence : Nat)
  ackIds : List String
  inputDigest : Option String

structure QueueState where
  (attempt connections sequence : Nat)
  inFlight : Bool
  readyAt : Nat
  stopped : Bool
  failure : NetworkFailure
  replay : Replay
  maxAttempts : UInt32

inductive AttemptOutcome where
  | inFlight
  | completed
  | failed
  | unknown
deriving DecidableEq

structure QueueRow where
  operationHash : String
  state : QueueState

structure CursorRow where
  operationHash : String
  cursor : EnvelopeCursor

structure AttemptRow where
  operationHash : String
  (sequence startedMs : Nat)
  finishedMs : Option Nat
  outcome : AttemptOutcome
  failure : Option NetworkFailure

abbrev SameQueue (left right : QueueRow) : Prop := left.operationHash = right.operationHash

abbrev SameCursor (left right : CursorRow) : Prop := left.operationHash = right.operationHash

abbrev SameAttempt (left right : AttemptRow) : Prop :=
  left.operationHash = right.operationHash ∧ left.sequence = right.sequence

structure JournalTables where
  queue : Table QueueRow SameQueue
  cursors : Table CursorRow SameCursor
  attempts : Table AttemptRow SameAttempt

/-- An open journal: its tables, the clock that the first call starts, and the latest instant
found in the tables when it was opened. -/
structure RequestJournal where
  tables : JournalTables
  clock : Option (Nat × Nat)
  persistedClock : Nat

/-- What a call reads off the clocks: the wall clock in milliseconds, and the monotonic clock in
nanoseconds where it is started, read and restarted. -/
structure ClockReadings where
  (now started measured restarted : Nat)

def storage : NetworkFailure := ⟨.storageUnavailable, .unknown, .persist, none, none⟩

def interrupted : NetworkFailure := ⟨.transportInterrupted, .unknown, .responseHeaders, none, none⟩

def completedBefore : NetworkFailure := ⟨.integrityInvalid, .unknown, .persist, none, none⟩

def envelopeChanged : NetworkFailure := ⟨.integrityInvalid, .notSent, .decode, none, none⟩

def integerLimit : Nat := 2 ^ 63

def sqlInt (value : Nat) : Except NetworkFailure Unit := refuse (integerLimit ≤ value) storage

def applyFailure (state : QueueState) (failure : NetworkFailure) (now : Nat) : QueueState :=
  let connections := if failure.disconnected then saturatingAdd32 state.connections 1 else 0
  let failed := { state with inFlight := false, failure := failure, connections := connections }
  match (decide failure state.replay state.attempt connections state.maxAttempts 0).delay? with
  | some delay =>
    { failed with
      readyAt := saturatingAdd now (durationMillis delay)
      attempt := if failure.disconnected then state.attempt
        else saturatingAdd32 state.attempt 1 }
  | none => { failed with stopped := true }

namespace JournalTables

variable (tables : JournalTables) (operation : String)

def queueState : Option QueueState :=
  (tables.queue.find (·.operationHash == operation)).map QueueRow.state

def attemptsOf : List AttemptRow :=
  tables.attempts.rows.filter (·.operationHash == operation)

def lastAttempt : Nat :=
  ((tables.attemptsOf operation).map AttemptRow.sequence).foldl max 0

def hasCompleted : Bool :=
  (tables.attemptsOf operation).any (·.outcome == .completed)

def settleAttempt (sequence : Nat)
    (outcome : AttemptOutcome) (failure : Option NetworkFailure) (now : Nat) : JournalTables :=
  { tables with
    attempts := tables.attempts.updateWhere
      (fun row => row.operationHash == operation && row.sequence == sequence)
      (fun row => { row with outcome := outcome, failure := failure, finishedMs := some now })
      (fun _ _ _ => ⟨id, id⟩) }

def saveState (state : QueueState) : Except NetworkFailure JournalTables := do
  let queue ← okOr (tables.queue.upsert (·.operationHash == operation) ⟨operation, state⟩) storage
  pure { tables with queue := queue }

end JournalTables

def initialState (replay : Replay) (maxAttempts : UInt32) : QueueState where
  attempt := 1
  connections := 0
  sequence := 0
  inFlight := false
  readyAt := 0
  stopped := false
  failure := interrupted
  replay := replay
  maxAttempts := maxAttempts

variable (operation : String) (tables : JournalTables)

/-- An attempt that is in flight when the next one is prepared is written off. -/
def writeOff (now : Nat) (tables : JournalTables) (state : QueueState) :
    Except NetworkFailure (JournalTables × QueueState) :=
  if state.inFlight then do
    sqlInt state.sequence
    sqlInt now
    pure (tables.settleAttempt operation state.sequence .unknown (some interrupted) now,
      applyFailure state interrupted now)
  else pure (tables, state)

def issuePermit (now : Nat) (tables : JournalTables) (state : QueueState) :
    Except NetworkFailure (JournalTables × QueuePermit) :=
  if state.stopped then do
    let saved ← tables.saveState operation state
    pure (saved, .stopped state.failure)
  else if now < state.readyAt then do
    let saved ← tables.saveState operation state
    pure (saved, .waiting (fromMillis (state.readyAt - now)) state.failure)
  else do
    let sequence := tables.lastAttempt operation + 1
    sqlInt sequence
    sqlInt now
    let attempts ← okOr
      (tables.attempts.insert ⟨operation, sequence, now, none, .inFlight, none⟩) storage
    let saved ← JournalTables.saveState { tables with attempts := attempts } operation
      { state with sequence := sequence, inFlight := true }
    pure (saved, .ready sequence)

def prepareTables (replay : Replay) (maxAttempts : UInt32) (now : Nat)
    (tables : JournalTables) : Except NetworkFailure (JournalTables × QueuePermit) :=
  let encoded := tables.queueState operation
  if encoded = none ∧ replay = .retryInference ∧ tables.hasCompleted operation = true then
    .ok (tables, .stopped completedBefore)
  else do
    let state := encoded.getD (initialState replay maxAttempts)
    refuse (state.replay ≠ replay ∨ state.maxAttempts ≠ maxAttempts) storage
    let (settled, current) ← writeOff operation now tables state
    issuePermit operation now settled current

/-- The state after a failure; the caller's cap bounds the delay, the server's floor does not
give way to it. -/
def failedState (state : QueueState) (failure : NetworkFailure) (now : Nat)
    (maxDelay : Option Nat) : QueueState :=
  let failed := applyFailure state failure now
  match maxDelay with
  | none => failed
  | some cap =>
    if failed.stopped then failed
    else { failed with
      readyAt := min failed.readyAt
        (saturatingAdd now (max (durationMillis cap) (failure.retryAfterMs.getD 0))) }

def finishTables (sequence : Nat) (failure : Option NetworkFailure)
    (maxDelay : Option Nat) (now : Nat) (tables : JournalTables) :
    Except NetworkFailure (JournalTables × Unit) := do
  let state ← okOr (tables.queueState operation) storage
  refuse (state.inFlight = false ∨ state.sequence ≠ sequence) storage
  sqlInt sequence
  sqlInt now
  match failure with
  | some failure =>
    let settled := tables.settleAttempt operation sequence .failed (some failure) now
    pure ({ settled with
      queue := settled.queue.updateWhere (·.operationHash == operation)
        (fun row => { row with state := failedState state failure now maxDelay })
        (fun _ _ _ => ⟨id, id⟩) }, ())
  | none =>
    let settled := tables.settleAttempt operation sequence .completed none now
    pure ({ settled with
      queue := settled.queue.deleteWhere (·.operationHash == operation)
      cursors := settled.cursors.deleteWhere (·.operationHash == operation) }, ())

def validCursor (cursor : EnvelopeCursor) : Bool :=
  cursor.ackIds.length ≤ 4096 &&
    cursor.ackIds.all (fun id => id.utf8ByteSize ≤ 200 && id != "" &&
      id.toList.all (fun symbol => symbol.isAlphanum || symbol == '_' || symbol == '-')) &&
    cursor.inputDigest.all (fun digest => digest.utf8ByteSize == 64 &&
      digest.toList.all (fun symbol => symbol.isDigit ||
        ('a' ≤ symbol && symbol ≤ 'f') || ('A' ≤ symbol && symbol ≤ 'F')))

def bindTables (cursor : EnvelopeCursor) (tables : JournalTables) :
    Except NetworkFailure (JournalTables × EnvelopeCursor) := do
  refuse (validCursor cursor = false) storage
  let cursors := tables.cursors.insertOrIgnore ⟨operation, cursor⟩
  let retained ← okOr (cursors.find (·.operationHash == operation)) storage
  refuse (retained.cursor.inputDigest ≠ cursor.inputDigest) envelopeChanged
  pure ({ tables with cursors := cursors }, retained.cursor)

/-- A control request that was refused for its credentials. -/
def stoppedByCredentials (state : QueueState) : Bool :=
  state.stopped && state.replay == .replayExact &&
    ((state.failure.kind == .authentication && state.failure.httpStatus == some 401) ||
      (state.failure.kind == .authorization && state.failure.httpStatus == some 403))

def resumeControlTables : Except NetworkFailure (JournalTables × Unit) :=
  .ok ({ tables with queue := tables.queue.deleteWhere (stoppedByCredentials ·.state) }, ())

/-! The calls of an open journal. -/

def transaction {Answer : Type}
    (change : JournalTables → Except NetworkFailure (JournalTables × Answer)) :
    Program RequestJournal NetworkFailure Answer := fun journal =>
  match change journal.tables with
  | .ok (tables, answer) => ({ journal with tables := tables }, .ok answer)
  | .error failure => (journal, .error failure)

def monotonicNow (readings : ClockReadings) : Program RequestJournal NetworkFailure Nat :=
  fun journal =>
    let clock := journal.clock.getD (max readings.now journal.persistedClock, readings.started)
    let monotonic := saturatingAdd clock.1 (durationMillis (readings.measured - clock.2))
    let next := if monotonic < readings.now then (readings.now, readings.restarted) else clock
    ({ journal with clock := some next }, .ok (max readings.now monotonic))

section Calls
variable (key : List UInt8 → String) (operation : List UInt8)

def prepare (replay : Replay) (maxAttempts : UInt32)
    (readings : ClockReadings) : Program RequestJournal NetworkFailure QueuePermit := do
  let now ← monotonicNow readings
  transaction (prepareTables (key operation) replay maxAttempts now)

def finishWithDelayCap (sequence : Nat)
    (failure : Option NetworkFailure) (readings : ClockReadings) (maxDelay : Option Nat) :
    Program RequestJournal NetworkFailure Unit := do
  let now ← monotonicNow readings
  transaction (finishTables (key operation) sequence failure maxDelay now)

def bindEnvelope (cursor : EnvelopeCursor) : Program RequestJournal NetworkFailure EnvelopeCursor :=
  transaction (bindTables (key operation) cursor)

def retryDelay (readings : ClockReadings) : Program RequestJournal NetworkFailure Nat := do
  let now ← monotonicNow readings
  fun journal =>
    (journal, do
      let state ← okOr (journal.tables.queueState (key operation)) storage
      refuse (state.stopped = true) state.failure
      refuse (state.inFlight = true) storage
      pure (fromMillis (state.readyAt - now)))

end Calls

def resumeControlAuthentication : Program RequestJournal NetworkFailure Unit :=
  transaction resumeControlTables

/-- `SELECT COALESCE(MAX(MAX(started_ms, COALESCE(finished_ms, 0))), 0)`. -/
def latestInstant : Nat :=
  (tables.attempts.rows.map fun row => max row.startedMs (row.finishedMs.getD 0)).foldl max 0

def openJournal : RequestJournal :=
  ⟨tables, none, latestInstant tables⟩

def emptyTables : JournalTables := ⟨Table.empty, Table.empty, Table.empty⟩

end WinWinCode.Network
