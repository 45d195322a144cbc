import WinWinCode.Foundation.Counting
import WinWinCode.Foundation.Tables
import WinWinCode.Storage.ExecutionValues
import WinWinCode.Storage.StorageErrors

/-!
Session slots of workers, from `worker_session_slots.rs`. A slot is opened under a
lease and takes a share of the resources of a worker instance until it is closed;
when the worker restarts, its slots move to the new instance as far as they fit and
fail otherwise. Workers, leases and admissions are only read here, and what they
answer comes with each call; `maxSlots` is the number of slots of each worker.
-/

namespace WinWinCode.Storage

open Fallible Tables Text Counting

structure WorkerSlotResourceLimits where
  (maxMemoryBytes maxDiskBytes maxProcesses : Nat)
deriving DecidableEq

structure WorkerSlotResources where
  (memoryBytes diskBytes processSlots : Nat)

structure WorkerSlotAuthority where
  (workerId workerInstanceId workerSessionId codexThreadId jobId leaseId : String)
  attempt : Nat
  fencingToken : String
deriving DecidableEq

inductive WorkerSlotState where
  | running
  | cancelling
  | completed
  | cancelled
  | failed
  | recoveryFailed
deriving DecidableEq

def WorkerSlotState.active : WorkerSlotState → Bool
  | .running => true
  | .cancelling => true
  | _ => false

structure WorkerSlotOpenRequest where
  authority : WorkerSlotAuthority
  resources : WorkerSlotResources
  (requestId openedAt : String)

structure WorkerSlotEventAdvance where
  authority : WorkerSlotAuthority
  requestId : String
  (expectedCursor nextCursor : Nat)
  observedAt : String

structure WorkerSlotCancellation where
  authority : WorkerSlotAuthority
  requestId : String
  expectedRevision : Nat
  requestedAt : String

structure WorkerSlotCloseRequest where
  authority : WorkerSlotAuthority
  requestId : String
  expectedRevision : Nat
  outcome : WorkerSlotState
  closedAt : String

structure WorkerSlotRecoveryRequest where
  (workerId workerInstanceId requestId recoveredAt : String)

structure WorkerSlotRecord where
  authority : WorkerSlotAuthority
  resources : WorkerSlotResources
  state : WorkerSlotState
  (eventCursor revision : Nat)
  (openedAt updatedAt : String)
  (cancellationRequestedAt terminalAt : Option String)

structure WorkerSlotReceipt where
  slot : WorkerSlotRecord
  replayed : Bool

inductive WorkerSlotRecoveryAction where
  | recovered (slot : WorkerSlotRecord)
  | failed (slot : WorkerSlotRecord)

def WorkerSlotRecoveryAction.slot : WorkerSlotRecoveryAction → WorkerSlotRecord
  | .recovered slot => slot
  | .failed slot => slot

structure WorkerSlotRecoveryReceipt where
  actions : List WorkerSlotRecoveryAction
  replayed : Bool

inductive WorkerSlotErrorCode where
  | invalidInput
  | requestConflict
  | revisionConflict
  | cursorConflict
  | workerNotCurrent
  | workerNotHealthy
  | leaseMismatch
  | leaseExpired
  | admissionNotRunning
  | capacityExhausted
  | resourceExhausted
  | stateConflict
  | adapter

structure WorkerSlotError where
  code : WorkerSlotErrorCode
  message : String

namespace WorkerSlotError

def invalid (message : String) : WorkerSlotError := ⟨.invalidInput, message⟩

def adapter (message : String) : WorkerSlotError := ⟨.adapter, message⟩

def revisionConflict (expected actual : Nat) : WorkerSlotError :=
  ⟨.revisionConflict, "expected Worker slot revision " ++ toString expected ++
    ", but current revision is " ++ toString actual⟩

end WorkerSlotError

inductive WorkerHealth where
  | registered
  | healthy
  | timedOut
deriving DecidableEq

inductive SlotRequest where
  | opening (request : WorkerSlotOpenRequest)
  | event (request : WorkerSlotEventAdvance)
  | cancel (request : WorkerSlotCancellation)
  | close (request : WorkerSlotCloseRequest)
  | recovery (request : WorkerSlotRecoveryRequest)

structure SlotEnvironment where
  /-- The current instance of a registered worker, and its health. -/
  worker : String → Option (String × WorkerHealth)
  lease : String → Option ExecutionLeaseRecord
  leaseTerminal : String → Bool
  /-- The lease row read and checked by the execution registry. -/
  loadLease : String → StorageResult (Option ExecutionLeaseRecord)
  runningAdmission : String → Bool

/-! The tables. -/

/-- Primary key `worker_session_id`; the job and the thread of active slots are unique. -/
abbrev WorkerSlotRecord.Clash (left right : WorkerSlotRecord) : Prop :=
  left.authority.workerSessionId = right.authority.workerSessionId ∨
    (left.state.active = true ∧ right.state.active = true ∧
      (left.authority.jobId = right.authority.jobId ∨
        left.authority.codexThreadId = right.authority.codexThreadId))

structure ResourceLimitsRow where
  (workerId workerInstanceId : String)
  limits : WorkerSlotResourceLimits

abbrev ResourceLimitsRow.Clash (left right : ResourceLimitsRow) : Prop :=
  left.workerId = right.workerId ∧ left.workerInstanceId = right.workerInstanceId

inductive SlotOperation where
  | opening
  | event
  | cancel
  | close
deriving DecidableEq

structure SlotReceiptRow where
  operation : SlotOperation
  (workerSessionId requestId requestDigest : String)
  response : WorkerSlotReceipt

abbrev SlotReceiptRow.Clash (left right : SlotReceiptRow) : Prop :=
  left.operation = right.operation ∧ left.workerSessionId = right.workerSessionId ∧
    left.requestId = right.requestId

structure RecoveryReceiptRow where
  (workerId workerInstanceId requestId requestDigest : String)
  response : WorkerSlotRecoveryReceipt

abbrev RecoveryReceiptRow.Clash (left right : RecoveryReceiptRow) : Prop :=
  left.workerId = right.workerId ∧ left.workerInstanceId = right.workerInstanceId ∧
    left.requestId = right.requestId

abbrev SlotTable := Table WorkerSlotRecord WorkerSlotRecord.Clash

structure SlotStore where
  limits : Table ResourceLimitsRow ResourceLimitsRow.Clash
  slots : SlotTable
  receipts : Table SlotReceiptRow SlotReceiptRow.Clash
  recoveries : Table RecoveryReceiptRow RecoveryReceiptRow.Clash

abbrev SlotResult := Except WorkerSlotError

abbrev SlotCheck := SlotResult Unit

abbrev SlotAnswer := SlotResult (SlotStore × WorkerSlotReceipt)

def SlotStore.empty : SlotStore := ⟨.empty, .empty, .empty, .empty⟩

namespace WorkerSessionSlots

abbrev Digest := SlotRequest → String

def maxAttempt : Nat := 1000

def sqlError : WorkerSlotError :=
  .adapter "Worker slot SQLite failure: UNIQUE constraint failed"

def sqlRange : WorkerSlotError :=
  .adapter "Worker slot SQLite failure: Invalid column type Real"

/-! Checks. -/

def validateId (value head field : String) : SlotCheck :=
  refuse (isCanonicalId head value = false) (.invalid (field ++ " is not canonical"))

def validateInstant (value : String) : SlotCheck :=
  refuse (isCanonicalInstant value = false) (.invalid "Worker slot time is not canonical")

def validateFencingToken (token : String) : SlotCheck :=
  refuse (token.toList = [] ∨ 20 < token.toList.length ∨ isDigits token.toList = false ∨
      (1 < token.toList.length ∧ token.toList.head? = some '0') ∨ token = "0")
    (.invalid "fencingToken is not canonical")

def validateWorkerIdentity (workerId workerInstanceId : String) : SlotCheck := do
  validateId workerId "wrk_" "workerId"
  validateId workerInstanceId "wki_" "workerInstanceId"

def validateRequestIdTime (requestId instant : String) : SlotCheck := do
  validateId requestId "req_" "requestId"
  validateInstant instant

def validateSqlRange (value : Nat) (field : String) : SlotCheck :=
  refuse (sqliteMax < value) (.invalid (field ++ " exceeds the supported range"))

def validateRevision (revision : Nat) : SlotCheck :=
  refuse (revision = 0 ∨ sqliteMax < revision)
    (.invalid "Worker slot revision is outside the supported range")

def validateResourceLimits (limits : WorkerSlotResourceLimits) : SlotCheck := do
  validateSqlRange limits.maxMemoryBytes "maxMemoryBytes"
  validateSqlRange limits.maxDiskBytes "maxDiskBytes"
  validateSqlRange limits.maxProcesses "maxProcesses"

def validateResources (resources : WorkerSlotResources) : SlotCheck := do
  validateSqlRange resources.memoryBytes "memoryBytes"
  validateSqlRange resources.diskBytes "diskBytes"
  refuse (resources.processSlots = 0) (.invalid "processSlots must be positive")
  validateSqlRange resources.processSlots "processSlots"

variable (environment : SlotEnvironment) (slots : SlotTable) (authority : WorkerSlotAuthority)

def validateAuthority : SlotCheck := do
  validateWorkerIdentity authority.workerId authority.workerInstanceId
  validateId authority.workerSessionId "wsn_" "workerSessionId"
  validateId authority.codexThreadId "cdx_" "codexThreadId"
  validateId authority.jobId "job_" "jobId"
  validateId authority.leaseId "lse_" "leaseId"
  validateFencingToken authority.fencingToken
  refuse (authority.attempt = 0 ∨ maxAttempt < authority.attempt)
    (.invalid "attempt is outside the supported range")

def validateOpen (request : WorkerSlotOpenRequest) : SlotCheck := do
  validateAuthority request.authority
  validateRequestIdTime request.requestId request.openedAt
  validateResources request.resources

def validateEventAdvance (request : WorkerSlotEventAdvance) : SlotCheck := do
  validateAuthority request.authority
  validateRequestIdTime request.requestId request.observedAt
  refuse (maxSafeInteger < request.expectedCursor ∨ maxSafeInteger < request.nextCursor ∨
      checkedAdd request.expectedCursor 1 ≠ some request.nextCursor)
    (.invalid "Worker slot event cursor is outside the contiguous range")

def validateCancellation (request : WorkerSlotCancellation) : SlotCheck := do
  validateAuthority request.authority
  validateRequestIdTime request.requestId request.requestedAt
  validateRevision request.expectedRevision

def validateClose (request : WorkerSlotCloseRequest) : SlotCheck := do
  validateAuthority request.authority
  validateRequestIdTime request.requestId request.closedAt
  validateRevision request.expectedRevision
  refuse (request.outcome ≠ .completed ∧ request.outcome ≠ .cancelled ∧
      request.outcome ≠ .failed) (.invalid "Worker slot close outcome is not terminal")

def validateRecovery (request : WorkerSlotRecoveryRequest) : SlotCheck := do
  validateWorkerIdentity request.workerId request.workerInstanceId
  validateRequestIdTime request.requestId request.recoveredAt

variable (session : String) (store : SlotStore) (slot : WorkerSlotRecord)

def lifecycleValid : Bool :=
  match slot.state with
  | .running => slot.cancellationRequestedAt.isNone && slot.terminalAt.isNone
  | .cancelling => slot.cancellationRequestedAt.isSome && slot.terminalAt.isNone
  | .completed => slot.terminalAt.isSome
  | .failed => slot.terminalAt.isSome
  | .recoveryFailed => slot.terminalAt.isSome
  | .cancelled => slot.cancellationRequestedAt.isSome && slot.terminalAt.isSome

def stored (message : String) (check : SlotCheck) : SlotCheck :=
  check.mapError fun _ => .adapter message

def validateStoredSlot : SlotCheck := do
  stored "stored Worker slot authority is invalid" (validateAuthority slot.authority)
  stored "stored Worker slot resources are invalid" (validateResources slot.resources)
  ([some slot.openedAt, some slot.updatedAt, slot.cancellationRequestedAt,
    slot.terminalAt].filterMap id).forM fun instant =>
      stored "stored Worker slot time is invalid" (validateInstant instant)
  refuse (slot.revision = 0 ∨ maxSafeInteger < slot.eventCursor ∨
      slot.updatedAt < slot.openedAt ∨
      (slot.terminalAt.any fun terminal => terminal < slot.updatedAt) = true)
    (.adapter "stored Worker slot values are invalid")
  refuse (lifecycleValid slot = false) (.adapter "stored Worker slot lifecycle is inconsistent")

def requireTime (occurredAt : String) : SlotCheck :=
  refuse (occurredAt < slot.updatedAt) (.invalid "Worker slot operation precedes durable state")

def greaterDecimal (left right : String) : Bool :=
  decide (right.toList.length < left.toList.length) ||
    (left.toList.length == right.toList.length && decide (right < left))

/-! What the other tables answer. -/

def requireCurrentWorker (maxSlots : String → Nat)
    (workerId workerInstanceId : String) (requireHealthy : Bool) : SlotResult Nat := do
  let (instance_, health) ← okOr (environment.worker workerId)
    ⟨.workerNotCurrent, "Worker is not registered"⟩
  refuse (instance_ ≠ workerInstanceId)
    ⟨.workerNotCurrent, "Worker process instance is no longer current"⟩
  refuse (requireHealthy = true ∧ health ≠ .healthy ∧ health ≠ .registered)
    ⟨.workerNotHealthy, "Worker is not healthy"⟩
  return maxSlots workerId

def loadCurrentLease (job : String) : Option ExecutionLeaseRecord :=
  (environment.lease job).filter fun lease => !environment.leaseTerminal lease.leaseId

def sameLease (lease : ExecutionLeaseRecord) (authority : WorkerSlotAuthority) : Bool :=
  lease.leaseId == authority.leaseId && lease.workerId == authority.workerId &&
    lease.workerInstanceId == authority.workerInstanceId &&
    lease.attempt == authority.attempt && lease.fencingToken == authority.fencingToken

def requireLeaseAuthority (observedAt : String) : SlotCheck := do
  let lease ← okOr (loadCurrentLease environment authority.jobId)
    ⟨.leaseMismatch, "execution lease does not exist"⟩
  refuse (sameLease lease authority = false)
    ⟨.leaseMismatch, "Worker slot authority does not match the current lease"⟩
  refuse (lease.expiresAt ≤ observedAt) ⟨.leaseExpired, "execution lease has expired"⟩

def requireRetainedLeaseIdentity : SlotCheck := do
  let loaded ← (environment.loadLease authority.jobId).mapError fun error =>
    .adapter ("Worker slot storage failure: " ++ error.message)
  let lease ← okOr loaded (.invalid "execution lease does not exist")
  refuse (sameLease lease authority = false)
    ⟨.leaseMismatch, "Worker slot observation differs from its execution identity"⟩

def requireRunningAdmission (job : String) : SlotCheck :=
  refuse (environment.runningAdmission job = false)
    ⟨.admissionNotRunning, "execution admission reservation is not running"⟩

def loadResourceLimits (workerId workerInstanceId : String) : Option WorkerSlotResourceLimits :=
  (store.limits.find fun row =>
    row.workerId == workerId && row.workerInstanceId == workerInstanceId).map (·.limits)

/-! Capacity. -/

structure SlotUsage where
  runningSlots : Nat
  reserved : WorkerSlotResources

def isActiveOn (workerId workerInstanceId : String) (slot : WorkerSlotRecord) : Bool :=
  slot.authority.workerId == workerId && slot.authority.workerInstanceId == workerInstanceId &&
    slot.state.active

def activeSlots (workerId workerInstanceId : String) : List WorkerSlotRecord :=
  slots.rows.filter (isActiveOn workerId workerInstanceId)

def addChecked (left right : Nat) (field : String) : SlotResult Nat :=
  okOr (checkedAdd left right) (.adapter ("stored " ++ field ++ " is out of range"))

def addUsage (usage : SlotUsage) (slot : WorkerSlotRecord) : SlotResult SlotUsage := do
  let runningSlots ← addChecked usage.runningSlots 1 "active slot count"
  let memory ← addChecked usage.reserved.memoryBytes slot.resources.memoryBytes "memory usage"
  let disk ← addChecked usage.reserved.diskBytes slot.resources.diskBytes "disk usage"
  let processes ← addChecked usage.reserved.processSlots slot.resources.processSlots
    "process usage"
  return ⟨runningSlots, ⟨memory, disk, processes⟩⟩

def activeUsage (workerId workerInstanceId : String) : SlotResult SlotUsage :=
  (activeSlots slots workerId workerInstanceId).foldlM addUsage ⟨0, ⟨0, 0, 0⟩⟩

def resourcesFit (available : WorkerSlotResourceLimits) (requested : WorkerSlotResources) : Bool :=
  decide (requested.memoryBytes ≤ available.maxMemoryBytes) &&
    decide (requested.diskBytes ≤ available.maxDiskBytes) &&
    decide (requested.processSlots ≤ available.maxProcesses)

def ensureResourceCapacity (limits : WorkerSlotResourceLimits)
    (used requested : WorkerSlotResources) : SlotCheck :=
  -- Subtraction of natural numbers saturates.
  refuse (resourcesFit ⟨limits.maxMemoryBytes - used.memoryBytes,
      limits.maxDiskBytes - used.diskBytes, limits.maxProcesses - used.processSlots⟩
      requested = false)
    ⟨.resourceExhausted, "Worker slot resources are exhausted"⟩

def checkedSub (left right : Nat) (message : String) : SlotResult Nat := do
  refuse (left < right) (.adapter message)
  return left - right

def subtractResources (available : WorkerSlotResourceLimits) (resources : WorkerSlotResources) :
    SlotResult WorkerSlotResourceLimits := do
  let memory ← checkedSub available.maxMemoryBytes resources.memoryBytes
    "recovered memory exceeds limits"
  let disk ← checkedSub available.maxDiskBytes resources.diskBytes "recovered disk exceeds limits"
  let processes ← checkedSub available.maxProcesses resources.processSlots
    "recovered processes exceed limits"
  return ⟨memory, disk, processes⟩

/-! Rows. -/

def slotIdentityExists : Bool :=
  slots.rows.any fun slot => slot.authority.workerSessionId == authority.workerSessionId ||
    ((slot.authority.codexThreadId == authority.codexThreadId ||
      slot.authority.jobId == authority.jobId) && slot.state.active)

def openedSlot (request : WorkerSlotOpenRequest) : WorkerSlotRecord :=
  ⟨request.authority, request.resources, .running, 0, 1, request.openedAt, request.openedAt,
    none, none⟩

def slotRow : Option WorkerSlotRecord :=
  slots.find fun slot => slot.authority.workerSessionId == session

/-- A stored row; a revision beyond the column is no integer and cannot be read. -/
def completeSlot : SlotResult WorkerSlotRecord := do
  refuse (sqliteMax < slot.revision) sqlRange
  validateStoredSlot slot
  return slot

def loadSlot : SlotResult (Option WorkerSlotRecord) :=
  match slotRow slots session with
  | none => .ok none
  | some slot => do
    let complete ← completeSlot slot
    return some complete

def requireActiveSlot : SlotResult WorkerSlotRecord := do
  let loaded ← loadSlot slots authority.workerSessionId
  let slot ← okOr loaded (.invalid "Worker slot does not exist")
  refuse (slot.authority ≠ authority)
    ⟨.leaseMismatch, "Worker slot identity does not match durable authority"⟩
  refuse (slot.state.active = false) ⟨.stateConflict, "Worker slot is terminal"⟩
  return slot

/-! Updates of one row. -/

def isAt (revision : Nat) (slot : WorkerSlotRecord) : Bool :=
  slot.authority.workerSessionId == session && slot.revision == revision && slot.state.active

/-- A change that keeps the identity of a row and starts nothing. -/
structure Keeps (change : WorkerSlotRecord → WorkerSlotRecord) : Prop where
  session : ∀ slot, (change slot).authority.workerSessionId = slot.authority.workerSessionId
  job : ∀ slot, (change slot).authority.jobId = slot.authority.jobId
  thread : ∀ slot, (change slot).authority.codexThreadId = slot.authority.codexThreadId

theorem Keeps.safe {change : WorkerSlotRecord → WorkerSlotRecord} (keeps : Keeps change)
    {selected : WorkerSlotRecord → Bool} (wasActive : ∀ slot, selected slot → slot.state.active) :
    Table.Safe WorkerSlotRecord.Clash selected change := by
  intro slot _ hit
  have active := wasActive slot hit
  constructor
  · rintro (session | ⟨_, otherActive, job | thread⟩)
    · exact .inl ((keeps.session slot).symm.trans session)
    · exact .inr ⟨active, otherActive, .inl ((keeps.job slot).symm.trans job)⟩
    · exact .inr ⟨active, otherActive, .inr ((keeps.thread slot).symm.trans thread)⟩
  · rintro (session | ⟨otherActive, _, job | thread⟩)
    · exact .inl (session.trans (keeps.session slot))
    · exact .inr ⟨otherActive, active, .inl (job.trans (keeps.job slot))⟩
    · exact .inr ⟨otherActive, active, .inr (thread.trans (keeps.thread slot))⟩

def updateSlot (selected : WorkerSlotRecord → Bool)
    (change : WorkerSlotRecord → WorkerSlotRecord) (keeps : Keeps change)
    (wasActive : ∀ slot, selected slot = true → slot.state.active = true) (lost : String) :
    SlotResult SlotTable := do
  refuse ((slots.rows.filter selected).length ≠ 1) (.adapter lost)
  return slots.updateWhere selected change (keeps.safe wasActive)

def moveCursor (request : WorkerSlotEventAdvance) (slot : WorkerSlotRecord) : WorkerSlotRecord :=
  { slot with
    eventCursor := request.nextCursor
    revision := slot.revision + 1
    updatedAt := request.observedAt }

def markCancelling (requestedAt : String) (slot : WorkerSlotRecord) : WorkerSlotRecord :=
  { slot with
    state := .cancelling
    revision := slot.revision + 1
    updatedAt := requestedAt
    cancellationRequestedAt := some requestedAt }

def markTerminal (outcome : WorkerSlotState) (closedAt : String) (slot : WorkerSlotRecord) :
    WorkerSlotRecord :=
  { slot with
    state := outcome
    revision := slot.revision + 1
    updatedAt := closedAt
    terminalAt := some closedAt }

/-- The slot continues under the current lease of its job. -/
def moveTo (workerInstanceId : String) (lease : ExecutionLeaseRecord) (recoveredAt : String)
    (slot : WorkerSlotRecord) : WorkerSlotRecord :=
  { slot with
    authority := { slot.authority with
      workerInstanceId := workerInstanceId
      leaseId := lease.leaseId
      attempt := lease.attempt
      fencingToken := lease.fencingToken }
    revision := slot.revision + 1
    updatedAt := recoveredAt }

/-! Receipts. -/

def replaySlotReceipt (operation : SlotOperation) (session requestId : String)
    (requestDigest : String) : SlotResult (Option WorkerSlotReceipt) :=
  match store.receipts.find fun row => row.operation == operation &&
      row.workerSessionId == session && row.requestId == requestId with
  | none => .ok none
  | some row => do
    refuse (row.requestDigest ≠ requestDigest)
      ⟨.requestConflict, "Worker slot request id was reused with another body"⟩
    validateStoredSlot row.response.slot
    return some { row.response with replayed := true }

def finishSlotMutation (slots : SlotTable) (operation : SlotOperation)
    (session requestId requestDigest : String) (missing : String) : SlotAnswer := do
  let loaded ← loadSlot slots session
  let slot ← okOr loaded (.adapter missing)
  let receipts ← okOr (store.receipts.insert
    ⟨operation, session, requestId, requestDigest, ⟨slot, false⟩⟩) sqlError
  return ({ store with slots := slots, receipts := receipts }, ⟨slot, false⟩)

def replayOr (operation : SlotOperation) (session requestId : String)
    (requestDigest : String) (perform : SlotAnswer) : SlotAnswer := do
  match ← replaySlotReceipt store operation session requestId requestDigest with
  | some receipt => .ok (store, receipt)
  | none => perform

/-! Operations. -/

section
variable (digest : Digest) (maxSlots : String → Nat) (environment : SlotEnvironment)
  (store : SlotStore) (request : WorkerSlotRecoveryRequest) (old : WorkerSlotRecord)

def configureResources (workerId workerInstanceId : String)
    (limits : WorkerSlotResourceLimits) : SlotResult (SlotStore × Bool) := do
  validateWorkerIdentity workerId workerInstanceId
  validateResourceLimits limits
  let _ ← requireCurrentWorker environment maxSlots workerId workerInstanceId false
  match loadResourceLimits store workerId workerInstanceId with
  | some existing => do
    refuse (existing ≠ limits)
      (.invalid "Worker slot resource limits are already configured differently")
    return (store, false)
  | none => do
    let rows ← okOr (store.limits.insert ⟨workerId, workerInstanceId, limits⟩) sqlError
    return ({ store with limits := rows }, true)

def openNew (request : WorkerSlotOpenRequest) : SlotAnswer := do
  let authority := request.authority
  let available ← requireCurrentWorker environment maxSlots authority.workerId
    authority.workerInstanceId true
  requireLeaseAuthority environment authority request.openedAt
  requireRunningAdmission environment authority.jobId
  let limits ← okOr (loadResourceLimits store authority.workerId authority.workerInstanceId)
    (.invalid "Worker slot resource limits are missing")
  let usage ← activeUsage store.slots authority.workerId authority.workerInstanceId
  refuse (available ≤ usage.runningSlots)
    ⟨.capacityExhausted, "Worker has no available session slots"⟩
  ensureResourceCapacity limits usage.reserved request.resources
  refuse (slotIdentityExists store.slots authority = true)
    (.invalid "Worker slot identity is already durable")
  let slots ← okOr (store.slots.insert (openedSlot request)) sqlError
  finishSlotMutation store slots .opening authority.workerSessionId request.requestId
    (digest (.opening request)) "opened Worker slot was not stored"

def openSlot (request : WorkerSlotOpenRequest) : SlotAnswer := do
  validateOpen request
  replayOr store .opening request.authority.workerSessionId request.requestId
    (digest (.opening request)) (openNew digest maxSlots environment store request)

def advanceNew (request : WorkerSlotEventAdvance) : SlotAnswer := do
  let current ← requireActiveSlot store.slots request.authority
  requireRetainedLeaseIdentity environment request.authority
  refuse (current.eventCursor ≠ request.expectedCursor ∨
      request.nextCursor ≠ request.expectedCursor + 1)
    ⟨.cursorConflict, "Worker slot event cursor is not contiguous"⟩
  let slots ← updateSlot store.slots
    (fun slot => isAt request.authority.workerSessionId current.revision slot &&
      slot.eventCursor == request.expectedCursor)
    (moveCursor request) ⟨fun _ => rfl, fun _ => rfl, fun _ => rfl⟩
    (fun slot hit => by simp only [isAt, Bool.and_eq_true] at hit; exact hit.1.2)
    "Worker slot event cursor lost transaction authority"
  finishSlotMutation store slots .event request.authority.workerSessionId request.requestId
    (digest (.event request)) "mutated Worker slot was not stored"

def advanceEventCursor (request : WorkerSlotEventAdvance) : SlotAnswer := do
  validateEventAdvance request
  replayOr store .event request.authority.workerSessionId request.requestId
    (digest (.event request)) (advanceNew digest environment store request)

def cancelNew (request : WorkerSlotCancellation) : SlotAnswer := do
  let current ← requireActiveSlot store.slots request.authority
  requireRetainedLeaseIdentity environment request.authority
  refuse (current.revision ≠ request.expectedRevision)
    (.revisionConflict request.expectedRevision current.revision)
  refuse (current.state ≠ .running) ⟨.stateConflict, "Worker slot is not running"⟩
  requireTime current request.requestedAt
  let slots ← updateSlot store.slots
    (fun slot => isAt request.authority.workerSessionId request.expectedRevision slot &&
      slot.state == .running)
    (markCancelling request.requestedAt) ⟨fun _ => rfl, fun _ => rfl, fun _ => rfl⟩
    (fun slot hit => by simp only [isAt, Bool.and_eq_true] at hit; exact hit.1.2)
    "Worker slot cancellation lost transaction authority"
  finishSlotMutation store slots .cancel request.authority.workerSessionId request.requestId
    (digest (.cancel request)) "mutated Worker slot was not stored"

def requestCancellation (request : WorkerSlotCancellation) : SlotAnswer := do
  validateCancellation request
  replayOr store .cancel request.authority.workerSessionId request.requestId
    (digest (.cancel request)) (cancelNew digest environment store request)

def legalOutcome : WorkerSlotState → WorkerSlotState → Bool
  | .running, .completed => true
  | .running, .failed => true
  | .cancelling, .cancelled => true
  | _, _ => false

def closeNew (request : WorkerSlotCloseRequest) : SlotAnswer := do
  let current ← requireActiveSlot store.slots request.authority
  requireRetainedLeaseIdentity environment request.authority
  refuse (current.revision ≠ request.expectedRevision)
    (.revisionConflict request.expectedRevision current.revision)
  refuse (legalOutcome current.state request.outcome = false)
    ⟨.stateConflict, "Worker slot terminal outcome is illegal"⟩
  requireTime current request.closedAt
  -- The current state is an active one, so the selected row is active too.
  let slots ← updateSlot store.slots
    (fun slot => isAt request.authority.workerSessionId request.expectedRevision slot &&
      slot.state == current.state)
    (markTerminal request.outcome request.closedAt) ⟨fun _ => rfl, fun _ => rfl, fun _ => rfl⟩
    (fun slot hit => by simp only [isAt, Bool.and_eq_true] at hit; exact hit.1.2)
    "Worker slot close lost transaction authority"
  finishSlotMutation store slots .close request.authority.workerSessionId request.requestId
    (digest (.close request)) "mutated Worker slot was not stored"

def closeSlot (request : WorkerSlotCloseRequest) : SlotAnswer := do
  validateClose request
  replayOr store .close request.authority.workerSessionId request.requestId
    (digest (.close request)) (closeNew digest environment store request)

/-! Restart. -/

def isOld (old slot : WorkerSlotRecord) : Bool :=
  isAt old.authority.workerSessionId old.revision slot &&
    slot.authority.workerInstanceId == old.authority.workerInstanceId

theorem isOld_active (old slot : WorkerSlotRecord) (hit : isOld old slot) :
    slot.state.active = true := by
  simp only [isOld, isAt, Bool.and_eq_true] at hit
  exact hit.1.2

def updateRecoveredSlot (slots : SlotTable) (old : WorkerSlotRecord) (workerInstanceId : String)
    (lease : ExecutionLeaseRecord) (recoveredAt : String) : SlotResult SlotTable := do
  validateSqlRange lease.attempt "attempt"
  updateSlot slots (isOld old) (moveTo workerInstanceId lease recoveredAt)
    ⟨fun _ => rfl, fun _ => rfl, fun _ => rfl⟩ (isOld_active old)
    "Worker slot recovery lost transaction authority"

def markRecoveryFailed (slots : SlotTable) (old : WorkerSlotRecord) (recoveredAt : String) :
    SlotResult SlotTable :=
  updateSlot slots (isOld old) (markTerminal .recoveryFailed recoveredAt)
    ⟨fun _ => rfl, fun _ => rfl, fun _ => rfl⟩ (isOld_active old)
    "Worker slot recovery failure lost transaction authority"

/-- The active slots of the other instances of a worker, by session. -/
def loadOldActiveSlots (slots : SlotTable) (workerId currentInstanceId : String) :
    SlotResult (List WorkerSlotRecord) :=
  ((slots.rows.filter fun slot => slot.authority.workerId == workerId &&
      slot.authority.workerInstanceId != currentInstanceId && slot.state.active).insertionSort
    fun left right => left.authority.workerSessionId ≤ right.authority.workerSessionId).mapM
      completeSlot

/-- The slots as far as they were reconciled, and what is left for the others. -/
structure Recovery where
  slots : SlotTable
  availableSlots : Nat
  availableResources : WorkerSlotResourceLimits
  actions : List WorkerSlotRecoveryAction

variable (recovery : Recovery)

/-- A slot moves when its job has a later lease on the new instance and it still fits. -/
def isRecoverable (old : WorkerSlotRecord) (lease : ExecutionLeaseRecord) : Bool :=
  lease.workerId == request.workerId && lease.workerInstanceId == request.workerInstanceId &&
    decide (old.authority.attempt < lease.attempt) &&
    greaterDecimal lease.fencingToken old.authority.fencingToken &&
    decide (request.recoveredAt < lease.expiresAt) &&
    environment.runningAdmission old.authority.jobId &&
    decide (0 < recovery.availableSlots) &&
    resourcesFit recovery.availableResources old.resources

def recoverSlot (old : WorkerSlotRecord) (lease : ExecutionLeaseRecord) : SlotResult Recovery := do
  let slots ← updateRecoveredSlot recovery.slots old request.workerInstanceId lease
    request.recoveredAt
  let resources ← subtractResources recovery.availableResources old.resources
  let loaded ← loadSlot slots old.authority.workerSessionId
  let slot ← okOr loaded (.adapter "recovered slot was not stored")
  return ⟨slots, recovery.availableSlots - 1, resources, recovery.actions ++ [.recovered slot]⟩

def failSlot (old : WorkerSlotRecord) : SlotResult Recovery := do
  let slots ← markRecoveryFailed recovery.slots old request.recoveredAt
  let loaded ← loadSlot slots old.authority.workerSessionId
  let slot ← okOr loaded (.adapter "failed slot was not stored")
  return { recovery with slots := slots, actions := recovery.actions ++ [.failed slot] }

def reconcileSlot (old : WorkerSlotRecord) : SlotResult Recovery := do
  requireTime old request.recoveredAt
  match (loadCurrentLease environment old.authority.jobId).filter
      (isRecoverable environment request recovery old) with
  | some lease => recoverSlot request recovery old lease
  | none => failSlot request recovery old

def reconcileNew : SlotResult (SlotStore × WorkerSlotRecoveryReceipt) := do
  let available ← requireCurrentWorker environment maxSlots request.workerId
    request.workerInstanceId false
  let limits ← okOr (loadResourceLimits store request.workerId request.workerInstanceId)
    (.invalid "Worker slot resource limits are missing")
  let usage ← activeUsage store.slots request.workerId request.workerInstanceId
  let resources ← subtractResources limits usage.reserved
  let old ← loadOldActiveSlots store.slots request.workerId request.workerInstanceId
  let recovery ← old.foldlM (reconcileSlot environment request)
    ⟨store.slots, available - usage.runningSlots, resources, []⟩
  let receipt := ⟨recovery.actions, false⟩
  let recoveries ← okOr (store.recoveries.insert ⟨request.workerId, request.workerInstanceId,
    request.requestId, digest (.recovery request), receipt⟩) sqlError
  return ({ store with slots := recovery.slots, recoveries := recoveries }, receipt)

def replayRecoveryReceipt : SlotResult (Option WorkerSlotRecoveryReceipt) :=
  match store.recoveries.find fun row => row.workerId == request.workerId &&
      row.workerInstanceId == request.workerInstanceId && row.requestId == request.requestId with
  | none => .ok none
  | some row => do
    refuse (row.requestDigest ≠ digest (.recovery request))
      ⟨.requestConflict, "Worker restart request id was reused with another body"⟩
    row.response.actions.forM fun action => validateStoredSlot action.slot
    return some { row.response with replayed := true }

def reconcileRestart : SlotResult (SlotStore × WorkerSlotRecoveryReceipt) := do
  validateRecovery request
  match ← replayRecoveryReceipt digest store request with
  | some receipt => .ok (store, receipt)
  | none => reconcileNew digest maxSlots environment store request

/-- `fence_worker_session_for_replacement_in_transaction`: the slot of a lease that is
replaced fails. -/
def fenceForReplacement (lease : ExecutionLeaseRecord) (replacedAt : String) :
    SlotResult (SlotStore × Unit) :=
  match store.slots.find fun slot => slot.authority.jobId == lease.jobId && slot.state.active with
  | none => .ok (store, ())
  | some row => do
    let slot ← completeSlot row
    refuse (slot.authority.jobId ≠ lease.jobId ∨ sameLease lease slot.authority = false)
      ⟨.leaseMismatch, "active Worker slot differs from the lease being replaced"⟩
    requireTime slot replacedAt
    let slots ← markRecoveryFailed store.slots slot replacedAt
    return ({ store with slots := slots }, ())

def fenceSlot (fencedAt : String) (slots : SlotTable) (slot : WorkerSlotRecord) :
    SlotResult SlotTable := do
  requireTime slot fencedAt
  markRecoveryFailed slots slot fencedAt

/-- `fence_device_worker_sessions_in_transaction`: the slots of the workers a device was
granted fail. -/
def fenceDevice (granted : String → String → Bool) (store : SlotStore) (fencedAt : String) :
    SlotResult (SlotStore × Unit) := do
  let slots ← ((store.slots.rows.filter fun slot => slot.state.active &&
      granted slot.authority.workerId slot.authority.workerInstanceId).insertionSort
    fun left right => left.authority.workerSessionId ≤ right.authority.workerSessionId).mapM
      completeSlot
  let fenced ← slots.foldlM (fenceSlot fencedAt) store.slots
  return ({ store with slots := fenced }, ())

end

end WorkerSessionSlots

end WinWinCode.Storage
