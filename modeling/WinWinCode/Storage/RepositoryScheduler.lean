import WinWinCode.Storage.ExecutionQueue
import WinWinCode.Storage.WorkerSessionSlots

/-!
The scheduler of a repository, from `repository_scheduler.rs`. A worker asks for the
next job: an active job of its own is offered again or given another attempt, else
the queued job whose group was served longest ago is leased to it. Groups are the
deliveries of a product session, and each fresh dispatch stamps its group with the
next sequence number of the repository. Device facts, slots and scope replacements
are only consulted here, and what they answer comes with each call.
-/

namespace WinWinCode.Storage

open Fallible Tables Text ExecutionQueue ExecutionRegistry

structure RepositorySchedulerScope where
  (organizationId workspaceId projectId repositoryId : String)
deriving DecidableEq

structure RepositorySchedulerClaimRequest where
  scope : RepositorySchedulerScope
  (requestId schedulerGeneration workerId workerInstanceId issuedAt expiresAt : String)

structure RepositorySchedulerClaimReceipt where
  job : ExecutionJobRecord
  lease : ExecutionLeaseRecord
  (messageId requestId : String)
  (replayed recovered : Bool)

inductive QueuedJobSelection where
  | any
  | admitted (jobId : String)
  | none
deriving DecidableEq

inductive ActiveJobRecovery where
  | wait
  | reoffer (job : ExecutionJobRecord)
  | replace (job : ExecutionJobRecord) (lease : ExecutionLeaseRecord)

structure ReplacementDispatchPayload where
  attempt : Nat
  workRunId : Option String
  bytes : List UInt8

structure NewExecutionScopeReplacement where
  (receiptId logicalJobDigest : String)
  scope : ExecutionQueueScope
  (workRunId predecessorWorkRunId : Option String)
  predecessorLease : ExecutionLeaseRecord
  predecessorWorkerSessionId : Option String
  predecessorSlot : Option WorkerSlotAuthority
  successorLease : ExecutionLeaseRecord
  createdAt : String

/-! The tables. -/

structure DriveReceiptRow where
  (scopeKey requestId requestDigest : String)
  response : Option RepositorySchedulerClaimReceipt

abbrev DriveReceiptRow.Clash (left right : DriveReceiptRow) : Prop :=
  left.scopeKey = right.scopeKey ∧ left.requestId = right.requestId

structure SchedulerOfferRow where
  (scopeKey schedulerGeneration jobId : String)

abbrev SchedulerOfferRow.Clash (left right : SchedulerOfferRow) : Prop :=
  left.scopeKey = right.scopeKey ∧ left.schedulerGeneration = right.schedulerGeneration ∧
    left.jobId = right.jobId

structure FairnessRow where
  (scopeKey productSessionId deliveryKey : String)
  lastSequence : Nat

abbrev FairnessRow.Clash (left right : FairnessRow) : Prop :=
  left.scopeKey = right.scopeKey ∧ left.productSessionId = right.productSessionId ∧
    left.deliveryKey = right.deliveryKey

structure SchedulerSequenceRow where
  scopeKey : String
  nextSequence : Nat

abbrev SchedulerSequenceRow.Clash (left right : SchedulerSequenceRow) : Prop :=
  left.scopeKey = right.scopeKey

structure SchedulerStore where
  queue : QueueStore
  registry : RegistryStore
  drives : Table DriveReceiptRow DriveReceiptRow.Clash
  offers : Table SchedulerOfferRow SchedulerOfferRow.Clash
  fairness : Table FairnessRow FairnessRow.Clash
  sequences : Table SchedulerSequenceRow SchedulerSequenceRow.Clash

abbrev ClaimAnswer := StorageResult (SchedulerStore × Option RepositorySchedulerClaimReceipt)

def SchedulerStore.empty : SchedulerStore :=
  ⟨.empty, .empty, .empty, .empty, .empty, .empty⟩

/-- Digests, derived identifiers and readings of the JSON payload. -/
structure SchedulerHost where
  digest : RepositorySchedulerClaimRequest → String
  queueDigest : ExecutionQueue.Digest
  registryDigest : ExecutionRegistry.Digest
  /-- Namespace, identity and prefix of an identifier. -/
  derivedIdentifier : String → String → String → String
  hasDeviceTarget : List UInt8 → Bool
  replacementDispatchPayload :
    ExecutionJobRecord → StorageResult ReplacementDispatchPayload
  logicalDispatchDigest : List UInt8 → StorageResult String

structure SchedulerEnvironment where
  workers : WorkerDirectory
  /-- The worker and instance of the current device facts of a job. -/
  deviceFacts : String → List (String × String)
  recoveryReady : ExecutionLeaseRecord → String → String → StorageResult Bool
  slotAuthority : String → StorageResult (Option WorkerSlotAuthority)
  fenceWorkerSession : ExecutionLeaseRecord → String → StorageCheck
  insertScopeReplacement : NewExecutionScopeReplacement → StorageCheck
  commitRecovery : ExecutionLeaseRecord → ExecutionLeaseRecord → Option String → String →
    StorageCheck

namespace RepositoryScheduler

def maxRepositoryJobs : Nat := 100000

def leaseIdNamespace : String := "winwincode.repository-scheduler.lease.v1"

def messageIdNamespace : String := "winwincode.repository-scheduler.dispatch-message.v1"

def claimIdNamespace : String := "winwincode.repository-scheduler.registry-claim.v1"

def queueIdNamespace : String := "winwincode.repository-scheduler.queue-lease.v1"

def replacementLeaseTerminalIdNamespace : String :=
  "winwincode.repository-scheduler.replacement-lease-terminal.v1"

def sqlError : StorageError := .adapter "SQLite operation failed: UNIQUE constraint failed"

/-! Checks. -/

def validateId (value head field : String) : StorageCheck :=
  refuse (isCanonicalId head value = false)
    (.invalidInput ("repository scheduler " ++ field ++ " is not canonical"))

def validateInstant (value field : String) : StorageCheck :=
  refuse (isCanonicalInstant value = false)
    (.invalidInput ("repository scheduler " ++ field ++ " is invalid"))

def validateScope (scope : RepositorySchedulerScope) : StorageCheck := do
  validateId scope.organizationId "org_" "organizationId"
  validateId scope.workspaceId "wsp_" "workspaceId"
  validateId scope.projectId "prj_" "projectId"
  validateId scope.repositoryId "rep_" "repositoryId"

def validateClaimRequest (request : RepositorySchedulerClaimRequest) : StorageCheck := do
  validateScope request.scope
  validateId request.requestId "req_" "requestId"
  validateId request.workerId "wrk_" "workerId"
  validateId request.workerInstanceId "wki_" "workerInstanceId"
  refuse (request.schedulerGeneration.toList = [] ∨
      128 < request.schedulerGeneration.toList.length ∨
      (request.schedulerGeneration.toList.all fun symbol =>
        symbol.isAlphanum || symbol == '-' || symbol == '_' || symbol == '.') = false)
    (.invalidInput "scheduler generation is invalid")
  validateInstant request.issuedAt "issuedAt"
  validateInstant request.expiresAt "expiresAt"
  refuse (request.expiresAt ≤ request.issuedAt)
    (.invalidInput "scheduler lease interval is invalid")

def repositoryScopeKey (scope : RepositorySchedulerScope) : String :=
  scope.organizationId ++ "\x1f" ++ scope.workspaceId ++ "\x1f" ++ scope.projectId ++ "\x1f" ++
    scope.repositoryId

def repositoryOf (scope : ExecutionQueueScope) : RepositorySchedulerScope :=
  ⟨scope.organizationId, scope.workspaceId, scope.projectId, scope.repositoryId⟩

def attemptIdentity (jobId : String) (attempt : Nat) : String :=
  jobId ++ "\x1f" ++ toString attempt

def requireJobLease (job : ExecutionJobRecord) (lease : ExecutionLeaseRecord) : StorageCheck :=
  refuse (lease.jobId ≠ job.jobId ∨ lease.payloadDigest ≠ job.payloadDigest ∨
      lease.attempt ≠ job.attempt)
    (.adapter "repository queue job differs from Registry lease authority")

/-! Active jobs. -/

/-- `ORDER BY submitted_at, job_id`. -/
def submissionOrder (row : ExecutionJobRow) : String ×ₗ String :=
  toLex (row.submittedAt, row.jobId)

def listRepositoryJobs (queue : QueueStore) (scope : RepositorySchedulerScope)
    (states : List ExecutionJobState) : StorageResult (List ExecutionJobRecord) := do
  validateScope scope
  refuse (6 < states.length) (.invalidInput "repository scheduler state filter is invalid")
  (((queue.jobs.rows.filter fun row => repositoryOf row.scope == scope &&
      (states.isEmpty || states.contains row.state)).insertionSort
    fun left right => submissionOrder left ≤ submissionOrder right).take
      maxRepositoryJobs).mapM (completeRecord queue)

def isOffered (store : SchedulerStore) (scopeKey generation jobId : String) : Bool :=
  (store.offers.find fun row => row.scopeKey == scopeKey &&
    row.schedulerGeneration == generation && row.jobId == jobId).isSome

section Claims
variable (host : SchedulerHost) (environment : SchedulerEnvironment)

/-- The first active job that concerns the calling worker. -/
def recoverFrom (store : SchedulerStore) (request : RepositorySchedulerClaimRequest) :
    List ExecutionJobRecord → StorageResult (Option ActiveJobRecovery)
  | [] => .ok none
  | job :: rest => do
    let loaded ← loadLease store.registry job.jobId
    let lease ← okOr loaded (.adapter "active queue job has no Registry lease")
    requireJobLease job lease
    if lease.workerId ≠ request.workerId then recoverFrom store request rest
    else if lease.workerInstanceId = request.workerInstanceId then
      if isOffered store (repositoryScopeKey request.scope) request.schedulerGeneration
          job.jobId = true then recoverFrom store request rest
      else .ok (some (.reoffer job))
    else do
      let ready ← environment.recoveryReady lease request.workerId request.workerInstanceId
      if ready = false then recoverFrom store request rest
      else if request.issuedAt < lease.expiresAt then .ok (some .wait)
      else .ok (some (.replace job lease))

variable (store : SchedulerStore) (request : RepositorySchedulerClaimRequest)

def recoverActiveJob : StorageResult (Option ActiveJobRecovery) := do
  let jobs ← listRepositoryJobs store.queue request.scope [.leased, .running]
  recoverFrom environment store request jobs

/-! Queued jobs. -/

def deliveryKey (scope : ExecutionQueueScope) : String := scope.deliveryId.getD ""

/-- When the group of a job was served last; zero for never. -/
def lastSequence (scopeKey session delivery : String) : Nat :=
  ((store.fairness.find fun row => row.scopeKey == scopeKey &&
    row.productSessionId == session && row.deliveryKey == delivery).map (·.lastSequence)).getD 0

/-- A job without a device target runs anywhere, another one where its facts say. -/
def isEligible (workerId workerInstanceId : String) (allowUnbound : Bool)
    (row : ExecutionJobRow) : Bool :=
  (allowUnbound && !host.hasDeviceTarget row.dispatchPayload &&
      (environment.deviceFacts row.jobId).isEmpty) ||
    (environment.deviceFacts row.jobId).contains (workerId, workerInstanceId)

def isReady (queue : QueueStore) (scope : RepositorySchedulerScope)
    (workerId workerInstanceId : String) (admitted : Option String) (allowUnbound : Bool)
    (row : ExecutionJobRow) : Bool :=
  repositoryOf row.scope == scope && row.state == .queued && row.cancellation.isNone &&
    (admitted.all fun jobId => row.jobId == jobId) &&
    !hasBlockingDependency queue row.jobId &&
    isEligible host environment workerId workerInstanceId allowUnbound row

variable (scopeKey : String) (newClaimAllowed : Bool) (job : ExecutionJobRecord)

/-- `ORDER BY COALESCE(f.last_sequence, 0), j.submitted_at, j.job_id`. -/
def dispatchOrder (row : ExecutionJobRow) : Nat ×ₗ (String ×ₗ String) :=
  toLex (lastSequence store scopeKey row.scope.productSessionId (deliveryKey row.scope),
    submissionOrder row)

section
variable (scope : RepositorySchedulerScope) (workerId workerInstanceId : String)
  (admitted : Option String) (allowUnbound : Bool)

def readyRow : Option ExecutionJobRow :=
  (store.queue.jobs.rows.filter (isReady host environment store.queue scope workerId
    workerInstanceId admitted allowUnbound)).argmin (dispatchOrder store (repositoryScopeKey scope))

def selectReadyJob : StorageResult (Option ExecutionJobRecord) :=
  completeFound store.queue
    (readyRow host environment store scope workerId workerInstanceId admitted allowUnbound)

end

/-! Receipts of a claim. -/

def leaseClaim : ExecutionLeaseClaim :=
  let identity := attemptIdentity job.jobId job.attempt
  { expiresAt := request.expiresAt
    fencingToken := toString job.attempt
    issuedAt := request.issuedAt
    jobId := job.jobId
    leaseId := host.derivedIdentifier leaseIdNamespace identity "lse"
    messageId := host.derivedIdentifier messageIdNamespace identity "xmsg"
    payloadDigest := job.payloadDigest
    requestId := host.derivedIdentifier claimIdNamespace identity "req"
    workerId := request.workerId
    workerInstanceId := request.workerInstanceId
    attempt := job.attempt }

def claimLease (registry : RegistryStore) (claim : ExecutionLeaseClaim)
    (rejected missing : String) : StorageResult (RegistryStore × ExecutionLeaseRecord) := do
  let (claimed, receipt) ← claimExecutionJob host.registryDigest
    environment.workers registry claim false
  refuse (receipt.status ≠ .accepted) (.invalidInput rejected)
  let lease ← okOr receipt.lease (.adapter missing)
  return (claimed, lease)

def claimReadyJob : StorageResult (SchedulerStore × RepositorySchedulerClaimReceipt) := do
  let claim := leaseClaim host request job
  let (registry, lease) ← claimLease host environment store.registry claim
    "repository scheduler Registry claim was rejected" "accepted Registry claim has no lease"
  let (queue, leased) ← transitionExecutionJob host.queueDigest store.queue
    { scope := job.scope
      jobId := job.jobId
      requestId := host.derivedIdentifier queueIdNamespace
        (attemptIdentity job.jobId job.attempt) "req"
      expectedRevision := job.revision
      source := .queued
      target := .leased
      occurredAt := request.issuedAt }
  return ({ store with registry := registry, queue := queue },
    ⟨leased.job, lease, claim.messageId, claim.requestId, false, false⟩)

def recoveredReceipt : StorageResult (SchedulerStore × RepositorySchedulerClaimReceipt) := do
  let loaded ← loadLease store.registry job.jobId
  let lease ← okOr loaded (.adapter "active queue job has no Registry lease")
  refuse (lease.workerId ≠ request.workerId ∨
      lease.workerInstanceId ≠ request.workerInstanceId ∨ lease.jobId ≠ job.jobId ∨
      lease.payloadDigest ≠ job.payloadDigest ∨ lease.attempt ≠ job.attempt)
    (.invalidInput "active queue job differs from its Registry lease")
  let identity := attemptIdentity job.jobId job.attempt
  return (store, ⟨job, lease, host.derivedIdentifier messageIdNamespace identity "xmsg",
    host.derivedIdentifier claimIdNamespace identity "req", false, true⟩)

def predecessorRuntimeAuthority (registry : RegistryStore) (jobId : String) :
    StorageResult (Option String × Option WorkerSlotAuthority) := do
  let dispatch ← loadDispatchAuthority registry jobId
  match dispatch with
  | none => .ok (none, none)
  | some authority => do
    let slot ← environment.slotAuthority authority.workerSessionId
    return (some authority.workerSessionId, slot)

def replacementReceipt (previous : ExecutionLeaseRecord) :
    StorageResult (SchedulerStore × RepositorySchedulerClaimReceipt) := do
  refuse (previous.workerId ≠ request.workerId ∨
      previous.workerInstanceId = request.workerInstanceId ∨ previous.jobId ≠ job.jobId)
    (.invalidInput "execution replacement does not change the Worker process instance")
  let (session, slot) ← predecessorRuntimeAuthority environment store.registry job.jobId
  let replacement ← host.replacementDispatchPayload job
  let logicalDigest ← host.logicalDispatchDigest job.dispatchPayload
  let identity := attemptIdentity job.jobId replacement.attempt
  let (finished, _) ← finishExecutionLease host.registryDigest store.registry
    { jobId := previous.jobId
      leaseId := previous.leaseId
      workerId := previous.workerId
      workerInstanceId := previous.workerInstanceId
      attempt := previous.attempt
      fencingToken := previous.fencingToken
      outcome := .failed
      terminalAt := request.issuedAt
      requestId := host.derivedIdentifier replacementLeaseTerminalIdNamespace identity "req" }
  environment.fenceWorkerSession previous request.issuedAt
  let queueRequestId := host.derivedIdentifier queueIdNamespace identity "req"
  let (queue, replaced) ← replaceExecutionJobAttempt host.queueDigest store.queue
    job queueRequestId replacement.attempt replacement.workRunId replacement.bytes request.issuedAt
  let claim := leaseClaim host request replaced.job
  let (registry, lease) ← claimLease host environment finished claim
    "repository scheduler replacement Registry claim was rejected"
    "accepted replacement Registry claim has no lease"
  environment.insertScopeReplacement ⟨queueRequestId, logicalDigest, job.scope,
    replacement.workRunId, job.workRunId, previous, session, slot, lease, request.issuedAt⟩
  environment.commitRecovery previous lease replacement.workRunId request.issuedAt
  return ({ store with registry := registry, queue := queue },
    ⟨replaced.job, lease, claim.messageId, claim.requestId, false, true⟩)

/-! Bookkeeping. -/

def recordOffer (receipt : RepositorySchedulerClaimReceipt) : StorageResult SchedulerStore := do
  let key := repositoryScopeKey request.scope
  let offers ← okOr (store.offers.upsert
    (fun row => row.scopeKey == key && row.schedulerGeneration == request.schedulerGeneration &&
      row.jobId == receipt.job.jobId)
    ⟨key, request.schedulerGeneration, receipt.job.jobId⟩) sqlError
  return { store with offers := offers }

def nextSequence : Nat :=
  ((store.sequences.find fun row => row.scopeKey == scopeKey).map (·.nextSequence)).getD 1

def recordFairDispatch : StorageResult SchedulerStore := do
  let next := nextSequence store scopeKey
  let fairness ← okOr (store.fairness.upsert
    (fun row => row.scopeKey == scopeKey && row.productSessionId == job.scope.productSessionId &&
      row.deliveryKey == deliveryKey job.scope)
    ⟨scopeKey, job.scope.productSessionId, deliveryKey job.scope, next⟩) sqlError
  refuse (sqliteMax < next + 1) (.adapter "scheduler fairness sequence overflowed")
  let sequences ← okOr (store.sequences.upsert (fun row => row.scopeKey == scopeKey)
    ⟨scopeKey, next + 1⟩) sqlError
  return { store with fairness := fairness, sequences := sequences }

def replayDriveReceipt (scopeKey requestId requestDigest : String) :
    StorageResult (Option (Option RepositorySchedulerClaimReceipt)) :=
  match store.drives.find fun row => row.scopeKey == scopeKey && row.requestId == requestId with
  | none => .ok none
  | some row => do
    refuse (row.requestDigest ≠ requestDigest) (.requestConflict requestId)
    return some row.response

def insertDriveReceipt
    (response : Option RepositorySchedulerClaimReceipt) : StorageResult SchedulerStore := do
  let drives ← okOr (store.drives.insert ⟨repositoryScopeKey request.scope, request.requestId,
    host.digest request, response⟩) sqlError
  return { store with drives := drives }

/-! `claim_next_selected`. -/

def selectQueued : QueuedJobSelection → StorageResult (Option ExecutionJobRecord)
  | .any => selectReadyJob host environment store request.scope request.workerId
      request.workerInstanceId none true
  | .admitted jobId => selectReadyJob host environment store request.scope request.workerId
      request.workerInstanceId (some jobId) true
  | .none => .ok none

def dispatchSelected : ActiveJobRecovery →
      StorageResult (SchedulerStore × RepositorySchedulerClaimReceipt × Bool)
  -- Not reached: waiting answers before a job is dispatched.
  | .wait => .error (.adapter "wait returns before dispatch selection")
  | .reoffer job =>
    if job.state = .queued then do
      let (claimed, receipt) ← claimReadyJob host environment store request job
      return (claimed, receipt, false)
    else do
      let (kept, receipt) ← recoveredReceipt host store request job
      return (kept, receipt, true)
  | .replace job lease => do
    let (replaced, receipt) ← replacementReceipt host environment store request job lease
    return (replaced, receipt, true)

def recordDispatch (receipt : RepositorySchedulerClaimReceipt) (recovered : Bool) :
    StorageResult SchedulerStore := do
  let offered ← recordOffer store request receipt
  if recovered = true then .ok offered
  else recordFairDispatch offered (repositoryScopeKey request.scope) receipt.job

def dispatchOrNone : Option ActiveJobRecovery →
      ClaimAnswer
  | none => do
    let noted ← insertDriveReceipt host store request none
    return (noted, none)
  | some selected => do
    let (dispatched, receipt, recovered) ←
      dispatchSelected host environment store request selected
    let recorded ← recordDispatch dispatched request receipt recovered
    let noted ← insertDriveReceipt host recorded request (some receipt)
    return (noted, some receipt)

def claimFresh (selection : QueuedJobSelection) : ClaimAnswer := do
  match ← recoverActiveJob environment store request with
  | some .wait => .ok (store, none)
  | some (.replace job lease) =>
    if newClaimAllowed = false then .ok (store, none)
    else dispatchOrNone host environment store request (some (.replace job lease))
  | some (.reoffer job) =>
    dispatchOrNone host environment store request (some (.reoffer job))
  | none =>
    if newClaimAllowed = false then .ok (store, none)
    else do
      let queued ← selectQueued host environment store request selection
      dispatchOrNone host environment store request (queued.map .reoffer)

def claimNextSelected (selection : QueuedJobSelection) : ClaimAnswer := do
  validateClaimRequest request
  match ← replayDriveReceipt store (repositoryScopeKey request.scope) request.requestId
      (host.digest request) with
  | some response => .ok (store, response.map fun receipt => { receipt with replayed := true })
  | none => claimFresh host environment store request newClaimAllowed selection

def claimNextWithCapacity : ClaimAnswer :=
  claimNextSelected host environment store request newClaimAllowed .any

def claimNext : ClaimAnswer :=
  claimNextWithCapacity host environment store request true

def claimAdmittedNextWithCapacity (admittedJobId : Option String) : ClaimAnswer :=
  claimNextSelected host environment store request newClaimAllowed
    (match admittedJobId with
      | none => .none
      | some jobId => .admitted jobId)

end Claims

end RepositoryScheduler

end WinWinCode.Storage
