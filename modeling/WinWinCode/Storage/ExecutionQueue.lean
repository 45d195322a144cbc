import WinWinCode.Storage.ExecutionRegistry

/-!
The queue of execution jobs, from `execution_queue.rs`. A job is submitted once,
moves between its states one revision at a time, may be cancelled, and may be given
another attempt. Every change leaves a receipt under the scope and request id of its
request. The scope key of a receipt stands for the scope it is the digest of.
-/

namespace WinWinCode.Storage

open Fallible Tables Text

inductive ExecutionJobState where
  | queued
  | leased
  | running
  | cancelling
  | completed
  | failed
deriving DecidableEq

/-- The states the index of active work runs is about. -/
def ExecutionJobState.active : ExecutionJobState → Bool
  | .queued => true
  | .leased => true
  | .running => true
  | .cancelling => true
  | .completed => false
  | .failed => false

structure ExecutionJobCancellationIntent where
  (requestId requestedAt : String)
deriving DecidableEq

structure ExecutionJobSubmission where
  scope : ExecutionQueueScope
  (jobId requestId payloadDigest : String)
  dispatchPayload : List UInt8
  attempt : Nat
  dependencies : List String
  workRunId : Option String
  submittedAt : String

/-- The fields `from` and `to` are `source` and `target`. -/
structure ExecutionJobTransitionRequest where
  scope : ExecutionQueueScope
  (jobId requestId : String)
  expectedRevision : Nat
  (source target : ExecutionJobState)
  occurredAt : String

structure ExecutionJobCancellationRequest where
  scope : ExecutionQueueScope
  (jobId requestId : String)
  expectedRevision : Nat
  requestedAt : String

structure ExecutionJobReplacement where
  (jobId requestId : String)
  (expectedRevision previousAttempt nextAttempt : Nat)
  dispatchPayload : List UInt8
  occurredAt : String

structure ExecutionJobRecord where
  scope : ExecutionQueueScope
  (jobId submissionRequestId payloadDigest : String)
  dispatchPayload : List UInt8
  state : ExecutionJobState
  (attempt revision : Nat)
  dependencies : List String
  workRunId : Option String
  (submittedAt updatedAt : String)
  cancellation : Option ExecutionJobCancellationIntent
deriving DecidableEq

structure ExecutionJobMutationReceipt where
  job : ExecutionJobRecord
  replayed : Bool

inductive ExecutionJobSubmissionMode where
  | submitOrReplay
  | requireNew
  | requireReplay
deriving DecidableEq

inductive QueueValue where
  | submission (request : ExecutionJobSubmission)
  | transition (request : ExecutionJobTransitionRequest)
  | cancellation (request : ExecutionJobCancellationRequest)
  | replacement (request : ExecutionJobReplacement)

/-! The tables. -/

structure ExecutionJobRow where
  jobId : String
  scope : ExecutionQueueScope
  workRunId : Option String
  (submissionRequestId payloadDigest : String)
  dispatchPayload : List UInt8
  state : ExecutionJobState
  (attempt revision : Nat)
  (submittedAt updatedAt : String)
  cancellation : Option ExecutionJobCancellationIntent

/-- Primary key `job_id`; the work run of active jobs is unique. -/
abbrev ExecutionJobRow.Clash (left right : ExecutionJobRow) : Prop :=
  left.jobId = right.jobId ∨ (left.workRunId.isSome = true ∧ left.workRunId = right.workRunId ∧
    left.state.active = true ∧ right.state.active = true)

structure JobDependencyRow where
  (jobId dependencyJobId : String)
  ordinal : Nat

abbrev JobDependencyRow.Clash (left right : JobDependencyRow) : Prop :=
  left.jobId = right.jobId ∧
    (left.dependencyJobId = right.dependencyJobId ∨ left.ordinal = right.ordinal)

inductive QueueOperation where
  | submit
  | transition
  | cancel

structure QueueReceiptRow where
  scope : ExecutionQueueScope
  requestId : String
  operation : QueueOperation
  (jobId requestDigest : String)
  response : ExecutionJobMutationReceipt

abbrev QueueReceiptRow.Clash (left right : QueueReceiptRow) : Prop :=
  left.scope = right.scope ∧ left.requestId = right.requestId

abbrev JobTable := Table ExecutionJobRow ExecutionJobRow.Clash

structure QueueStore where
  jobs : JobTable
  dependencies : Table JobDependencyRow JobDependencyRow.Clash
  receipts : Table QueueReceiptRow QueueReceiptRow.Clash

abbrev QueueAnswer := StorageResult (QueueStore × ExecutionJobMutationReceipt)

def QueueStore.empty : QueueStore := ⟨.empty, .empty, .empty⟩

namespace ExecutionQueue

open ExecutionRegistry (validateId validateInstant isDigest)

abbrev Digest := QueueValue → String

def maxAttempt : Nat := 1000

def maxDependencies : Nat := 1024

def maxDispatchPayloadBytes : Nat := 16777216

def sqlError : StorageError := .adapter "SQLite operation failed: UNIQUE constraint failed"

/-- A sum beyond `i64::MAX` is stored as a real number, which is no integer when read. -/
def sqlRange : StorageError := .adapter "SQLite operation failed: Invalid column type Real"

/-! Checks. -/

def validateDigest (digest : String) : StorageCheck :=
  refuse (isDigest digest = false) (.invalidInput "execution payload digest is not canonical")

def validateDelivery : Option String → StorageCheck
  | some delivery => validateId delivery "dlv_" "deliveryId"
  | none => .ok ()

variable (digest : Digest) (store : QueueStore) (request : ExecutionJobSubmission)
  (scope : ExecutionQueueScope)

def validateScope : StorageCheck := do
  validateId scope.organizationId "org_" "organizationId"
  validateId scope.workspaceId "wsp_" "workspaceId"
  validateId scope.projectId "prj_" "projectId"
  validateId scope.repositoryId "rep_" "repositoryId"
  validateId scope.productSessionId "psn_" "productSessionId"
  validateDelivery scope.deliveryId

def validateChange (jobId requestId : String)
    (expectedRevision : Nat) (moment field : String) : StorageCheck := do
  validateScope scope
  validateId jobId "job_" "jobId"
  validateId requestId "req_" "requestId"
  validateInstant moment field
  refuse (expectedRevision = 0 ∨ sqliteMax < expectedRevision)
    (.invalidInput "expected revision is outside the supported range")

def validateTransitionRequest (request : ExecutionJobTransitionRequest) : StorageCheck :=
  validateChange request.scope request.jobId request.requestId request.expectedRevision
    request.occurredAt "occurredAt"

def validateCancellationRequest (request : ExecutionJobCancellationRequest) : StorageCheck :=
  validateChange request.scope request.jobId request.requestId request.expectedRevision
    request.requestedAt "requestedAt"

/-- A delivery's job has a work run, a session's job has none. -/
def validateWorkRun : StorageCheck :=
  match request.workRunId with
  | some workRun => do
    validateId workRun "wrn_" "workRunId"
    refuse (request.scope.deliveryId = none)
      (.invalidInput "ProductSession execution job cannot reserve a WorkRun")
  | none => refuse (request.scope.deliveryId.isSome = true)
      (.invalidInput "Delivery execution job must reserve its WorkRun")

def hasAdjacentRepeat : List String → Bool
  | first :: second :: rest => first == second || hasAdjacentRepeat (second :: rest)
  | _ => false

def validateDependency (job dependency : String) : StorageCheck := do
  validateId dependency "job_" "dependencies.jobId"
  refuse (dependency = job) (.invalidInput "execution job cannot depend on itself")

def normalizedSubmission : StorageResult ExecutionJobSubmission := do
  validateScope request.scope
  validateId request.jobId "job_" "jobId"
  validateId request.requestId "req_" "requestId"
  validateDigest request.payloadDigest
  validateInstant request.submittedAt "submittedAt"
  refuse (request.dispatchPayload = [] ∨ maxDispatchPayloadBytes < request.dispatchPayload.length)
    (.invalidInput "execution job dispatch payload size is invalid")
  refuse (request.attempt = 0 ∨ maxAttempt < request.attempt)
    (.invalidInput "execution job attempt is outside the supported range")
  validateWorkRun request
  refuse (maxDependencies < request.dependencies.length)
    (.invalidInput "execution job dependencies exceed the maximum count")
  let dependencies := request.dependencies.insertionSort (· ≤ ·)
  dependencies.forM (validateDependency request.jobId)
  refuse (hasAdjacentRepeat dependencies = true)
    (.invalidInput "execution job dependencies contain duplicates")
  return { request with dependencies := dependencies }

def legalTransition : ExecutionJobState → ExecutionJobState → Bool
  | .queued, .leased => true
  | .queued, .failed => true
  | .leased, .running => true
  | .leased, .queued => true
  | .leased, .failed => true
  | .running, .queued => true
  | .running, .completed => true
  | .running, .failed => true
  | .cancelling, .completed => true
  | .cancelling, .failed => true
  | _, _ => false

/-! Reading. -/

def stored (message : String) (check : StorageCheck) : StorageCheck :=
  check.mapError fun _ => .adapter message

def validateStoredWorkRun : Option String → StorageCheck
  | some workRun =>
    stored "stored WorkRun identity is invalid" (validateId workRun "wrn_" "workRunId")
  | none => .ok ()

def validateStoredCancellation : Option ExecutionJobCancellationIntent → StorageCheck
  | some cancellation => do
    stored "stored cancellation request is invalid"
      (validateId cancellation.requestId "req_" "cancellation.requestId")
    stored "stored cancellation time is invalid"
      (validateInstant cancellation.requestedAt "cancellation.requestedAt")
  | none => .ok ()

def validateStoredRecord (record : ExecutionJobRecord) : StorageCheck := do
  stored "stored execution job scope is invalid" (validateScope record.scope)
  stored "stored execution job identity is invalid" (validateId record.jobId "job_" "jobId")
  stored "stored submission request identity is invalid"
    (validateId record.submissionRequestId "req_" "submissionRequestId")
  stored "stored execution payload digest is invalid" (validateDigest record.payloadDigest)
  validateStoredWorkRun record.workRunId
  refuse (record.scope.deliveryId.isSome ≠ record.workRunId.isSome)
    (.adapter "stored execution WorkRun reservation is inconsistent")
  stored "stored submission time is invalid" (validateInstant record.submittedAt "submittedAt")
  stored "stored update time is invalid" (validateInstant record.updatedAt "updatedAt")
  refuse (record.updatedAt < record.submittedAt ∨ record.dispatchPayload = [] ∨
      maxDispatchPayloadBytes < record.dispatchPayload.length ∨ record.attempt = 0 ∨
      maxAttempt < record.attempt ∨ record.revision = 0 ∨
      maxDependencies < record.dependencies.length)
    (.adapter "stored execution job values are invalid")
  record.dependencies.forM fun dependency =>
    stored "stored dependency identity is invalid"
      (validateId dependency "job_" "dependencies.jobId")
  validateStoredCancellation record.cancellation
  refuse (record.state = .cancelling ∧ record.cancellation = none)
    (.adapter "stored cancelling job has no cancellation intent")

def jobRow (jobs : JobTable) (jobId : String) : Option ExecutionJobRow :=
  jobs.find fun row => row.jobId == jobId

def dependenciesOf (jobId : String) : List String :=
  ((store.dependencies.rows.filter fun row => row.jobId == jobId).insertionSort
    fun left right => left.ordinal ≤ right.ordinal).map (·.dependencyJobId)

def recordOf (row : ExecutionJobRow) : ExecutionJobRecord where
  scope := row.scope
  jobId := row.jobId
  submissionRequestId := row.submissionRequestId
  payloadDigest := row.payloadDigest
  dispatchPayload := row.dispatchPayload
  state := row.state
  attempt := row.attempt
  revision := row.revision
  dependencies := dependenciesOf store row.jobId
  workRunId := row.workRunId
  submittedAt := row.submittedAt
  updatedAt := row.updatedAt
  cancellation := row.cancellation

def completeRecord (row : ExecutionJobRow) : StorageResult ExecutionJobRecord := do
  refuse (sqliteMax < row.revision) sqlRange
  validateStoredRecord (recordOf store row)
  return recordOf store row

def completeFound : Option ExecutionJobRow → StorageResult (Option ExecutionJobRecord)
  | none => .ok none
  | some row => do
    let record ← completeRecord store row
    return some record

def loadScopedJob (jobId : String) : StorageResult (Option ExecutionJobRecord) :=
  completeFound store (store.jobs.find fun row => row.jobId == jobId && row.scope == scope)

def isBlocking (row : JobDependencyRow) : Bool :=
  match jobRow store.jobs row.dependencyJobId with
  | none => true
  | some dependency => dependency.state != .completed || dependency.cancellation.isSome

def hasBlockingDependency (jobId : String) : Bool :=
  store.dependencies.rows.any fun row => row.jobId == jobId && isBlocking store row

/-! Receipts. -/

def receiptRow (requestId : String) : Option QueueReceiptRow :=
  store.receipts.find fun row => row.scope == scope && row.requestId == requestId

def replayReceipt (requestId requestDigest : String) :
    StorageResult (Option ExecutionJobMutationReceipt) :=
  match receiptRow store scope requestId with
  | none => .ok none
  | some row => do
    refuse (row.requestDigest ≠ requestDigest) (.requestConflict requestId)
    validateStoredRecord row.response.job
    return some { row.response with replayed := true }

def finishMutation (requestId : String)
    (operation : QueueOperation) (jobId requestDigest missing : String) : QueueAnswer := do
  let loaded ← loadScopedJob store scope jobId
  let job ← okOr loaded (.adapter missing)
  let receipts ← okOr (store.receipts.insert
    ⟨scope, requestId, operation, jobId, requestDigest, ⟨job, false⟩⟩) sqlError
  return ({ store with receipts := receipts }, ⟨job, false⟩)

def replayOr (requestId requestDigest : String) (perform : QueueAnswer) : QueueAnswer := do
  match ← replayReceipt store scope requestId requestDigest with
  | some receipt => .ok (store, receipt)
  | none => perform

def updateJob (selected : ExecutionJobRow → Bool)
    (change : ExecutionJobRow → ExecutionJobRow) (lost : String) : StorageResult QueueStore := do
  let jobs ← okOr (store.jobs.update selected change) sqlError
  refuse ((store.jobs.rows.filter selected).length ≠ 1) (.adapter lost)
  return { store with jobs := jobs }

/-! Operations. -/

def transitionNew (request : ExecutionJobTransitionRequest) : QueueAnswer := do
  let loaded ← loadScopedJob store request.scope request.jobId
  let current ← okOr loaded (.invalidInput "execution job does not exist")
  refuse (current.revision ≠ request.expectedRevision)
    (.revisionConflict request.expectedRevision current.revision)
  refuse (current.state ≠ request.source)
    (.invalidInput "execution job source state does not match durable state")
  refuse (legalTransition request.source request.target = false)
    (.invalidInput "execution job state transition is illegal")
  refuse (request.occurredAt < current.updatedAt)
    (.invalidInput "execution job transition precedes its durable state")
  refuse (request.target = .leased ∧ hasBlockingDependency store request.jobId = true)
    (.invalidInput "execution job dependencies are not completed successfully")
  let changed ← updateJob store
    (fun row => row.jobId == request.jobId && row.revision == request.expectedRevision &&
      row.state == request.source)
    (fun row => { row with
      state := request.target, revision := row.revision + 1, updatedAt := request.occurredAt })
    "execution job transition lost its transaction authority"
  finishMutation changed request.scope request.requestId .transition request.jobId
    (digest (.transition request)) "transitioned execution job was not stored"

def transitionExecutionJob (request : ExecutionJobTransitionRequest) : QueueAnswer := do
  validateTransitionRequest request
  replayOr store request.scope request.requestId (digest (.transition request))
    (transitionNew digest store request)

def cancelNew (request : ExecutionJobCancellationRequest) : QueueAnswer := do
  let loaded ← loadScopedJob store request.scope request.jobId
  let current ← okOr loaded (.invalidInput "execution job does not exist")
  refuse (current.revision ≠ request.expectedRevision)
    (.revisionConflict request.expectedRevision current.revision)
  refuse (current.state ≠ .queued ∧ current.state ≠ .leased ∧ current.state ≠ .running)
    (.invalidInput "execution job cannot accept cancellation in its durable state")
  refuse (request.requestedAt < current.updatedAt)
    (.invalidInput "execution job cancellation precedes its durable state")
  let changed ← updateJob store
    (fun row => row.jobId == request.jobId && row.revision == request.expectedRevision &&
      row.state == current.state)
    (fun row => { row with
      state := .cancelling
      revision := row.revision + 1
      updatedAt := request.requestedAt
      cancellation := some ⟨request.requestId, request.requestedAt⟩ })
    "execution job cancellation lost its transaction authority"
  finishMutation changed request.scope request.requestId .cancel request.jobId
    (digest (.cancellation request)) "cancelled execution job was not stored"

def cancelExecutionJob (request : ExecutionJobCancellationRequest) : QueueAnswer := do
  validateCancellationRequest request
  replayOr store request.scope request.requestId (digest (.cancellation request))
    (cancelNew digest store request)

def replaceable : ExecutionJobState → Bool
  | .leased => true
  | .running => true
  | .failed => true
  | _ => false

def replaceNew (current : ExecutionJobRecord)
    (request : ExecutionJobReplacement) (workRunId : Option String) : QueueAnswer := do
  let loaded ← loadScopedJob store current.scope current.jobId
  let durable ← okOr loaded (.invalidInput "execution job does not exist")
  refuse (durable ≠ current) (.revisionConflict current.revision durable.revision)
  let changed ← updateJob store
    (fun row => row.jobId == current.jobId && row.revision == current.revision &&
      row.attempt == current.attempt && row.state == current.state && row.cancellation.isNone)
    (fun row => { row with
      state := .leased
      attempt := request.nextAttempt
      workRunId := workRunId
      dispatchPayload := request.dispatchPayload
      revision := row.revision + 1
      updatedAt := request.occurredAt })
    "execution job replacement lost its transaction authority"
  finishMutation changed current.scope request.requestId .transition current.jobId
    (digest (.replacement request)) "replaced execution job was not stored"

def replaceExecutionJobAttempt
    (current : ExecutionJobRecord) (requestId : String) (nextAttempt : Nat)
    (workRunId : Option String) (dispatchPayload : List UInt8) (occurredAt : String) :
    QueueAnswer := do
  validateScope current.scope
  validateId current.jobId "job_" "jobId"
  validateId requestId "req_" "requestId"
  validateInstant occurredAt "occurredAt"
  refuse (replaceable current.state = false ∨ current.cancellation.isSome = true ∨
      nextAttempt ≠ current.attempt + 1 ∨ maxAttempt < nextAttempt ∨ dispatchPayload = [] ∨
      maxDispatchPayloadBytes < dispatchPayload.length ∨ occurredAt < current.updatedAt)
    (.invalidInput "execution job replacement authority is invalid")
  let request := ⟨current.jobId, requestId, current.revision, current.attempt, nextAttempt,
    dispatchPayload, occurredAt⟩
  replayOr store current.scope requestId (digest (.replacement request))
    (replaceNew digest store current request workRunId)

def requireExactSubmissionReceipt (receipt : ExecutionJobMutationReceipt) : StorageCheck :=
  refuse (receipt.job ≠
      { scope := request.scope
        jobId := request.jobId
        submissionRequestId := request.requestId
        payloadDigest := request.payloadDigest
        dispatchPayload := request.dispatchPayload
        state := .queued
        attempt := request.attempt
        revision := 1
        dependencies := request.dependencies
        workRunId := request.workRunId
        submittedAt := request.submittedAt
        updatedAt := request.submittedAt
        cancellation := none })
    (.adapter "execution job submission receipt is inconsistent")

def checkDependency (dependency : String) : StorageCheck :=
  match jobRow store.jobs dependency with
  | none => .error (.invalidInput "execution job dependency does not exist")
  | some row => do
    validateScope row.scope
    refuse (row.scope ≠ scope)
      (.invalidInput "execution job dependency belongs to another scope")

def submittedRow : ExecutionJobRow where
  jobId := request.jobId
  scope := request.scope
  workRunId := request.workRunId
  submissionRequestId := request.requestId
  payloadDigest := request.payloadDigest
  dispatchPayload := request.dispatchPayload
  state := .queued
  attempt := request.attempt
  revision := 1
  submittedAt := request.submittedAt
  updatedAt := request.submittedAt
  cancellation := none

def insertDependency (jobId : String) (rows : Table JobDependencyRow JobDependencyRow.Clash)
    (dependency : String × Nat) : StorageResult (Table JobDependencyRow JobDependencyRow.Clash) :=
  okOr (rows.insert ⟨jobId, dependency.1, dependency.2⟩) sqlError

def insertSubmission : QueueAnswer := do
  refuse ((jobRow store.jobs request.jobId).isSome = true)
    (.invalidInput "execution job identity already exists")
  request.dependencies.forM (checkDependency store request.scope)
  let jobs ← okOr (store.jobs.insert (submittedRow request)) sqlError
  let dependencies ← request.dependencies.zipIdx.foldlM (insertDependency request.jobId)
    store.dependencies
  finishMutation { store with jobs := jobs, dependencies := dependencies } request.scope
    request.requestId .submit request.jobId (digest (.submission request))
    "submitted execution job was not stored"

def submitExecutionJob (submission : ExecutionJobSubmission) (mode : ExecutionJobSubmissionMode) :
    QueueAnswer := do
  let request ← normalizedSubmission submission
  match ← replayReceipt store request.scope request.requestId (digest (.submission request)) with
  | some receipt => do
    refuse (mode = .requireNew)
      (.invalidInput "execution job receipt exists without its atomic state receipt")
    requireExactSubmissionReceipt request receipt
    return (store, receipt)
  | none => do
    refuse (mode = .requireReplay) (.requestReplayMissing request.requestId)
    insertSubmission digest store request

end ExecutionQueue

end WinWinCode.Storage
