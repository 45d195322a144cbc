import WinWinCode.Foundation.Tables
import WinWinCode.Storage.ExecutionValues
import WinWinCode.Storage.StorageErrors

/-!
Execution leases, from `execution_registry.rs`: a worker claims a job, renews its
lease, reports the dispatch and finishes. Each job has one lease row; a claim
replaces it. Requests leave receipts and are answered from them again. The worker
tables are only read here, and what they answer comes with each call.
-/

namespace WinWinCode.Storage

open Fallible Tables Text

inductive LeaseWriteStatus where
  | accepted
  | duplicate
  | gap
  | rejectedConflict
  | rejectedExpiredLease
  | rejectedStaleFencingToken
  | rejectedWorkerInstance
deriving DecidableEq

structure ExecutionLeaseClaim where
  (expiresAt fencingToken issuedAt jobId leaseId messageId payloadDigest requestId : String)
  (workerId workerInstanceId : String)
  attempt : Nat

structure ExecutionLeaseRenewal where
  (expiresAt fencingToken jobId leaseId messageId priorExpiresAt requestId sentAt workerId : String)
  (workerInstanceId : String)
  attempt : Nat

inductive ExecutionLeaseTerminalOutcome where
  | completed
  | cancelled
  | failed
deriving DecidableEq

structure ExecutionLeaseTerminalRequest where
  (jobId leaseId workerId workerInstanceId : String)
  attempt : Nat
  fencingToken : String
  outcome : ExecutionLeaseTerminalOutcome
  (terminalAt requestId : String)

structure ExecutionLeaseReceipt where
  status : LeaseWriteStatus
  lease : Option ExecutionLeaseRecord
  replayed : Bool

inductive DispatchResultStatus where
  | accepted
  | duplicate
  | conflict
  | rejectedCapacity
  | rejectedCapability
  | rejectedExpiredLease
  | rejectedStaleFencingToken
  | rejectedWorkerInstance
deriving DecidableEq

inductive DispatchResultErrorCode where
  | messageConflict
  | jobDispatchConflict
  | leaseExpired
  | staleFencingToken
  | workerNotRegistered
  | workerInstanceChanged

structure DispatchResultError where
  code : DispatchResultErrorCode
  retryable : Bool

structure DispatchResultReceipt where
  status : DispatchResultStatus
  error : Option DispatchResultError
  replayed : Bool

structure DispatchResultRequest where
  (checkedAt expiresAt fencingToken issuedAt jobId leaseId messageId payloadDigest : String)
  (requestId sentAt : String)
  status : DispatchResultStatus
  attempt : Nat
  error : Option String
  (workerId workerInstanceId : String)
  workerSessionId : Option String

/-- The pool of an authenticated worker placement, and the digest of the placement. -/
structure WorkerPlacement where
  (workerPoolId placementDigest : String)

structure ExecutionLeasePlacement where
  (jobId leaseId workerId workerInstanceId workerPoolId workerPlacementDigest claimedAt : String)

inductive RegistryValue where
  | claim (request : ExecutionLeaseClaim)
  | renewal (request : ExecutionLeaseRenewal)
  | terminal (request : ExecutionLeaseTerminalRequest)
  | dispatchResult (request : DispatchResultRequest)
  | leasePlacement (record : ExecutionLeasePlacement)

structure WorkerDirectory where
  /-- The current instance of a registered worker. -/
  loadWorker : String → StorageResult (Option String)
  isCurrent : String → String → Bool
  placement : String → String → StorageResult (Option WorkerPlacement)
  acceptsNewClaim : String → StorageResult Bool

/-! The tables. -/

/-- Primary key `job_id`, unique `lease_id`. -/
abbrev ExecutionLeaseRecord.Clash (left right : ExecutionLeaseRecord) : Prop :=
  left.jobId = right.jobId ∨ left.leaseId = right.leaseId

inductive LeaseOperation where
  | claim
  | renew
  | dispatchResult
deriving DecidableEq

inductive LeaseResponse where
  | lease (receipt : ExecutionLeaseReceipt)
  | dispatch (receipt : DispatchResultReceipt)

structure LeaseReceiptRow where
  operation : LeaseOperation
  (jobId requestId requestDigest : String)
  response : LeaseResponse

abbrev LeaseReceiptRow.Clash (left right : LeaseReceiptRow) : Prop :=
  left.operation = right.operation ∧ left.jobId = right.jobId ∧ left.requestId = right.requestId

structure ExecutionDispatchAuthority where
  lease : ExecutionLeaseRecord
  (workerSessionId dispatchRequestId acceptedAt : String)

/-- Primary key `job_id`; lease, worker session and dispatch request are unique. -/
abbrev ExecutionDispatchAuthority.Clash (left right : ExecutionDispatchAuthority) : Prop :=
  left.lease.jobId = right.lease.jobId ∨ left.lease.leaseId = right.lease.leaseId ∨
    left.workerSessionId = right.workerSessionId ∨
    left.dispatchRequestId = right.dispatchRequestId

structure LeaseTerminalRow where
  request : ExecutionLeaseTerminalRequest
  requestDigest : String

/-- Primary key `lease_id`, unique `request_id` and `(job_id, attempt)`. -/
abbrev LeaseTerminalRow.Clash (left right : LeaseTerminalRow) : Prop :=
  left.request.leaseId = right.request.leaseId ∨
    left.request.requestId = right.request.requestId ∨
    (left.request.jobId = right.request.jobId ∧ left.request.attempt = right.request.attempt)

structure LeasePlacementRow where
  (jobId leaseId placementDigest : String)
  record : ExecutionLeasePlacement

abbrev LeasePlacementRow.Clash (left right : LeasePlacementRow) : Prop :=
  left.jobId = right.jobId ∨ left.leaseId = right.leaseId

structure RegistryStore where
  leases : Table ExecutionLeaseRecord ExecutionLeaseRecord.Clash
  receipts : Table LeaseReceiptRow LeaseReceiptRow.Clash
  authorities : Table ExecutionDispatchAuthority ExecutionDispatchAuthority.Clash
  terminals : Table LeaseTerminalRow LeaseTerminalRow.Clash
  placements : Table LeasePlacementRow LeasePlacementRow.Clash

abbrev LeaseAnswer := StorageResult (RegistryStore × ExecutionLeaseReceipt)

namespace RegistryStore

def empty : RegistryStore := ⟨.empty, .empty, .empty, .empty, .empty⟩

variable (store : RegistryStore)

def leaseRow (job : String) : Option ExecutionLeaseRecord :=
  store.leases.find fun row => row.jobId == job

def receiptRow (operation : LeaseOperation) (job requestId : String) : Option LeaseReceiptRow :=
  store.receipts.find fun row =>
    row.operation == operation && row.jobId == job && row.requestId == requestId

def terminalRow (leaseId : String) : Option LeaseTerminalRow :=
  store.terminals.find fun row => row.request.leaseId == leaseId

end RegistryStore

namespace ExecutionRegistry

/-! Checks. -/

abbrev Digest := RegistryValue → String

def sqlError : StorageError :=
  .adapter "execution registry SQLite error: UNIQUE constraint failed"

def corrupt : StorageError := .adapter "execution registry value is corrupt"

def validateId (value head field : String) : StorageCheck :=
  refuse (isCanonicalId head value = false) (.invalidInput (field ++ " is not canonical"))

def isDigest (value : String) : Bool :=
  match stripPrefix "sha256:" value with
  | some hex => hex.length == 64 && hex.all isLowerHex
  | none => false

def validateDigest (digest : String) : StorageCheck :=
  refuse (isDigest digest = false) (.invalidInput "payload digest is not canonical")

/-- A decimal number of at most twenty digits, without leading zeros. -/
def isFencingToken (token : String) : Bool :=
  !token.toList.isEmpty && decide (token.toList.length ≤ 20) && token.toList.head? != some '0' &&
    isDigits token.toList

def validateFencingToken (token : String) : StorageCheck :=
  refuse (isFencingToken token = false) (.invalidInput "fencing token is not canonical")

def validateInstant (value field : String) : StorageCheck :=
  refuse (isCanonicalInstant value = false) (.invalidInput (field ++ " is not canonical"))

def maxLeaseAttempt : Nat := 1000

def validateAttempt (attempt : Nat) (message : String) : StorageCheck :=
  refuse (attempt = 0 ∨ maxLeaseAttempt < attempt) (.invalidInput message)

def validateLeaseWindow (issuedAt expiresAt : String) : StorageCheck := do
  validateInstant issuedAt "issuedAt"
  validateInstant expiresAt "expiresAt"
  refuse (expiresAt ≤ issuedAt) (.invalidInput "lease expiresAt must follow issuedAt")

def validateClaim (request : ExecutionLeaseClaim) : StorageCheck := do
  validateId request.jobId "job_" "jobId"
  validateId request.leaseId "lse_" "leaseId"
  validateId request.messageId "xmsg_" "messageId"
  validateId request.requestId "req_" "requestId"
  validateId request.workerId "wrk_" "workerId"
  validateId request.workerInstanceId "wki_" "workerInstanceId"
  validateDigest request.payloadDigest
  validateFencingToken request.fencingToken
  validateAttempt request.attempt "attempt is outside the supported range"
  validateLeaseWindow request.issuedAt request.expiresAt

def validateRenewal (request : ExecutionLeaseRenewal) : StorageCheck := do
  validateId request.jobId "job_" "jobId"
  validateId request.leaseId "lse_" "leaseId"
  validateId request.messageId "xmsg_" "messageId"
  validateId request.requestId "req_" "requestId"
  validateId request.workerId "wrk_" "workerId"
  validateId request.workerInstanceId "wki_" "workerInstanceId"
  validateFencingToken request.fencingToken
  validateAttempt request.attempt "attempt is outside the supported range"
  validateInstant request.sentAt "sentAt"
  validateLeaseWindow request.priorExpiresAt request.expiresAt

def validateLeaseTerminal (request : ExecutionLeaseTerminalRequest) : StorageCheck := do
  validateId request.jobId "job_" "jobId"
  validateId request.leaseId "lse_" "leaseId"
  validateId request.workerId "wrk_" "workerId"
  validateId request.workerInstanceId "wki_" "workerInstanceId"
  validateId request.requestId "req_" "requestId"
  validateInstant request.terminalAt "terminalAt"
  validateAttempt request.attempt "attempt is invalid"
  validateFencingToken request.fencingToken

def validateWorkerSession : Option String → StorageCheck
  | some workerSessionId => validateId workerSessionId "wsn_" "workerSessionId"
  | none => .ok ()

variable (digest : Digest) (workers : WorkerDirectory) (store : RegistryStore)
  (request : DispatchResultRequest)

def validateDispatchResult : StorageCheck := do
  validateId request.jobId "job_" "jobId"
  validateId request.leaseId "lse_" "leaseId"
  validateId request.messageId "xmsg_" "messageId"
  validateId request.requestId "req_" "requestId"
  validateId request.workerId "wrk_" "workerId"
  validateId request.workerInstanceId "wki_" "workerInstanceId"
  validateWorkerSession request.workerSessionId
  validateDigest request.payloadDigest
  validateFencingToken request.fencingToken
  refuse (request.attempt = 0) (.invalidInput "attempt must be positive")
  validateInstant request.checkedAt "checkedAt"
  validateLeaseWindow request.issuedAt request.expiresAt

variable (row : LeaseReceiptRow) (requestDigest : String) (lease current : ExecutionLeaseRecord)

def validateLeaseRecord : StorageCheck := do
  validateId lease.jobId "job_" "jobId"
  validateId lease.leaseId "lse_" "leaseId"
  validateId lease.workerId "wrk_" "workerId"
  validateId lease.workerInstanceId "wki_" "workerInstanceId"
  validateDigest lease.payloadDigest
  validateFencingToken lease.fencingToken
  validateAttempt lease.attempt "attempt is outside the supported range"
  validateLeaseWindow lease.issuedAt lease.expiresAt

/-- A stored lease that fails its checks is an adapter failure. -/
def validateStoredLease : StorageCheck :=
  (validateLeaseRecord lease).mapError fun error =>
    .adapter ("durable execution lease is corrupt: " ++ error.message)

/-- Canonical decimals of one length compare as texts; a shorter one is smaller. -/
def lessDecimal (left right : String) : Bool :=
  decide (left.toList.length < right.toList.length) ||
    (left.toList.length == right.toList.length && decide (left < right))

/-! Reading the tables. -/

def validateFound : Option ExecutionLeaseRecord →
    StorageResult (Option ExecutionLeaseRecord)
  | some lease => (validateStoredLease lease).map fun _ => some lease
  | none => .ok none

def loadLease (job : String) : StorageResult (Option ExecutionLeaseRecord) :=
  validateFound (store.leaseRow job)

/-- A receipt that does not carry a lease any more, or a corrupt one, is not answered. -/
def validateReceipt (receipt : ExecutionLeaseReceipt) : StorageCheck :=
  match receipt.lease with
  | some lease => validateStoredLease lease
  | none => .ok ()

def replayLease : StorageResult ExecutionLeaseReceipt :=
  if row.requestDigest = requestDigest then
    match row.response with
    | .lease receipt => do
      validateReceipt receipt
      return { receipt with status := .duplicate, replayed := true }
    | .dispatch _ => .error corrupt
  else .ok ⟨.rejectedConflict, none, false⟩

/-- Is this accepted receipt of a claim or a renewal about a period that ends then? -/
def isPeriod (job expiresAt : String) (row : LeaseReceiptRow) : Bool :=
  row.jobId == job && (row.operation == .claim || row.operation == .renew) &&
    match row.response with
    | .lease receipt => receipt.status == .accepted &&
        receipt.lease.any fun lease => lease.expiresAt == expiresAt
    | .dispatch _ => false

def checkPeriod (period : ExecutionLeaseRecord) (accepted : Bool) (row : LeaseReceiptRow) :
    StorageResult Bool :=
  match row.response with
  | .lease receipt => do
    let lease ← okOr receipt.lease (.adapter "accepted period has no lease")
    validateStoredLease lease
    refuse (receipt.status ≠ .accepted) (.adapter "accepted period has invalid status")
    refuse (lease.jobId ≠ period.jobId)
      (.adapter "stored lease period receipt belongs to another job")
    return accepted || lease == period
  | .dispatch _ => .error (.adapter "invalid stored lease period receipt")

def acceptedLeasePeriod (period : ExecutionLeaseRecord) : StorageResult Bool :=
  (store.receipts.rows.filter (isPeriod period.jobId period.expiresAt)).foldlM
    (checkPeriod period) false

/-! `claim_execution_job`. -/

def validateLeasePlacementBinding (placement : ExecutionLeasePlacement)
    (lease : ExecutionLeaseRecord) : StorageCheck := do
  validateId placement.workerPoolId "wpl_" "workerPoolId"
  validateDigest placement.workerPlacementDigest
  validateInstant placement.claimedAt "claimedAt"
  refuse (placement.jobId ≠ lease.jobId ∨ placement.leaseId ≠ lease.leaseId ∨
      placement.workerId ≠ lease.workerId ∨
      placement.workerInstanceId ≠ lease.workerInstanceId ∨
      placement.claimedAt ≠ lease.issuedAt)
    (.adapter "lease placement differs from its current Registry lease")

def loadLeasePlacement (job : String) : StorageResult (Option ExecutionLeasePlacement) :=
  match store.placements.find fun row => row.jobId == job with
  | none => .ok none
  | some row => do
    refuse (row.record.jobId ≠ job ∨ row.record.leaseId ≠ row.leaseId ∨
        digest (.leasePlacement row.record) ≠ row.placementDigest)
      (.adapter "stored lease placement differs from its authority columns")
    return some row.record

def requireLeasePlacementForReceipt (receipt : ExecutionLeaseReceipt) : StorageCheck := do
  let lease ← okOr receipt.lease
    (.adapter "authenticated lease replay lost its accepted lease")
  let loaded ← loadLeasePlacement digest store lease.jobId
  let placement ← okOr loaded (.adapter "authenticated lease replay lost its pool placement")
  validateLeasePlacementBinding placement lease

def replayClaim (requireAuthenticatedPlacement : Bool) : StorageResult ExecutionLeaseReceipt := do
  let receipt ← replayLease row requestDigest
  if requireAuthenticatedPlacement then
    (requireLeasePlacementForReceipt digest store receipt).map fun _ => receipt
  else .ok receipt

def answered {Answer : Type} (store : RegistryStore) (answer : Answer) :
    StorageResult (RegistryStore × Answer) := .ok (store, answer)

def claimedLease (request : ExecutionLeaseClaim) : ExecutionLeaseRecord where
  jobId := request.jobId
  leaseId := request.leaseId
  payloadDigest := request.payloadDigest
  workerId := request.workerId
  workerInstanceId := request.workerInstanceId
  attempt := request.attempt
  fencingToken := request.fencingToken
  issuedAt := request.issuedAt
  expiresAt := request.expiresAt

/-- Why a claim may not replace the current lease. A failed lease may be replaced before it
expires; a completed or cancelled one never. -/
def claimRefusal (request : ExecutionLeaseClaim) (current : ExecutionLeaseRecord)
    (terminal : Option LeaseTerminalRow) : Option LeaseWriteStatus :=
  if (terminal.any fun row => row.request.outcome != .failed ||
      decide (request.issuedAt < row.request.terminalAt)) = true then some .rejectedConflict
  else if lessDecimal request.fencingToken current.fencingToken = true then
    some .rejectedStaleFencingToken
  else if terminal.isNone = true ∧ request.issuedAt < current.expiresAt then
    some .rejectedConflict
  else if request.attempt ≤ current.attempt then some .rejectedExpiredLease
  else if request.leaseId = current.leaseId ∨ request.fencingToken = current.fencingToken then
    some .rejectedConflict
  else none

/-- The placement row of a new lease; a claim without a placement removes the old one. -/
def persistLeasePlacement : Option WorkerPlacement →
      StorageResult (Table LeasePlacementRow LeasePlacementRow.Clash)
  | none => .ok (store.placements.deleteWhere fun row => row.jobId == lease.jobId)
  | some placement => do
    let record : ExecutionLeasePlacement := ⟨lease.jobId, lease.leaseId, lease.workerId,
      lease.workerInstanceId, placement.workerPoolId, placement.placementDigest, lease.issuedAt⟩
    validateLeasePlacementBinding record lease
    okOr (store.placements.upsert (fun row => row.jobId == lease.jobId)
      ⟨record.jobId, record.leaseId, digest (.leasePlacement record), record⟩) sqlError

/-- The dispatch authority of a replaced lease goes with it. -/
def dropAuthority : Option ExecutionLeaseRecord →
    Table ExecutionDispatchAuthority ExecutionDispatchAuthority.Clash
  | none => store.authorities
  | some current => store.authorities.deleteWhere fun row =>
    row.lease.jobId == current.jobId && row.lease.leaseId == current.leaseId

def grantLease (request : ExecutionLeaseClaim)
    (current : Option ExecutionLeaseRecord) (placement : Option WorkerPlacement) : LeaseAnswer := do
  let lease := claimedLease request
  let leases ← okOr (store.leases.upsert (fun row => row.jobId == request.jobId) lease) sqlError
  let placements ← persistLeasePlacement digest store lease placement
  let receipts ← okOr (store.receipts.insert ⟨.claim, request.jobId, request.requestId,
    digest (.claim request), .lease ⟨.accepted, some lease, false⟩⟩) sqlError
  return ({ store with
    leases := leases
    receipts := receipts
    authorities := dropAuthority store current
    placements := placements }, ⟨.accepted, some lease, false⟩)

def isForeignLease (request : ExecutionLeaseClaim) : Bool :=
  store.leases.rows.any fun row => row.leaseId == request.leaseId && row.jobId != request.jobId

def claimAgainst (request : ExecutionLeaseClaim) (placement : Option WorkerPlacement) :
    Option ExecutionLeaseRecord → LeaseAnswer
  | none => grantLease digest store request none placement
  | some current =>
    match claimRefusal request current (store.terminalRow current.leaseId) with
    | some status => answered store ⟨status, some current, false⟩
    | none => grantLease digest store request (some current) placement

def claimNew (request : ExecutionLeaseClaim) (requireAuthenticatedPlacement : Bool) : LeaseAnswer :=
  if workers.isCurrent request.workerId request.workerInstanceId = false then
    answered store ⟨.rejectedWorkerInstance, none, false⟩
  else do
    let placement ← workers.placement request.workerId request.workerInstanceId
    if requireAuthenticatedPlacement = true ∧ placement = none then
      answered store ⟨.rejectedWorkerInstance, none, false⟩
    else do
      let accepts ← workers.acceptsNewClaim request.workerId
      if accepts = false ∨ isForeignLease store request = true then
        answered store ⟨.rejectedConflict, none, false⟩
      else do
        let current ← loadLease store request.jobId
        claimAgainst digest store request placement current

def claimExecutionJob (request : ExecutionLeaseClaim) (requireAuthenticatedPlacement : Bool) :
    LeaseAnswer := do
  validateClaim request
  match store.receiptRow .claim request.jobId request.requestId with
  | some row =>
    (replayClaim digest store row (digest (.claim request)) requireAuthenticatedPlacement).map
      fun receipt => (store, receipt)
  | none => claimNew digest workers store request requireAuthenticatedPlacement

/-! `renew_execution_lease`. -/

def renewalRefusal (request : ExecutionLeaseRenewal)
    (current : ExecutionLeaseRecord) : Option LeaseWriteStatus :=
  if (store.terminalRow current.leaseId).isSome = true then some .rejectedConflict
  else if lessDecimal request.fencingToken current.fencingToken = true then
    some .rejectedStaleFencingToken
  else if request.workerId ≠ current.workerId ∨
      request.workerInstanceId ≠ current.workerInstanceId ∨
      request.leaseId ≠ current.leaseId ∨ request.attempt ≠ current.attempt ∨
      request.fencingToken ≠ current.fencingToken then some .rejectedConflict
  else if current.expiresAt ≤ request.sentAt then some .rejectedExpiredLease
  else if request.priorExpiresAt ≠ current.expiresAt then some .rejectedConflict
  else if request.expiresAt ≤ current.expiresAt then some .rejectedConflict
  else none

/-- `WHERE job_id = ? AND lease_id = ? AND attempt = ? AND fencing_token = ?`. -/
def isRenewed (request : ExecutionLeaseRenewal) (row : ExecutionLeaseRecord) : Bool :=
  row.jobId == request.jobId && row.leaseId == request.leaseId &&
    row.attempt == request.attempt && row.fencingToken == request.fencingToken

def extendLease (request : ExecutionLeaseRenewal) (current : ExecutionLeaseRecord) :
    LeaseAnswer := do
  let lease := { current with expiresAt := request.expiresAt }
  let receipts ← okOr (store.receipts.insert ⟨.renew, request.jobId, request.requestId,
    digest (.renewal request), .lease ⟨.accepted, some lease, false⟩⟩) sqlError
  return ({ store with
    leases := store.leases.updateWhere (isRenewed request)
      (fun row => { row with expiresAt := request.expiresAt }) fun _ _ _ => ⟨id, id⟩
    receipts := receipts }, ⟨.accepted, some lease, false⟩)

def renewAgainst (request : ExecutionLeaseRenewal) : Option ExecutionLeaseRecord → LeaseAnswer
  | none => answered store ⟨.rejectedConflict, none, false⟩
  | some current =>
    match renewalRefusal store request current with
    | some status => answered store ⟨status, some current, false⟩
    | none => extendLease digest store request current

def renewNew (request : ExecutionLeaseRenewal) : LeaseAnswer :=
  if workers.isCurrent request.workerId request.workerInstanceId = false then
    answered store ⟨.rejectedWorkerInstance, none, false⟩
  else do
    let current ← loadLease store request.jobId
    renewAgainst digest store request current

def renewExecutionLease (request : ExecutionLeaseRenewal) : LeaseAnswer := do
  validateRenewal request
  match store.receiptRow .renew request.jobId request.requestId with
  | some row => (replayLease row (digest (.renewal request))).map fun receipt => (store, receipt)
  | none => renewNew digest workers store request

/-! `finish_execution_lease`. -/

def finishNew (request : ExecutionLeaseTerminalRequest) : StorageResult (RegistryStore × Bool) := do
  let loaded ← loadLease store request.jobId
  let current ← okOr loaded (.invalidInput "execution lease does not exist")
  refuse (current.leaseId ≠ request.leaseId ∨ current.workerId ≠ request.workerId ∨
      current.workerInstanceId ≠ request.workerInstanceId ∨ current.attempt ≠ request.attempt ∨
      current.fencingToken ≠ request.fencingToken)
    (.invalidInput "execution lease terminal does not match current fenced authority")
  refuse (request.terminalAt < current.issuedAt)
    (.invalidInput "execution lease terminal predates the accepted lease")
  let terminals ← okOr (store.terminals.insert ⟨request, digest (.terminal request)⟩) sqlError
  return ({ store with terminals := terminals }, true)

def finishExecutionLease (request : ExecutionLeaseTerminalRequest) :
    StorageResult (RegistryStore × Bool) := do
  validateLeaseTerminal request
  match store.terminalRow request.leaseId with
  | some row => do
    refuse (row.request.requestId ≠ request.requestId ∨
        row.requestDigest ≠ digest (.terminal request))
      (.invalidInput "execution lease terminal replay conflicts with its durable receipt")
    return (store, false)
  | none => finishNew digest store request

/-! `record_dispatch_result`. -/

def dispatchResultRejection (status : DispatchResultStatus) (code : DispatchResultErrorCode) :
    DispatchResultReceipt :=
  ⟨status, some ⟨code, false⟩, false⟩

/-- The digest covers every field but `checkedAt`. -/
def dispatchResultDigest : String :=
  digest (.dispatchResult { request with checkedAt := "" })

def replayDispatchResult : StorageResult DispatchResultReceipt :=
  if row.requestDigest = requestDigest then
    match row.response with
    | .dispatch _ => .ok ⟨.duplicate, none, true⟩
    | .lease _ => .error corrupt
  else .ok (dispatchResultRejection .conflict .messageConflict)

def extendedAuthority (authority : ExecutionDispatchAuthority)
    (current : ExecutionLeaseRecord) : StorageResult ExecutionDispatchAuthority :=
  if current = authority.lease then .ok authority
  else do
    let differs := StorageError.adapter "dispatch authority differs from the current lease"
    refuse ({ authority.lease with expiresAt := current.expiresAt } ≠ current ∨
        current.expiresAt ≤ authority.lease.expiresAt) differs
    let before ← acceptedLeasePeriod store authority.lease
    refuse (before = false) differs
    let now ← acceptedLeasePeriod store current
    refuse (now = false) differs
    return { authority with lease := current }

def loadDispatchAuthority (job : String) : StorageResult (Option ExecutionDispatchAuthority) :=
  match store.authorities.find fun row => row.lease.jobId == job with
  | none => .ok none
  | some authority => do
    refuse (authority.lease.attempt = 0 ∨ maxLeaseAttempt < authority.lease.attempt)
      (.adapter "stored dispatch attempt is invalid")
    validateStoredLease authority.lease
    validateId authority.workerSessionId "wsn_" "workerSessionId"
    validateId authority.dispatchRequestId "req_" "dispatchRequestId"
    validateInstant authority.acceptedAt "acceptedAt"
    refuse (authority.acceptedAt < authority.lease.issuedAt)
      (.adapter "stored dispatch acceptance precedes lease issuance")
    let loaded ← loadLease store job
    let current ← okOr loaded (.adapter "dispatch authority lost its lease")
    (extendedAuthority store authority current).map some

def insertDispatchAuthority (workerSessionId dispatchRequestId acceptedAt : String) :
    StorageResult RegistryStore := do
  match ← loadDispatchAuthority store lease.jobId with
  | some existing => do
    refuse (existing.lease ≠ lease ∨ existing.workerSessionId ≠ workerSessionId ∨
        existing.dispatchRequestId ≠ dispatchRequestId)
      (.invalidInput "execution dispatch authority conflicts with the accepted result")
    return store
  | none => do
    let authorities ← okOr (store.authorities.insert
      ⟨lease, workerSessionId, dispatchRequestId, acceptedAt⟩) sqlError
    return { store with authorities := authorities }

def dispatchRefusal : Option DispatchResultReceipt :=
  if (store.terminalRow current.leaseId).isSome = true then
    some (dispatchResultRejection .conflict .jobDispatchConflict)
  else if lessDecimal request.fencingToken current.fencingToken = true then
    some (dispatchResultRejection .rejectedStaleFencingToken .staleFencingToken)
  else if request.sentAt < current.issuedAt then
    some (dispatchResultRejection .conflict .jobDispatchConflict)
  else if request.payloadDigest ≠ current.payloadDigest then
    some (dispatchResultRejection .conflict .jobDispatchConflict)
  else if request.leaseId ≠ current.leaseId ∨ request.workerId ≠ current.workerId ∨
      request.workerInstanceId ≠ current.workerInstanceId ∨ request.attempt ≠ current.attempt ∨
      request.fencingToken ≠ current.fencingToken ∨ request.issuedAt ≠ current.issuedAt then
    some (dispatchResultRejection .conflict .jobDispatchConflict)
  else none

/-- A result about another period of the lease counts when that period was accepted. -/
def isAcceptedPeriod : StorageResult Bool :=
  let period := { current with expiresAt := request.expiresAt }
  if period = current then .ok true else acceptedLeasePeriod store period

/-- An accepted dispatch names its worker session, which becomes the authority. -/
def authorizeDispatch : StorageResult RegistryStore :=
  if request.status = .accepted ∨ request.status = .duplicate then do
    let workerSessionId ← okOr request.workerSessionId
      (.invalidInput "accepted dispatch result has no WorkerSession authority")
    insertDispatchAuthority store current workerSessionId request.requestId request.checkedAt
  else .ok store

def storeDispatchResult : StorageResult (RegistryStore × DispatchResultReceipt) := do
  let authorized ← authorizeDispatch store request current
  let receipts ← okOr (authorized.receipts.insert ⟨.dispatchResult, request.jobId,
    request.requestId, dispatchResultDigest digest request,
    .dispatch ⟨request.status, none, false⟩⟩) sqlError
  return ({ authorized with receipts := receipts }, ⟨request.status, none, false⟩)

def dispatchAgainst :
    Option ExecutionLeaseRecord → StorageResult (RegistryStore × DispatchResultReceipt)
  | none => answered store (dispatchResultRejection .conflict .jobDispatchConflict)
  | some current =>
    match dispatchRefusal store request current with
    | some receipt => answered store receipt
    | none => do
      if ← isAcceptedPeriod store request current then
        storeDispatchResult digest store request current
      else answered store (dispatchResultRejection .conflict .jobDispatchConflict)

def dispatchBy : Option String → StorageResult (RegistryStore × DispatchResultReceipt)
  | none => answered store (dispatchResultRejection .rejectedWorkerInstance .workerNotRegistered)
  | some workerInstanceId =>
    if workerInstanceId ≠ request.workerInstanceId then
      answered store (dispatchResultRejection .rejectedWorkerInstance .workerInstanceChanged)
    else do
      let current ← loadLease store request.jobId
      dispatchAgainst digest store request current

def recordDispatchResult : StorageResult (RegistryStore × DispatchResultReceipt) :=
  match store.receiptRow .dispatchResult request.jobId request.requestId with
  | some row => (replayDispatchResult row (dispatchResultDigest digest request)).map fun receipt =>
    (store, receipt)
  | none => do
    validateDispatchResult request
    let worker ← workers.loadWorker request.workerId
    dispatchBy digest store request worker

end ExecutionRegistry

end WinWinCode.Storage
