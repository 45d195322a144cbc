import WinWinCode.Foundation.Fallible
import WinWinCode.Foundation.Tables
import WinWinCode.Storage.ExecutionValues

/-!
Records, checks and tables of execution admission, from `execution_admission.rs`.
A boundary limits what may be queued, run and spent under it; a reservation
charges six nested boundaries. Columns are typed and JSON columns hold the value
they encode. `scope_key` of a reservation row is written and never read, and is
left out.
-/

namespace WinWinCode.Storage

open Fallible Tables Text

inductive ExecutionAdmissionBoundary where
  | organization (organizationId : String)
  | project (organizationId projectId : String)
  | repository (organizationId projectId repositoryId : String)
  | delivery (organizationId deliveryId : String)
  | productSession (organizationId projectId productSessionId : String)
  | workerPool (organizationId workerPoolId : String)
deriving DecidableEq

structure ExecutionAdmissionLimits where
  (maxConcurrent maxQueued : Nat)
  (tokenBudget costBudgetMicrounits maxRuntimeMillis : Option Nat)
deriving DecidableEq

structure ExecutionAdmissionPolicy where
  boundary : ExecutionAdmissionBoundary
  limits : ExecutionAdmissionLimits
deriving DecidableEq

inductive ExecutionRepositoryAccess where
  | readOnly
  | sharedWrite
  | isolatedWrite (worktreeKey : String)
deriving DecidableEq

inductive ExecutionReservationState where
  | queued
  | running
  | released
  | settled
deriving DecidableEq

inductive ExecutionReservationReleaseReason where
  | cancelled
  | failed
deriving DecidableEq

structure ExecutionReservationRequest where
  scope : ExecutionQueueScope
  (userId workerPoolId jobId requestId : String)
  repositoryAccess : ExecutionRepositoryAccess
  (reservedTokens reservedCostMicrounits runtimeLimitMillis : Option Nat)
  submittedAt : String

structure ExecutionReservationStart where
  scope : ExecutionQueueScope
  (workerPoolId jobId requestId : String)
  expectedRevision : Nat
  startedAt : String

structure ExecutionReservationRelease where
  scope : ExecutionQueueScope
  (workerPoolId jobId requestId : String)
  expectedRevision : Nat
  reason : ExecutionReservationReleaseReason
  releasedAt : String

structure ExecutionReservationSettlement where
  scope : ExecutionQueueScope
  (workerPoolId jobId requestId : String)
  (expectedRevision actualTokens : Nat)
  actualCostMicrounits : Option Nat
  actualRuntimeMillis : Nat
  completedAt : String

/-- The columns of a reservation that no `UPDATE` writes. -/
structure ExecutionReservationClaim where
  scope : ExecutionQueueScope
  (userId workerPoolId jobId : String)
  repositoryAccess : ExecutionRepositoryAccess
  (reservedTokens reservedCostMicrounits runtimeLimitMillis : Option Nat)
  submittedAt : String
deriving DecidableEq

/-- The columns of a reservation that its transitions write. -/
structure ExecutionReservationProgress where
  state : ExecutionReservationState
  (actualTokens actualCostMicrounits actualRuntimeMillis : Option Nat)
  revision : Nat
  updatedAt : String
  (startedAt terminalAt : Option String)
  releaseReason : Option ExecutionReservationReleaseReason
deriving DecidableEq

structure ExecutionReservationRecord extends ExecutionReservationClaim,
    ExecutionReservationProgress
deriving DecidableEq

namespace ExecutionReservationRecord

def advanced (change : ExecutionReservationProgress → ExecutionReservationProgress)
    (record : ExecutionReservationRecord) : ExecutionReservationRecord :=
  { record with toExecutionReservationProgress := change record.toExecutionReservationProgress }

abbrev Clash (left right : ExecutionReservationRecord) : Prop := left.jobId = right.jobId

end ExecutionReservationRecord

structure WorkerSettlementSourceFact where
  (jobId settlementRequestId workerPoolId : String)
  scope : ExecutionQueueScope
  userId : String
  (actualRuntimeMillis actualTokens : Nat)
  actualCostMicrounits : Option Nat
  completedAt : String

structure ExecutionAdmissionReceipt where
  reservation : ExecutionReservationRecord
  replayed : Bool
deriving DecidableEq

inductive ExecutionAdmissionErrorCode where
  | invalidInput
  | requestConflict
  | revisionConflict
  | policyMissing
  | queueCapacityExhausted
  | concurrencyExhausted
  | tokenBudgetExhausted
  | costBudgetExhausted
  | runtimeLimitExceeded
  | repositoryWriteConflict
  | adapter

structure ExecutionAdmissionError where
  code : ExecutionAdmissionErrorCode
  boundary : Option ExecutionAdmissionBoundary
  message : String

abbrev AdmissionResult := Except ExecutionAdmissionError

abbrev AdmissionCheck := AdmissionResult Unit

namespace ExecutionAdmissionError

def invalid (message : String) : ExecutionAdmissionError := ⟨.invalidInput, none, message⟩

def adapter (message : String) : ExecutionAdmissionError := ⟨.adapter, none, message⟩

def rejected (code : ExecutionAdmissionErrorCode) (boundary : ExecutionAdmissionBoundary)
    (message : String) : ExecutionAdmissionError := ⟨code, some boundary, message⟩

end ExecutionAdmissionError

/-- The values whose JSON is digested. The digest itself is a parameter of every
operation; none of the results asks that it tell values apart. -/
inductive AdmissionValue where
  | boundary (boundary : ExecutionAdmissionBoundary)
  | scope (scope : ExecutionQueueScope) (workerPoolId : String)
  | reservation (request : ExecutionReservationRequest)
  | start (request : ExecutionReservationStart)
  | release (request : ExecutionReservationRelease)
  | releaseWithUsage (request : ExecutionReservationRelease) (usage : ExecutionOutcomeUsage)
  | releasedTerminalUsage (request : ExecutionReservationRelease) (usage : ExecutionOutcomeUsage)
  | settlement (request : ExecutionReservationSettlement)
  | sourceKey (jobId settlementRequestId workerPoolId : String)
  | sourceFact (fact : WorkerSettlementSourceFact)

namespace ExecutionAdmission

abbrev Digest := AdmissionValue → String

/-! Checks on what callers send and on what the tables hold. -/

def validateId (value head field : String) : AdmissionCheck :=
  refuse (isCanonicalId head value = false) (.invalid (field ++ " is not canonical"))

def validateInstant (value : String) : AdmissionCheck :=
  refuse (isCanonicalInstant value = false) (.invalid "execution admission time is not canonical")

def validateSqlRange (value : Nat) (field : String) : AdmissionCheck :=
  refuse (9223372036854775807 < value) (.invalid (field ++ " exceeds the supported range"))

def validateOptionalSqlRange (value : Option Nat) (field : String) : AdmissionCheck :=
  match value with
  | some value => validateSqlRange value field
  | none => .ok ()

def isPortable (symbol : Char) : Bool :=
  symbol.isAlphanum || symbol == '.' || symbol == '_' || symbol == ':' || symbol == '-'

def validateAccess : ExecutionRepositoryAccess → AdmissionCheck
  | .isolatedWrite worktreeKey =>
    refuse (worktreeKey = "" ∨ 200 < worktreeKey.utf8ByteSize ∨
        worktreeKey.toList.all isPortable = false)
      (.invalid "worktreeKey is not portable")
  | _ => .ok ()

def validateDelivery : Option String → AdmissionCheck
  | some deliveryId => validateId deliveryId "dlv_" "deliveryId"
  | none => .ok ()

def validateScope (scope : ExecutionQueueScope) : AdmissionCheck := do
  validateId scope.organizationId "org_" "organizationId"
  validateId scope.workspaceId "wsp_" "workspaceId"
  validateId scope.projectId "prj_" "projectId"
  validateId scope.repositoryId "rep_" "repositoryId"
  validateId scope.productSessionId "psn_" "productSessionId"
  validateDelivery scope.deliveryId

def validateBoundary : ExecutionAdmissionBoundary → AdmissionCheck
  | .organization organizationId => validateId organizationId "org_" "organizationId"
  | .project organizationId projectId => do
    validateId organizationId "org_" "organizationId"
    validateId projectId "prj_" "projectId"
  | .repository organizationId projectId repositoryId => do
    validateId organizationId "org_" "organizationId"
    validateId projectId "prj_" "projectId"
    validateId repositoryId "rep_" "repositoryId"
  | .delivery organizationId deliveryId => do
    validateId organizationId "org_" "organizationId"
    validateId deliveryId "dlv_" "deliveryId"
  | .productSession organizationId projectId productSessionId => do
    validateId organizationId "org_" "organizationId"
    validateId projectId "prj_" "projectId"
    validateId productSessionId "psn_" "productSessionId"
  | .workerPool organizationId workerPoolId => do
    validateId organizationId "org_" "organizationId"
    validateId workerPoolId "wpl_" "workerPoolId"

def validatePolicy (policy : ExecutionAdmissionPolicy) : AdmissionCheck := do
  validateBoundary policy.boundary
  validateSqlRange policy.limits.maxConcurrent "maxConcurrent"
  validateSqlRange policy.limits.maxQueued "maxQueued"
  validateOptionalSqlRange policy.limits.tokenBudget "tokenBudget"
  validateOptionalSqlRange policy.limits.costBudgetMicrounits "costBudgetMicrounits"
  refuse (policy.limits.maxRuntimeMillis = some 0) (.invalid "maxRuntimeMillis must be positive")
  validateOptionalSqlRange policy.limits.maxRuntimeMillis "maxRuntimeMillis"

def validateReservationRequest (request : ExecutionReservationRequest) : AdmissionCheck := do
  validateScope request.scope
  validateId request.workerPoolId "wpl_" "workerPoolId"
  validateId request.jobId "job_" "jobId"
  validateId request.requestId "req_" "requestId"
  validateId request.userId "usr_" "userId"
  validateAccess request.repositoryAccess
  validateInstant request.submittedAt
  validateOptionalSqlRange request.reservedTokens "reservedTokens"
  validateOptionalSqlRange request.reservedCostMicrounits "reservedCostMicrounits"
  refuse (request.runtimeLimitMillis = some 0) (.invalid "runtimeLimitMillis must be positive")
  validateOptionalSqlRange request.runtimeLimitMillis "runtimeLimitMillis"

def validateMutationIdentity (scope : ExecutionQueueScope)
    (workerPoolId jobId requestId : String) (expectedRevision : Nat) (occurredAt : String) :
    AdmissionCheck := do
  validateScope scope
  validateId workerPoolId "wpl_" "workerPoolId"
  validateId jobId "job_" "jobId"
  validateId requestId "req_" "requestId"
  validateInstant occurredAt
  refuse (expectedRevision = 0) (.invalid "expectedRevision must be positive")
  validateSqlRange expectedRevision "expectedRevision"

def validateStart (request : ExecutionReservationStart) : AdmissionCheck :=
  validateMutationIdentity request.scope request.workerPoolId request.jobId request.requestId
    request.expectedRevision request.startedAt

def validateRelease (request : ExecutionReservationRelease) : AdmissionCheck :=
  validateMutationIdentity request.scope request.workerPoolId request.jobId request.requestId
    request.expectedRevision request.releasedAt

def validateSettlement (request : ExecutionReservationSettlement) : AdmissionCheck := do
  validateMutationIdentity request.scope request.workerPoolId request.jobId request.requestId
    request.expectedRevision request.completedAt
  validateSqlRange request.actualTokens "actualTokens"
  validateOptionalSqlRange request.actualCostMicrounits "actualCostMicrounits"
  validateSqlRange request.actualRuntimeMillis "actualRuntimeMillis"

def validateSettlementSourceFact (fact : WorkerSettlementSourceFact) : AdmissionCheck := do
  validateScope fact.scope
  validateId fact.userId "usr_" "userId"
  validateId fact.workerPoolId "wpl_" "workerPoolId"
  validateId fact.jobId "job_" "jobId"
  validateId fact.settlementRequestId "req_" "settlementRequestId"
  validateSqlRange fact.actualRuntimeMillis "actualRuntimeMillis"
  validateSqlRange fact.actualTokens "actualTokens"
  validateOptionalSqlRange fact.actualCostMicrounits "actualCostMicrounits"
  validateInstant fact.completedAt

def stored (check : AdmissionCheck) (message : String) : AdmissionCheck :=
  check.mapError fun _ => .adapter message

def validateStoredTime (value : Option String) : AdmissionCheck :=
  match value with
  | some value => stored (validateInstant value) "stored reservation time is invalid"
  | none => .ok ()

/-- The lifecycle columns that each state requires. -/
def validTerminal (reservation : ExecutionReservationRecord) : Bool :=
  match reservation.state with
  | .queued =>
    reservation.startedAt.isNone && reservation.terminalAt.isNone &&
      reservation.releaseReason.isNone && reservation.actualTokens.isNone
  | .running =>
    reservation.startedAt.isSome && reservation.terminalAt.isNone &&
      reservation.releaseReason.isNone && reservation.actualTokens.isNone
  | .released =>
    reservation.terminalAt.isSome && reservation.releaseReason.isSome &&
      reservation.actualTokens.isNone
  | .settled =>
    reservation.startedAt.isSome && reservation.terminalAt.isSome &&
      reservation.releaseReason.isNone && reservation.actualTokens.isSome &&
      reservation.actualRuntimeMillis.isSome

def validateStoredReservation (reservation : ExecutionReservationRecord) : AdmissionCheck := do
  stored (validateScope reservation.scope) "stored reservation scope is invalid"
  stored (validateId reservation.workerPoolId "wpl_" "workerPoolId")
    "stored worker pool is invalid"
  stored (validateId reservation.jobId "job_" "jobId") "stored reservation job is invalid"
  stored (validateId reservation.userId "usr_" "userId") "stored reservation user is invalid"
  stored (validateAccess reservation.repositoryAccess) "stored repository access is invalid"
  validateStoredTime (some reservation.submittedAt)
  validateStoredTime (some reservation.updatedAt)
  validateStoredTime reservation.startedAt
  validateStoredTime reservation.terminalAt
  refuse (reservation.revision = 0 ∨ reservation.runtimeLimitMillis = some 0 ∨
      reservation.updatedAt < reservation.submittedAt ∨
      (reservation.startedAt.any fun value => value < reservation.submittedAt) = true ∨
      (reservation.terminalAt.any fun value => value < reservation.updatedAt) = true)
    (.adapter "stored reservation values are invalid")
  refuse (validTerminal reservation = false)
    (.adapter "stored reservation lifecycle fields are inconsistent")

def validateRevisionTime (current : ExecutionReservationRecord) (expectedRevision : Nat)
    (occurredAt : String) : AdmissionCheck := do
  refuse (current.revision ≠ expectedRevision) ⟨.revisionConflict, none,
    "expected reservation revision " ++ toString expectedRevision ++
      ", but current revision is " ++ toString current.revision⟩
  refuse (occurredAt < current.updatedAt)
    (.invalid "execution reservation operation precedes durable state")

def validateRevisionStateTime (current : ExecutionReservationRecord) (expectedRevision : Nat)
    (expectedState : ExecutionReservationState) (occurredAt : String) : AdmissionCheck := do
  validateRevisionTime current expectedRevision occurredAt
  refuse (current.state ≠ expectedState)
    (.invalid "execution reservation state does not allow this operation")

end ExecutionAdmission

/-! The tables. -/

structure AdmissionPolicyRow where
  boundaryKey : String
  policy : ExecutionAdmissionPolicy

abbrev AdmissionPolicyRow.Clash (left right : AdmissionPolicyRow) : Prop :=
  left.boundaryKey = right.boundaryKey

structure ReservationBoundaryRow where
  (jobId boundaryKey : String)
  ordinal : Nat

/-- Primary key `(job_id, boundary_key)`, unique `(job_id, ordinal)`. -/
abbrev ReservationBoundaryRow.Clash (left right : ReservationBoundaryRow) : Prop :=
  left.jobId = right.jobId ∧ (left.boundaryKey = right.boundaryKey ∨ left.ordinal = right.ordinal)

structure AdmissionReceiptRow where
  (scopeKey requestId requestDigest : String)
  response : ExecutionAdmissionReceipt

abbrev AdmissionReceiptRow.Clash (left right : AdmissionReceiptRow) : Prop :=
  left.scopeKey = right.scopeKey ∧ left.requestId = right.requestId

/-- A settlement source; its `sequence` is its position in the table. -/
structure SettlementSourceRow where
  (sourceKey sourceDigest : String)
  fact : WorkerSettlementSourceFact
  (jobId settlementRequestId : String)

abbrev SettlementSourceRow.Clash (left right : SettlementSourceRow) : Prop :=
  left.sourceKey = right.sourceKey ∨ left.jobId = right.jobId

inductive AccountingStatus where
  | pending
  | settled
deriving DecidableEq

/-- A terminal job whose accounting came late or incomplete. The columns of the first
complete settlement are set together with the status. -/
structure ReconciliationRow where
  (jobId terminalRequestId : String)
  terminalUsage : ExecutionOutcomeUsage
  accountingStatus : AccountingStatus
  settlement : Option (String × ExecutionOutcomeUsage × String)
deriving DecidableEq

abbrev ReconciliationRow.Clash (left right : ReconciliationRow) : Prop := left.jobId = right.jobId

/-- A later statement of a job's usage; its `sequence` is its position in the table. -/
structure ReconciliationFactRow where
  (jobId settlementRequestId : String)
  usage : ExecutionOutcomeUsage
  observedAt : String

abbrev ReconciliationFactRow.Clash (left right : ReconciliationFactRow) : Prop :=
  left.settlementRequestId = right.settlementRequestId

/-- An attempt that lost its lease before its usage was known. -/
structure AttemptPendingRow where
  jobId : String
  attempt : Int
  lease : ExecutionLeaseRecord
  observedAt : String

abbrev AttemptPendingRow.Clash (left right : AttemptPendingRow) : Prop :=
  left.jobId = right.jobId ∧ left.attempt = right.attempt

structure AttemptTotalsRow where
  jobId : String
  attempt : Int
  (tokens cost : Option Int)
  knownTokens : Int
deriving DecidableEq

abbrev AttemptTotalsRow.Clash (left right : AttemptTotalsRow) : Prop :=
  left.jobId = right.jobId ∧ left.attempt = right.attempt

structure AdmissionStore where
  policies : Table AdmissionPolicyRow AdmissionPolicyRow.Clash
  reservations : Table ExecutionReservationRecord ExecutionReservationRecord.Clash
  reservationBoundaries : Table ReservationBoundaryRow ReservationBoundaryRow.Clash
  receipts : Table AdmissionReceiptRow AdmissionReceiptRow.Clash
  settlementSources : Table SettlementSourceRow SettlementSourceRow.Clash
  reconciliation : Table ReconciliationRow ReconciliationRow.Clash
  reconciliationFacts : Table ReconciliationFactRow ReconciliationFactRow.Clash
  attemptPending : Table AttemptPendingRow AttemptPendingRow.Clash
  attemptTotals : Table AttemptTotalsRow AttemptTotalsRow.Clash

abbrev AdmissionAnswer := AdmissionResult (AdmissionStore × ExecutionAdmissionReceipt)

namespace AdmissionStore

def empty : AdmissionStore :=
  ⟨.empty, .empty, .empty, .empty, .empty, .empty, .empty, .empty, .empty⟩

variable (store : AdmissionStore)

def policyRow (key : String) : Option AdmissionPolicyRow :=
  store.policies.find fun row => row.boundaryKey == key

def reservationRow (job : String) : Option ExecutionReservationRecord :=
  store.reservations.find fun row => row.jobId == job

def reconciliationRow (job : String) : Option ReconciliationRow :=
  store.reconciliation.find fun row => row.jobId == job

def totalsRow (job : String) (attempt : Int) : Option AttemptTotalsRow :=
  store.attemptTotals.find fun row => row.jobId == job && row.attempt == attempt

/-- `ORDER BY sequence DESC LIMIT 1`. -/
def latestFact (job : String) : Option ReconciliationFactRow :=
  store.reconciliationFacts.rows.reverse.find? fun row => row.jobId == job

/-- What the ledger now says a reconciled job used: its latest fact, else its terminal
usage. -/
def reconciledUsage (job : String) : Option ExecutionOutcomeUsage :=
  (store.reconciliationRow job).map fun row =>
    ((store.latestFact job).map (·.usage)).getD row.terminalUsage

end AdmissionStore

end WinWinCode.Storage
