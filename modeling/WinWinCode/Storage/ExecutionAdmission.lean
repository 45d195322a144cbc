import WinWinCode.Foundation.Counting
import WinWinCode.Storage.AdmissionRecords

/-!
Execution admission, from `execution_admission.rs`: a boundary is configured once,
a job reserves under its six boundaries, starts, and is released or settled. Each
request carries an id; an answered request leaves a receipt, and the same request
is answered from it again. Every operation is one immediate transaction, so a
refused one returns no store. The two look-ups that `settle` makes before its
transaction read tables of the same connection.
-/

namespace WinWinCode.Storage

open Fallible Tables Text

structure ExecutionAdmissionUsage where
  (queued running reservedTokens reservedCostMicrounits committedTokens accountingPending : Nat)
  committedCostMicrounits : Option Nat

namespace ExecutionAdmissionUsage

def zero : ExecutionAdmissionUsage := ⟨0, 0, 0, 0, 0, 0, some 0⟩

def totalTokens (usage : ExecutionAdmissionUsage) : Nat :=
  usage.reservedTokens + usage.committedTokens

def totalCost (usage : ExecutionAdmissionUsage) : Option Nat :=
  usage.committedCostMicrounits.map fun cost => usage.reservedCostMicrounits + cost

end ExecutionAdmissionUsage

namespace ExecutionAdmission

def sqlError : ExecutionAdmissionError :=
  .adapter "execution admission SQLite failure: UNIQUE constraint failed"

variable (digest : Digest) (store : AdmissionStore) (scope : ExecutionQueueScope)
  (boundary : ExecutionAdmissionBoundary) (usage : ExecutionAdmissionUsage)
  (row : ExecutionReservationRecord)

def boundaryKey : String :=
  digest (.boundary boundary)

def reservationScopeKey (workerPoolId : String) : String :=
  digest (.scope scope workerPoolId)

def deliveryBoundaries : List ExecutionAdmissionBoundary :=
  match scope.deliveryId with
  | some deliveryId => [.delivery scope.organizationId deliveryId]
  | none => []

def requestBoundaries (workerPoolId : String) : List ExecutionAdmissionBoundary :=
  [.organization scope.organizationId, .project scope.organizationId scope.projectId,
    .repository scope.organizationId scope.projectId scope.repositoryId] ++
  deliveryBoundaries scope ++
  [.productSession scope.organizationId scope.projectId scope.productSessionId,
    .workerPool scope.organizationId workerPoolId]

/-! Usage of a boundary. -/

def checkedAdd (left right : Nat) (field : String) : AdmissionResult Nat :=
  okOr (Counting.checkedAdd left right)
    (.adapter ("stored " ++ field ++ " exceeds the supported range"))

/-- A sum of costs is unknown once one of its terms is. -/
def addCost (known cost : Option Nat) : AdmissionResult (Option Nat) :=
  match known, cost with
  | some known, some cost => (checkedAdd known cost "committed cost usage").map some
  | _, _ => .ok none

def addReconciledCost (known : Option Nat) (cost : Option Int) : AdmissionResult (Option Nat) :=
  match known, cost with
  | some known, some cost => do
    let cost ← okOr (toUnsigned cost) (.invalid "cost range")
    let total ← checkedAdd known cost "reconciled cost"
    return some total
  | _, _ => .ok none

def addPending (pending : Nat) (accounting : ExecutionOutcomeUsage) : AdmissionResult Nat :=
  if accounting.tokens.isNone then checkedAdd pending 1 "pending accounting" else .ok pending

/-- A terminal reservation whose accounting was reconciled counts what the latest fact
knows. -/
def addReconciled (state : ExecutionReservationState)
    (accounting : ExecutionOutcomeUsage) : AdmissionResult ExecutionAdmissionUsage := do
  refuse (accounting.validUsage = false ∨ (state ≠ .released ∧ state ≠ .settled))
    (.invalid "inconsistent reconciliation authority")
  let knownTokens ← okOr (toUnsigned accounting.knownTokens) (.invalid "usage range")
  let committedTokens ← checkedAdd usage.committedTokens knownTokens "reconciled tokens"
  let accountingPending ← addPending usage.accountingPending accounting
  let committedCost ← addReconciledCost usage.committedCostMicrounits accounting.costMicrounits
  return { usage with
    committedTokens := committedTokens
    accountingPending := accountingPending
    committedCostMicrounits := committedCost }

def addReserved : AdmissionResult ExecutionAdmissionUsage := do
  let reservedTokens ← checkedAdd usage.reservedTokens (row.reservedTokens.getD 0)
    "reserved token usage"
  let reservedCost ← checkedAdd usage.reservedCostMicrounits (row.reservedCostMicrounits.getD 0)
    "reserved cost usage"
  return { usage with
    reservedTokens := reservedTokens
    reservedCostMicrounits := reservedCost }

def addUnreconciled : AdmissionResult ExecutionAdmissionUsage :=
  match row.state with
  | .queued => do
    let queued ← checkedAdd usage.queued 1 "queued usage"
    addReserved { usage with queued := queued } row
  | .running => do
    let running ← checkedAdd usage.running 1 "running usage"
    addReserved { usage with running := running } row
  | .settled => do
    let actualTokens ← okOr row.actualTokens
      (.adapter "settled reservation has no actual token usage")
    let committedTokens ← checkedAdd usage.committedTokens actualTokens "committed token usage"
    let committedCost ← addCost usage.committedCostMicrounits row.actualCostMicrounits
    return { usage with
      committedTokens := committedTokens
      committedCostMicrounits := committedCost }
  | .released => .ok usage

def addRow : AdmissionResult ExecutionAdmissionUsage :=
  match store.reconciledUsage row.jobId with
  | some accounting => addReconciled usage row.state accounting
  | none => addUnreconciled usage row

def boundaryReservations (key : String) : List ExecutionReservationRecord :=
  (store.reservationBoundaries.rows.filter fun row => row.boundaryKey == key).filterMap
    fun row => store.reservationRow row.jobId

/-- An attempt whose tokens and cost are not both in its totals. -/
def unresolvedAttempt (row : AttemptPendingRow) : Bool :=
  (store.totalsRow row.jobId row.attempt).all fun totals =>
    !(totals.tokens.isSome && totals.cost.isSome)

def pendingAttempts (key : String) : List AttemptPendingRow :=
  store.attemptPending.rows.filter fun row =>
    (store.reservationBoundaries.rows.any fun boundary =>
      boundary.jobId == row.jobId && boundary.boundaryKey == key) &&
    (store.reservationRow row.jobId).isSome && unresolvedAttempt store row

def addPendingAttempts (pending : Nat) : AdmissionResult ExecutionAdmissionUsage :=
  if 0 < pending then do
    let accountingPending ← checkedAdd usage.accountingPending pending "predecessor accounting"
    return { usage with
      accountingPending := accountingPending
      committedCostMicrounits := none }
  else .ok usage

/-- The sums of one boundary. A sum that exists does not depend on the order of the rows. -/
def loadUsage (key : String) : AdmissionResult ExecutionAdmissionUsage := do
  let usage ← (boundaryReservations store key).foldlM (addRow store) .zero
  addPendingAttempts usage (pendingAttempts store key).length

/-! Policies. -/

def completePolicy (row : AdmissionPolicyRow) : AdmissionResult ExecutionAdmissionPolicy := do
  stored (validatePolicy row.policy) "stored admission policy is invalid"
  return row.policy

def requiredPolicy : AdmissionResult ExecutionAdmissionPolicy := do
  let row ← okOr (store.policyRow (boundaryKey digest boundary))
    (.rejected .policyMissing boundary "execution admission policy is missing")
  let policy ← completePolicy row
  refuse (policy.boundary ≠ boundary)
    (.adapter "stored admission policy boundary digest does not match")
  return policy

/-- A boundary is configured once; the same policy again changes nothing. -/
def configurePolicy (policy : ExecutionAdmissionPolicy) :
    AdmissionResult (AdmissionStore × Bool) := do
  validatePolicy policy
  match store.policyRow (boundaryKey digest policy.boundary) with
  | some row => do
    let existing ← completePolicy row
    refuse (existing ≠ policy)
      (.invalid "execution admission policy is already configured differently")
    return (store, false)
  | none => do
    let policies ← okOr (store.policies.insert ⟨boundaryKey digest policy.boundary, policy⟩)
      sqlError
    return ({ store with policies := policies }, true)

/-! Reservations and receipts. -/

/-- Exactly the row of this job, scope and worker pool. -/
def isScoped (workerPoolId job : String) (row : ExecutionReservationRecord) : Bool :=
  row.jobId == job && row.scope == scope && row.workerPoolId == workerPoolId

def completeReservation : AdmissionResult ExecutionReservationRecord := do
  validateStoredReservation row
  return row

def loadScopedReservation (workerPoolId job : String) (missing : ExecutionAdmissionError) :
    AdmissionResult ExecutionReservationRecord := do
  let row ← okOr (store.reservations.find (isScoped scope workerPoolId job)) missing
  completeReservation row

def receiptRow (scopeKey requestId : String) : Option AdmissionReceiptRow :=
  store.receipts.find fun row => row.scopeKey == scopeKey && row.requestId == requestId

def completeReceipt (row : AdmissionReceiptRow) (requestDigest : String) :
    AdmissionResult ExecutionAdmissionReceipt := do
  refuse (row.requestDigest ≠ requestDigest) ⟨.requestConflict, none,
    "execution admission request id was reused with a different body"⟩
  validateStoredReservation row.response.reservation
  return { row.response with replayed := true }

/-- An answered request is answered from its receipt; otherwise the operation runs. -/
def replayOr (scopeKey requestId requestDigest : String) (operation : AdmissionAnswer) :
    AdmissionAnswer :=
  match receiptRow store scopeKey requestId with
  | some row => do
    let receipt ← completeReceipt row requestDigest
    return (store, receipt)
  | none => operation

/-- The end of every mutation: the reservation as now stored, and its receipt. -/
def finishMutation (scopeKey : String) (scope : ExecutionQueueScope)
    (workerPoolId job requestId requestDigest missing : String) : AdmissionAnswer := do
  let reservation ← loadScopedReservation store scope workerPoolId job (.adapter missing)
  let receipts ← okOr
    (store.receipts.insert ⟨scopeKey, requestId, requestDigest, ⟨reservation, false⟩⟩) sqlError
  return ({ store with receipts := receipts }, ⟨reservation, false⟩)

def notStored : String := "mutated execution reservation was not stored"

def unknownReservation : ExecutionAdmissionError :=
  .invalid "execution reservation does not exist"

/-! `reserve`. -/

variable (fact : WorkerSettlementSourceFact) (limits : ExecutionAdmissionLimits)
  (request : ExecutionReservationRequest)

def ensureRuntime : AdmissionCheck :=
  refuse ((limits.maxRuntimeMillis.any fun limit =>
      request.runtimeLimitMillis.all fun requested => limit < requested) = true)
    (.rejected .runtimeLimitExceeded boundary
      "execution runtime limit exceeds the configured boundary")

def ensureQueue (usage : ExecutionAdmissionUsage) : AdmissionCheck :=
  refuse (limits.maxQueued ≤ usage.queued)
    (.rejected .queueCapacityExhausted boundary "execution queue capacity is exhausted")

/-- An unlimited request does not fit a limited boundary. -/
def ensureTokens (usage : ExecutionAdmissionUsage) (request : ExecutionReservationRequest) :
    AdmissionCheck :=
  refuse ((limits.tokenBudget.any fun limit => decide (0 < usage.accountingPending) ||
      request.reservedTokens.all fun requested => limit < usage.totalTokens + requested) = true)
    (.rejected .tokenBudgetExhausted boundary "execution token budget is exhausted")

/-- Neither does a request under a boundary whose cost is not known. -/
def ensureCost (usage : ExecutionAdmissionUsage) (request : ExecutionReservationRequest) :
    AdmissionCheck :=
  refuse ((limits.costBudgetMicrounits.any fun limit =>
      request.reservedCostMicrounits.all fun requested =>
        usage.totalCost.all fun cost => limit < cost + requested) = true)
    (.rejected .costBudgetExhausted boundary "execution cost budget is exhausted")

def ensureBoundary (boundary : ExecutionAdmissionBoundary) : AdmissionCheck := do
  let policy ← requiredPolicy digest store boundary
  ensureRuntime boundary policy.limits request
  let usage ← loadUsage store (boundaryKey digest boundary)
  ensureQueue boundary policy.limits usage
  ensureTokens boundary policy.limits usage request
  ensureCost boundary policy.limits usage request

def ensureReservationCapacity (boundaries : List ExecutionAdmissionBoundary) : AdmissionCheck :=
  boundaries.forM (ensureBoundary digest store request)

def queuedReservation : ExecutionReservationRecord where
  scope := request.scope
  userId := request.userId
  workerPoolId := request.workerPoolId
  jobId := request.jobId
  repositoryAccess := request.repositoryAccess
  reservedTokens := request.reservedTokens
  reservedCostMicrounits := request.reservedCostMicrounits
  runtimeLimitMillis := request.runtimeLimitMillis
  submittedAt := request.submittedAt
  state := .queued
  actualTokens := none
  actualCostMicrounits := none
  actualRuntimeMillis := none
  revision := 1
  updatedAt := request.submittedAt
  startedAt := none
  terminalAt := none
  releaseReason := none

def insertBoundaries (digest : Digest) (job : String) : List ExecutionAdmissionBoundary → Nat →
      Table ReservationBoundaryRow ReservationBoundaryRow.Clash →
      AdmissionResult (Table ReservationBoundaryRow ReservationBoundaryRow.Clash)
  | [], _, table => .ok table
  | boundary :: rest, ordinal, table => do
    let table ← okOr (table.insert ⟨job, boundaryKey digest boundary, ordinal⟩) sqlError
    insertBoundaries digest job rest (ordinal + 1) table

def insertReservation (boundaries : List ExecutionAdmissionBoundary) :
    AdmissionResult AdmissionStore := do
  let reservations ← okOr (store.reservations.insert (queuedReservation request)) sqlError
  let placed ← insertBoundaries digest request.jobId boundaries 0 store.reservationBoundaries
  return { store with
    reservations := reservations
    reservationBoundaries := placed }

def reserveNew : AdmissionAnswer := do
  refuse ((store.reservationRow request.jobId).isSome = true)
    (.invalid "execution reservation job identity already exists")
  let boundaries := requestBoundaries request.scope request.workerPoolId
  ensureReservationCapacity digest store request boundaries
  let inserted ← insertReservation digest store request boundaries
  finishMutation inserted (reservationScopeKey digest request.scope request.workerPoolId)
    request.scope request.workerPoolId request.jobId request.requestId
    (digest (.reservation request)) "reserved execution job was not stored"

def reserve : AdmissionAnswer := do
  validateReservationRequest request
  replayOr store (reservationScopeKey digest request.scope request.workerPoolId)
    request.requestId (digest (.reservation request)) (reserveNew digest store request)

/-! `start`, `release` and `settle`. -/

/-- `WHERE job_id = ? AND revision = ? AND state = ?`. -/
def selects (job : String) (revision : Nat) (state : ExecutionReservationState)
    (row : ExecutionReservationRecord) : Bool :=
  row.jobId == job && row.revision == revision && row.state == state

/-- The compare-and-swap of a transition: exactly one row must have been written. -/
def executeUpdate (job : String) (revision : Nat) (from_ : ExecutionReservationState)
    (change : ExecutionReservationProgress → ExecutionReservationProgress) (lost : String) :
    AdmissionResult AdmissionStore := do
  refuse ((store.reservations.rows.filter (selects job revision from_)).length ≠ 1)
    (.adapter lost)
  return { store with
    reservations := store.reservations.updateWhere (selects job revision from_)
      (ExecutionReservationRecord.advanced change) fun _ _ _ => ⟨id, id⟩ }

def transition (target : ExecutionReservationState) (updatedAt : String)
    (startedAt terminalAt : Option String)
    (releaseReason : Option ExecutionReservationReleaseReason)
    (row : ExecutionReservationProgress) : ExecutionReservationProgress :=
  { row with
    state := target, revision := row.revision + 1, updatedAt := updatedAt, startedAt := startedAt,
    terminalAt := terminalAt, releaseReason := releaseReason }

def settled (request : ExecutionReservationSettlement) (row : ExecutionReservationProgress) :
    ExecutionReservationProgress :=
  { row with
    state := .settled, revision := row.revision + 1, updatedAt := request.completedAt,
    terminalAt := some request.completedAt, actualTokens := some request.actualTokens,
    actualCostMicrounits := request.actualCostMicrounits,
    actualRuntimeMillis := some request.actualRuntimeMillis }

def transitionLost : String := "execution reservation transition lost its transaction authority"

/-- A writer of the repository that runs now, other than `current`. -/
def isOtherWriter (current row : ExecutionReservationRecord) : Bool :=
  row.scope.organizationId == current.scope.organizationId &&
    row.scope.projectId == current.scope.projectId &&
    row.scope.repositoryId == current.scope.repositoryId &&
    row.state == .running && row.repositoryAccess != .readOnly && row.jobId != current.jobId

def accessConflicts (current other : ExecutionRepositoryAccess) : Bool :=
  match current with
  | .readOnly => false
  | .sharedWrite => true
  | .isolatedWrite _ => other == .sharedWrite || other == current

def hasRepositoryWriteConflict (current : ExecutionReservationRecord) : Bool :=
  current.repositoryAccess != .readOnly &&
    (store.reservations.rows.filter (isOtherWriter current)).any fun row =>
      accessConflicts current.repositoryAccess row.repositoryAccess

def ensureConcurrency : AdmissionCheck := do
  let policy ← requiredPolicy digest store boundary
  let usage ← loadUsage store (boundaryKey digest boundary)
  refuse (policy.limits.maxConcurrent ≤ usage.running)
    (.rejected .concurrencyExhausted boundary "execution concurrency is exhausted")

def startNew (request : ExecutionReservationStart) : AdmissionAnswer := do
  let current ← loadScopedReservation store request.scope request.workerPoolId request.jobId
    unknownReservation
  validateRevisionStateTime current request.expectedRevision .queued request.startedAt
  (requestBoundaries request.scope request.workerPoolId).forM (ensureConcurrency digest store)
  refuse (hasRepositoryWriteConflict store current = true)
    (.rejected .repositoryWriteConflict
      (.repository current.scope.organizationId current.scope.projectId
        current.scope.repositoryId)
      "repository write requires serialization or a distinct worktree")
  let updated ← executeUpdate store request.jobId request.expectedRevision .queued
    (transition .running request.startedAt (some request.startedAt) none none) transitionLost
  finishMutation updated (reservationScopeKey digest request.scope request.workerPoolId)
    request.scope request.workerPoolId request.jobId request.requestId (digest (.start request))
    notStored

def start (request : ExecutionReservationStart) : AdmissionAnswer := do
  validateStart request
  replayOr store (reservationScopeKey digest request.scope request.workerPoolId)
    request.requestId (digest (.start request)) (startNew digest store request)

def pendingReconciliation (job requestId : String) (usage : ExecutionOutcomeUsage) :
    ReconciliationRow :=
  ⟨job, requestId, usage, .pending, none⟩

/-- A released job leaves a reconciliation row when its usage was not known. -/
def retainUsage (job requestId : String)
    (usage : Option ExecutionOutcomeUsage) : AdmissionResult AdmissionStore :=
  match usage with
  | some usage => do
    let reconciliation ← okOr
      (store.reconciliation.insert (pendingReconciliation job requestId usage)) sqlError
    return { store with reconciliation := reconciliation }
  | none => .ok store

def releaseDigest (request : ExecutionReservationRelease) : Option ExecutionOutcomeUsage → String
  | some usage => digest (.releaseWithUsage request usage)
  | none => digest (.release request)

def releaseNew (request : ExecutionReservationRelease) (usage : Option ExecutionOutcomeUsage) :
    AdmissionAnswer := do
  let current ← loadScopedReservation store request.scope request.workerPoolId request.jobId
    unknownReservation
  refuse (current.state ≠ .queued ∧ current.state ≠ .running)
    (.invalid "terminal execution reservation cannot be released")
  validateRevisionTime current request.expectedRevision request.releasedAt
  let updated ← executeUpdate store request.jobId request.expectedRevision current.state
    (transition .released request.releasedAt current.startedAt (some request.releasedAt)
      (some request.reason)) transitionLost
  let retained ← retainUsage updated request.jobId request.requestId usage
  finishMutation retained (reservationScopeKey digest request.scope request.workerPoolId)
    request.scope request.workerPoolId request.jobId request.requestId
    (releaseDigest digest request usage) notStored

def releaseReservation
    (request : ExecutionReservationRelease) (usage : Option ExecutionOutcomeUsage) :
    AdmissionAnswer := do
  validateRelease request
  replayOr store (reservationScopeKey digest request.scope request.workerPoolId)
    request.requestId (releaseDigest digest request usage) (releaseNew digest store request usage)

def release (request : ExecutionReservationRelease) : AdmissionAnswer :=
  releaseReservation digest store request none

def settlementFact (reservation : ExecutionReservationRecord)
    (request : ExecutionReservationSettlement) : WorkerSettlementSourceFact where
  jobId := reservation.jobId
  settlementRequestId := request.requestId
  workerPoolId := reservation.workerPoolId
  scope := reservation.scope
  userId := reservation.userId
  actualRuntimeMillis := request.actualRuntimeMillis
  actualTokens := request.actualTokens
  actualCostMicrounits := request.actualCostMicrounits
  completedAt := request.completedAt

def settlementSourceKey : String :=
  digest (.sourceKey fact.jobId fact.settlementRequestId fact.workerPoolId)

def settlementSourceDigest : String :=
  digest (.sourceFact fact)

def insertSettlementSource : AdmissionResult AdmissionStore := do
  validateSettlementSourceFact fact
  let sources ← okOr (store.settlementSources.insert
    ⟨settlementSourceKey digest fact, settlementSourceDigest digest fact, fact, fact.jobId,
      fact.settlementRequestId⟩) sqlError
  return { store with settlementSources := sources }

def tokenUsage (tokens runtimeMillis : Nat) : ExecutionOutcomeUsage :=
  ⟨.known, none, tokens, runtimeMillis, some tokens⟩

/-- The usage a settlement leaves to be reconciled, when it has no cost. -/
def unpricedUsage (request : ExecutionReservationSettlement) : Option ExecutionOutcomeUsage :=
  match request.actualCostMicrounits with
  | some _ => none
  | none => some (tokenUsage request.actualTokens request.actualRuntimeMillis)

/-- A predecessor attempt of the job without the named total; a missing totals row has
none. -/
def missingTotal (job : String) (total : AttemptTotalsRow → Option Int) : Bool :=
  store.attemptPending.rows.any fun row => row.jobId == job &&
    (store.totalsRow row.jobId row.attempt).all fun totals => (total totals).isNone

def exceeds (limit : Option Nat) (actual : Nat) : Bool := limit.any fun limit => limit < actual

def settleNew (request : ExecutionReservationSettlement) : AdmissionAnswer := do
  let current ← loadScopedReservation store request.scope request.workerPoolId request.jobId
    unknownReservation
  validateRevisionStateTime current request.expectedRevision .running request.completedAt
  refuse (exceeds current.reservedTokens request.actualTokens = true ∨
      (request.actualCostMicrounits.any fun cost =>
        exceeds current.reservedCostMicrounits cost) = true ∨
      exceeds current.runtimeLimitMillis request.actualRuntimeMillis = true)
    (.invalid "actual execution usage exceeds its reservation")
  let updated ← executeUpdate store request.jobId request.expectedRevision .running
    (settled request) "execution settlement lost its transaction authority"
  let sourced ← insertSettlementSource digest updated (settlementFact current request)
  let retained ← retainUsage sourced request.jobId request.requestId (unpricedUsage request)
  finishMutation retained (reservationScopeKey digest request.scope request.workerPoolId)
    request.scope request.workerPoolId request.jobId request.requestId
    (digest (.settlement request)) notStored

def settle (request : ExecutionReservationSettlement) : AdmissionAnswer := do
  validateSettlement request
  refuse (missingTotal store request.jobId (·.tokens) = true)
    (.invalid "predecessor token accounting remains unresolved")
  refuse (missingTotal store request.jobId (·.cost) = true ∧
      request.actualCostMicrounits.isSome = true)
    (.invalid "predecessor attempt accounting remains unresolved")
  replayOr store (reservationScopeKey digest request.scope request.workerPoolId)
    request.requestId (digest (.settlement request)) (settleNew digest store request)

/-! Opening the ledger. -/

/-- What `RECONCILIATION_BACKFILL` selects of one reservation. -/
def backfillRow : Option ReconciliationRow := do
  let source ← store.settlementSources.find fun source => source.jobId == row.jobId
  let tokens ← row.actualTokens
  let runtime ← row.actualRuntimeMillis
  if row.state = .settled ∧ row.actualCostMicrounits = none then
    some (pendingReconciliation row.jobId source.settlementRequestId (tokenUsage tokens runtime))
  else none

/-- `ExecutionAdmission::new` on an existing store: settlements from before there were
reconciliation rows get theirs. -/
def openAdmission : AdmissionStore :=
  { store with
    reconciliation := (store.reservations.rows.filterMap (backfillRow store)).foldl
      Table.insertOrIgnore store.reconciliation }

end ExecutionAdmission

end WinWinCode.Storage
