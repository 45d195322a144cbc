import WinWinCode.Storage.ExecutionAdmission

/-!
Late accounting of terminal jobs, from `execution_admission.rs`. A job that ends
with unknown tokens or cost leaves a reconciliation row; facts appended later state
its usage, and the latest fact is what the job is charged. The row's status becomes
`settled` with the first fact that knows both tokens and cost.
-/

namespace WinWinCode.Storage

open Fallible Tables Text

namespace ExecutionAdmission

def releaseWithUnknownUsage (digest : Digest) (store : AdmissionStore)
    (request : ExecutionReservationRelease) (usage : ExecutionOutcomeUsage) : AdmissionAnswer := do
  refuse (usage.validUsage = false ∨ usage.tokens.isSome = true)
    (.invalid "unknown terminal usage is inconsistent")
  releaseReservation digest store request (some usage)

variable (store : AdmissionStore) (settlement : ReconciliationSettlement)

/-- A pending attempt or a totals row of the job without the named total. -/
def missingPhysical (job : String) (total : AttemptTotalsRow → Option Int) : Bool :=
  missingTotal store job total ||
    store.attemptTotals.rows.any fun row => row.jobId == job && (total row).isNone

def validateReconciliationPredecessors (job : String)
    (usage : ExecutionOutcomeUsage) : AdmissionCheck :=
  refuse ((missingPhysical store job (·.tokens) = true ∧ usage.tokens.isSome = true) ∨
      (missingPhysical store job (·.cost) = true ∧ usage.costMicrounits.isSome = true))
    (.invalid "physical invocation accounting remains unresolved")

def retainReleasedNew (digest : Digest) (store : AdmissionStore)
    (request : ExecutionReservationRelease) (usage : ExecutionOutcomeUsage) : AdmissionAnswer := do
  let current ← loadScopedReservation store request.scope request.workerPoolId request.jobId
    unknownReservation
  validateRevisionStateTime current request.expectedRevision .released request.releasedAt
  refuse (current.releaseReason ≠ some .cancelled)
    (.invalid "released terminal accounting has no cancellation authority")
  validateReconciliationPredecessors store request.jobId usage
  refuse ((store.reconciliationRow request.jobId).isSome = true)
    (.invalid "released execution already has a terminal accounting identity")
  let retained ← retainUsage store request.jobId request.requestId (some usage)
  finishMutation retained (reservationScopeKey digest request.scope request.workerPoolId)
    request.scope request.workerPoolId request.jobId request.requestId
    (digest (.releasedTerminalUsage request usage)) notStored

def retainReleasedTerminalUsage (digest : Digest) (store : AdmissionStore)
    (request : ExecutionReservationRelease) (usage : ExecutionOutcomeUsage) : AdmissionAnswer := do
  validateRelease request
  refuse (request.reason ≠ .cancelled ∨ usage.validUsage = false)
    (.invalid "released terminal accounting is inconsistent")
  replayOr store (reservationScopeKey digest request.scope request.workerPoolId)
    request.requestId (digest (.releasedTerminalUsage request usage))
    (retainReleasedNew digest store request usage)

/-! Settling a reconciliation. -/

structure ReconciliationSettlement where
  (jobId terminalRequestId settlementRequestId : String)
  usage : ExecutionOutcomeUsage
  observedAt : String

/-- What a known amount may become: a provider may raise it or lose it, others must
repeat it. -/
def changesAmount (providerAuthority : Bool) (known usage : Option Int) : Bool :=
  known.any fun amount =>
    if providerAuthority then usage.any fun stated => stated < amount
    else usage != some amount

def changesKnown (providerAuthority : Bool) (original usage : ExecutionOutcomeUsage) : Bool :=
  decide (usage.knownTokens < original.knownTokens) ||
    usage.runtimeMillis != original.runtimeMillis ||
    changesAmount providerAuthority original.tokens usage.tokens ||
    changesAmount providerAuthority original.costMicrounits usage.costMicrounits

def factRow (settlementRequestId : String) : Option ReconciliationFactRow :=
  store.reconciliationFacts.find fun row => row.settlementRequestId == settlementRequestId

/-- The usage that `settle_reconciliation` compares with: the latest fact, else the
terminal usage. -/
def originalUsage (row : ReconciliationRow) : ExecutionOutcomeUsage :=
  ((store.latestFact row.jobId).map (·.usage)).getD row.terminalUsage

def isPendingFor (job : String) (row : ReconciliationRow) : Bool :=
  row.jobId == job && row.accountingStatus == .pending

def markSettled (row : ReconciliationRow) : ReconciliationRow :=
  { row with
    accountingStatus := .settled
    settlement := some (settlement.settlementRequestId, settlement.usage, settlement.observedAt) }

/-- The status is written when a fact is complete, and never taken back. -/
def settleStatus : AdmissionStore :=
  if settlement.usage.resolved then
    { store with
      reconciliation := store.reconciliation.updateWhere (isPendingFor settlement.jobId)
        (markSettled settlement) fun _ _ _ => ⟨id, id⟩ }
  else store

def noRows : ExecutionAdmissionError :=
  .adapter "execution admission SQLite failure: Query returned no rows"

def appendFact (providerAuthority : Bool) : AdmissionResult (AdmissionStore × Bool) := do
  validateReconciliationPredecessors store settlement.jobId settlement.usage
  let row ← okOr (store.reconciliationRow settlement.jobId) noRows
  refuse (row.terminalRequestId ≠ settlement.terminalRequestId ∨
      changesKnown providerAuthority (originalUsage store row) settlement.usage = true)
    (.invalid "settlement changed known accounting or authority")
  let facts ← okOr (store.reconciliationFacts.insert ⟨settlement.jobId,
    settlement.settlementRequestId, settlement.usage, settlement.observedAt⟩) sqlError
  return (settleStatus { store with reconciliationFacts := facts } settlement,
    decide (settlement.usage ≠ originalUsage store row))

/-- The same statement again changes nothing. -/
def replayFact (previous : ReconciliationFactRow) : AdmissionResult (AdmissionStore × Bool) := do
  refuse (previous.jobId ≠ settlement.jobId ∨ previous.usage ≠ settlement.usage ∨
    previous.observedAt ≠ settlement.observedAt) (.invalid "settlement replay conflicts")
  let bound ← okOr (store.reconciliationRow settlement.jobId) noRows
  refuse (bound.terminalRequestId ≠ settlement.terminalRequestId)
    (.invalid "foreign terminal identity")
  return (store, false)

def settleReconciliationWithAuthority (providerAuthority : Bool) :
    AdmissionResult (AdmissionStore × Bool) := do
  validateId settlement.jobId "job_" "jobId"
  validateId settlement.terminalRequestId "req_" "terminalRequestId"
  validateId settlement.settlementRequestId "req_" "settlementRequestId"
  validateInstant settlement.observedAt
  refuse (settlement.usage.validUsage = false) (.invalid "settlement usage is inconsistent")
  match factRow store settlement.settlementRequestId with
  | some previous => replayFact store settlement previous
  | none => appendFact store settlement providerAuthority

def settleReconciliation : AdmissionResult (AdmissionStore × Bool) :=
  settleReconciliationWithAuthority store settlement false

/-! Settlement sources. -/

def completeSettlementSource (digest : Digest) (row : SettlementSourceRow) :
    AdmissionResult WorkerSettlementSourceFact := do
  stored (validateSettlementSourceFact row.fact)
    "stored worker settlement source fact is invalid"
  refuse (row.sourceKey ≠ settlementSourceKey digest row.fact ∨
      row.sourceDigest ≠ settlementSourceDigest digest row.fact ∨
      row.jobId ≠ row.fact.jobId ∨ row.settlementRequestId ≠ row.fact.settlementRequestId)
    (.adapter "stored worker settlement source differs from its canonical fact")
  return row.fact

def sourceMatches (fact : WorkerSettlementSourceFact) (reservation : ExecutionReservationRecord) :
    Bool :=
  reservation.state == .settled && reservation.userId == fact.userId &&
    reservation.actualRuntimeMillis == some fact.actualRuntimeMillis &&
    reservation.actualTokens == some fact.actualTokens &&
    reservation.actualCostMicrounits == fact.actualCostMicrounits &&
    reservation.terminalAt == some fact.completedAt

def requireSourceMatchesReservation (digest : Digest) (store : AdmissionStore)
    (fact : WorkerSettlementSourceFact) : AdmissionCheck := do
  let reservation ← loadScopedReservation store fact.scope fact.workerPoolId fact.jobId
    (.adapter "worker settlement source does not identify its execution reservation")
  refuse (sourceMatches fact reservation = false)
    (.adapter "worker settlement source differs from its settled execution reservation")
  let row ← okOr (receiptRow store (reservationScopeKey digest fact.scope fact.workerPoolId)
    fact.settlementRequestId)
    (.adapter "worker settlement source does not identify its settlement receipt")
  refuse (row.response ≠ ⟨reservation, false⟩)
    (.adapter "worker settlement source differs from its settlement receipt")

def checkedSource (digest : Digest) (store : AdmissionStore) (row : SettlementSourceRow) :
    AdmissionResult WorkerSettlementSourceFact := do
  let fact ← completeSettlementSource digest row
  requireSourceMatchesReservation digest store fact
  return fact

def loadSettlementSource (digest : Digest) (store : AdmissionStore) (job : String) :
    AdmissionResult (Option WorkerSettlementSourceFact) := do
  validateId job "job_" "jobId"
  match store.settlementSources.find fun row => row.jobId == job with
  | some row => (checkedSource digest store row).map some
  | none => .ok none

def loadReservationByJob (job : String) : AdmissionResult (Option ExecutionReservationRecord) := do
  validateId job "job_" "jobId"
  match store.reservationRow job with
  | some row => (completeReservation row).map some
  | none => .ok none

end ExecutionAdmission

end WinWinCode.Storage
