import WinWinCode.Server.ClientExchange
import WinWinCode.Storage.OccupancyInvariants

/-!
Recovery of an occupancy lease, from `settle_worker_reconciliation`. A device that
comes back reports what its workers are doing, and the server decides whether the
lease resumes, and as what. The binding, grant and exit ledgers it consults are
other components; each lookup may fail.
-/

namespace WinWinCode.Server

open Fallible Storage Text

inductive WorkerReconcileState where
  | stillRunning
  | terminal
  | missing
  | unknown
deriving DecidableEq

structure ClientWorkerReconciliation where
  (workerSessionId workerInstanceId : String)
  reconcileState : WorkerReconcileState
  observedAt : String

structure ClientWorkerReconcilePayload where
  occupancyLeaseId : Option String
  workers : List ClientWorkerReconciliation

structure DeviceExecutionBinding where
  (workerSessionId clientNodeId occupancyLeaseId : String)
  occupancyFencingToken : Nat
  workerLaunchGrantId : String

structure WorkerLaunchGrant where
  (workerLaunchGrantId clientNodeId clientInstanceId workerSessionId workerInstanceId : String)
  (occupancyLeaseId : String)
  occupancyFencingToken : Nat
  holderUserId : String
  consumed : Bool

/-- What the reconciliation reads of the other ledgers. -/
structure WorkerLedgers where
  activeForNode : String → ExchangeResult (List DeviceExecutionBinding)
  binding : String → ExchangeResult (Option DeviceExecutionBinding)
  (grant activeGrantForSession : String → ExchangeResult (Option WorkerLaunchGrant))
  hasTrustedExit : String → ExchangeResult Bool
  node : String → ExchangeResult (Option ClientNodeRecord)

namespace WorkerReconciliation

variable (ledgers : WorkerLedgers) (node : String) (lease : OccupancyLeaseRecord)

/-- The grant a report is judged by, unless the session is bound elsewhere. -/
def reportedGrant (report : ClientWorkerReconciliation) :
    Option DeviceExecutionBinding → ExchangeResult (Option WorkerLaunchGrant)
  | some binding =>
    if binding.clientNodeId ≠ node ∨ binding.occupancyLeaseId ≠ lease.occupancyLeaseId ∨
        binding.occupancyFencingToken ≠ lease.fencingToken then .ok none
    else ledgers.grant binding.workerLaunchGrantId
  | none => ledgers.activeGrantForSession report.workerSessionId

def reportedStateMatches (grant : WorkerLaunchGrant)
    (report : ClientWorkerReconciliation) (exited : Bool) : ExchangeResult Bool :=
  if report.reconcileState = .stillRunning then do
    let current ← ledgers.node node
    return !(exited || !grant.consumed ||
      current.bind (·.currentInstanceId) != some grant.clientInstanceId)
  else .ok exited

def workerReconciliationAuthorityMatches (report : ClientWorkerReconciliation) :
    ExchangeResult Bool := do
  let binding ← ledgers.binding report.workerSessionId
  let grant ← reportedGrant ledgers node lease report binding
  match grant with
  | none => return false
  | some grant =>
    if grant.clientNodeId ≠ node ∨ grant.workerSessionId ≠ report.workerSessionId ∨
        grant.occupancyLeaseId ≠ lease.occupancyLeaseId ∨
        grant.occupancyFencingToken ≠ lease.fencingToken ∨
        grant.holderUserId ≠ lease.holderUserId ∨
        grant.workerInstanceId ≠ report.workerInstanceId then return false
    else
      let exited ← ledgers.hasTrustedExit grant.workerLaunchGrantId
      reportedStateMatches ledgers node grant report exited

/-- The loop over the reported workers: the sessions seen, or nothing if one report
makes the server ignore them all. -/
def checkReports (ledgers : WorkerLedgers) (node : String) (lease : OccupancyLeaseRecord)
    (startedAt now : String) : List ClientWorkerReconciliation → List String →
      ExchangeResult (Option (List String))
  | [], seen => .ok (some seen)
  | report :: rest, seen =>
    if report.workerSessionId ∈ seen ∨ report.reconcileState = .unknown ∨
        report.observedAt < startedAt ∨ now < report.observedAt then .ok none
    else do
      let matched ← workerReconciliationAuthorityMatches ledgers node lease report
      if matched then
        checkReports ledgers node lease startedAt now rest (report.workerSessionId :: seen)
      else return none

/-- Every active binding is of this lease and was reported, and none was reported as
ended. -/
def coversBindings (bindings : List DeviceExecutionBinding)
    (workers : List ClientWorkerReconciliation) (seen : List String) : Bool :=
  !(bindings.any fun binding =>
      binding.occupancyLeaseId != lease.occupancyLeaseId ||
        !seen.contains binding.workerSessionId) &&
    !(workers.any fun report =>
      (report.reconcileState == .missing || report.reconcileState == .terminal) &&
        bindings.any fun binding => binding.workerSessionId == report.workerSessionId)

def resumeTarget (wasDraining : Bool) (workers : List ClientWorkerReconciliation) :
    OccupancyReconcileTarget :=
  if !wasDraining && workers.any (·.reconcileState == .stillRunning) then .resumeOccupied
  else .resumeDraining

def reconcileDecision
    (payload : ClientWorkerReconcilePayload) (reportedAt : String) (wasDraining : Bool)
    (startedAt now : String) : ExchangeResult (Option OccupancyReconcileTarget) :=
  if reportedAt < startedAt ∨ now < reportedAt then .ok none
  else do
    let bindings ← ledgers.activeForNode node
    let checked ← checkReports ledgers node lease startedAt now payload.workers []
    match checked with
    | none => return none
    | some seen =>
      if coversBindings lease bindings payload.workers seen then
        return some (resumeTarget wasDraining payload.workers)
      else return none

def settleWorkerReconciliation (store : OccupancyStore) (node : String)
    (payload : ClientWorkerReconcilePayload) (reportedAt now : String) :
    OccupancyStore × ExchangeResult Unit :=
  match OccupancyLedger.activeLeaseForNode store node with
  | .error _ => (store, .error .unavailable)
  | .ok none => (store, .ok ())
  | .ok (some lease) =>
    if lease.state ≠ .recoveryPending ∨
        payload.occupancyLeaseId ≠ some lease.occupancyLeaseId then (store, .ok ())
    else
      match OccupancyLedger.recoveryContext store lease.occupancyLeaseId now with
      | .error _ => (store, .error .unavailable)
      | .ok (observed, none) => (observed, .ok ())
      | .ok (observed, some (wasDraining, startedAt)) =>
        match reconcileDecision ledgers node lease payload reportedAt wasDraining startedAt
          now with
        | .error error => (observed, .error error)
        | .ok none => (observed, .ok ())
        | .ok (some target) =>
          match OccupancyLedger.reconcileResume observed lease.occupancyLeaseId target none
            now with
          | .error _ => (observed, .error .unavailable)
          | .ok (resumed, _) => (resumed, .ok ())

end WorkerReconciliation

end WinWinCode.Server
