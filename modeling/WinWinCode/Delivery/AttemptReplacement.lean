import WinWinCode.Delivery.WorkRuns
import WinWinCode.Foundation.Counting

/-!
Replacing the attempt of a running execution. The scheduler moves a job to another
instance of its worker; the run of the lost attempt fails and a successor takes over
its item. Only the work runs are modelled, not the bindings of the delivery, which are
replaced with them.
-/

namespace WinWinCode.Delivery

open Counting Fallible Programs

inductive CoordinationErrorCode where
  | invalidRequest
  | revisionConflict
  | wrongState
  | conflict
  | attentionRequired
  | bindingConflict
  | staleAttention

structure CoordinationError where
  code : CoordinationErrorCode
  message : String

structure SessionBinding where
  (executionProfile workerSessionId codexThreadId workerId workerInstanceId leaseId : Option String)
  attempt : Nat
  fencingToken : Option String

structure SessionBindingIdentity where
  (deliveryId workContractId : String)
  workContractRevision : Int
  workItemId : String
  workItemRevision : Int
  (workRunId productSessionId executionJobId : String)

structure SessionBindingAuthority where
  (workerId workerInstanceId leaseId : String)
  attempt : Nat
  (fencingToken workerSessionId : String)

structure DurableExecutionLeaseInput where
  (jobId leaseId workerId workerInstanceId : String)
  attempt : Nat
  fencingToken : String

structure DurableWorkerSlotInput where
  (workerId workerInstanceId workerSessionId codexThreadId jobId leaseId : String)
  attempt : Nat
  fencingToken : String

structure DeliveryExecutionAttemptReplacement where
  deliveryId : Option String
  productSessionId : String
  workRunId : Option String
  predecessorLease : DurableExecutionLeaseInput
  predecessorWorkerSessionId : Option String
  predecessorSlot : Option DurableWorkerSlotInput
  successorLease : DurableExecutionLeaseInput

def bindingConflict (message : String) : CoordinationError :=
  { code := .bindingConflict, message }

def replacementConflict (message : String) : CoordinationError := bindingConflict message

def toI64 (value : Nat) : Option Int := if (value : Int) ≤ maxI64 then some value else none

def activeRun (aggregate : WorkRunAggregate) (identity : SessionBindingIdentity) :
    Except CoordinationError WorkRun := do
  let run ← okOr (aggregate.runs.find? (·.id == identity.workRunId))
    (bindingConflict "SessionBinding WorkRun does not exist")
  refuse (run.isActive = false ∨ run.workContractId ≠ identity.workContractId ∨
      run.contractRevision ≠ identity.workContractRevision ∨
      run.workItemId ≠ identity.workItemId ∨ run.workItemRevision ≠ identity.workItemRevision ∨
      run.productSessionId ≠ some identity.productSessionId ∨
      run.executionJobId ≠ identity.executionJobId)
    (bindingConflict "SessionBinding does not match an active exact WorkRun")
  .ok run

/-- The slot of the lost attempt, when the scheduler still knows it, names the session
and the thread of the run. -/
def slotMatchesRun (slot : Option DurableWorkerSlotInput) (run : WorkRun) : Bool :=
  slot.all fun slot =>
    slot.workerSessionId == run.workerSessionId && some slot.codexThreadId == run.codexThreadId

variable (binding : SessionBinding)

def bindingHoldsLease (lease : DurableExecutionLeaseInput)
    (workerSessionId : Option String) : Bool :=
  binding.attempt == lease.attempt && binding.workerId == some lease.workerId &&
    binding.workerInstanceId == some lease.workerInstanceId &&
    binding.leaseId == some lease.leaseId && binding.fencingToken == some lease.fencingToken &&
    binding.workerSessionId == workerSessionId

def bindingMatchesSlot (lease : DurableExecutionLeaseInput)
    (slot : DurableWorkerSlotInput) : Bool :=
  binding.workerSessionId == some slot.workerSessionId &&
    binding.codexThreadId == some slot.codexThreadId && slot.jobId == lease.jobId &&
    slot.leaseId == lease.leaseId && slot.workerId == lease.workerId &&
    slot.workerInstanceId == lease.workerInstanceId && slot.attempt == lease.attempt &&
    slot.fencingToken == lease.fencingToken

def validatePredecessorBinding
    (replacement : DeliveryExecutionAttemptReplacement) : Except CoordinationError Unit :=
  let lease := replacement.predecessorLease
  let holds := bindingHoldsLease binding lease replacement.predecessorWorkerSessionId
  match replacement.predecessorSlot with
  | some slot => refuse (¬ (holds && bindingMatchesSlot binding lease slot))
      (replacementConflict
        "scheduler replacement predecessor is not the complete Delivery binding")
  | none => refuse (¬ (holds && binding.codexThreadId == none))
      (replacementConflict "slotless scheduler replacement requires a pending Delivery binding")

def validateReplacementIdentity (identity : SessionBindingIdentity) (run : WorkRun)
    (binding : SessionBinding) (replacement : DeliveryExecutionAttemptReplacement) :
    Except CoordinationError Unit := do
  let predecessor := replacement.predecessorLease
  let successor := replacement.successorLease
  refuse (replacement.deliveryId ≠ some identity.deliveryId ∨
      replacement.productSessionId ≠ identity.productSessionId ∨
      predecessor.jobId ≠ identity.executionJobId ∨
      successor.jobId ≠ identity.executionJobId ∨
      run.attempt ≠ (toI64 predecessor.attempt).getD (-1) ∨
      run.executionJobId ≠ predecessor.jobId ∨ run.leaseId ≠ predecessor.leaseId ∨
      run.fencingToken ≠ predecessor.fencingToken ∨ run.workerId ≠ predecessor.workerId ∨
      run.workerInstanceId ≠ predecessor.workerInstanceId ∨
      replacement.predecessorWorkerSessionId.all (· == run.workerSessionId) = false ∨
      slotMatchesRun replacement.predecessorSlot run = false ∨
      successor.attempt ≠ saturatingAdd predecessor.attempt 1 ∨
      predecessor.workerId ≠ successor.workerId ∨
      predecessor.workerInstanceId = successor.workerInstanceId ∨
      predecessor.leaseId = successor.leaseId ∨
      predecessor.fencingToken = successor.fencingToken)
    (replacementConflict "scheduler replacement does not match the active Delivery execution")
  validatePredecessorBinding binding replacement

/-- `validated_replacement_successor`, once the binding of the identity is found. The
answer is the identity of the successor. -/
def validatedReplacementSuccessor (aggregate : WorkRunAggregate)
    (identity : SessionBindingIdentity) (binding : SessionBinding)
    (replacement : DeliveryExecutionAttemptReplacement) (authority : SessionBindingAuthority) :
    Except CoordinationError String := do
  let predecessor ← activeRun aggregate identity
  let successorId ← okOr replacement.workRunId
    (replacementConflict "replacement has no successor WorkRun")
  validateReplacementIdentity identity predecessor binding replacement
  let successor := replacement.successorLease
  refuse (successorId = identity.workRunId ∨ authority.leaseId ≠ successor.leaseId ∨
      authority.workerId ≠ successor.workerId ∨
      authority.workerInstanceId ≠ successor.workerInstanceId ∨
      authority.attempt ≠ successor.attempt ∨ authority.fencingToken ≠ successor.fencingToken)
    (replacementConflict "successor WorkerSession authority does not match replacement seal")
  .ok successorId

def isVerificationProfile (profile : Option String) : Bool :=
  [some "reviewer", some "verifier", some "adversarial-verifier"].contains profile

namespace WorkRunAggregate

def successorRun (predecessor : WorkRun) (successorId : String) (attempt : Int)
    (lease : DurableExecutionLeaseInput) (authority : SessionBindingAuthority) : WorkRun :=
  { predecessor with
    id := successorId
    revision := 1
    attempt
    leaseId := lease.leaseId
    fencingToken := lease.fencingToken
    workerId := authority.workerId
    workerInstanceId := authority.workerInstanceId
    workerSessionId := authority.workerSessionId
    codexThreadId := none
    state := .leased
    candidateDigest := none }

variable (aggregate : WorkRunAggregate) (successor : WorkRun)

def pushVerificationSuccessor : Except CoordinationError WorkRunAggregate := do
  let _start ← (aggregate.startVerification successor.workItemId).mapError fun error =>
    replacementConflict ("verification replacement rejected: " ++ error.debug)
  let next := { aggregate with runs := aggregate.runs ++ [successor] }
  next.validate.mapError fun error =>
    replacementConflict ("verification successor rejected: " ++ error.debug)
  .ok next

def retryWriter : Except CoordinationError WorkRunAggregate := do
  let released ← (Program.exec (transitionItemState successor.workItemId .ready)
    aggregate).mapError fun error => replacementConflict ("retry state rejected: " ++ error.debug)
  (Program.exec (appendRun successor) released).mapError fun error =>
    replacementConflict ("successor WorkRun rejected: " ++ error.debug)

def appendSuccessor (readOnly : Bool) : Except CoordinationError WorkRunAggregate :=
  if readOnly then aggregate.pushVerificationSuccessor successor
  else aggregate.retryWriter successor

def withSuccessor (identity : SessionBindingIdentity)
    (binding : SessionBinding) (successorId : String)
    (lease : DurableExecutionLeaseInput) (authority : SessionBindingAuthority) :
    Except CoordinationError (WorkRunAggregate × Int) := do
  let predecessor ← okOr (aggregate.runs.find? (·.id == identity.workRunId))
    (replacementConflict "predecessor WorkRun disappeared")
  let revision ← okOr (checkedNext predecessor.revision)
    (replacementConflict "predecessor WorkRun revision overflow")
  let failed := { aggregate with
    runs := setRun aggregate.runs identity.workRunId .failed revision }
  let attempt ← okOr (toI64 lease.attempt)
    (replacementConflict "successor attempt is out of range")
  let successor := successorRun predecessor successorId attempt lease authority
  let item ← okOr (failed.items.find? (·.id == successor.workItemId))
    (replacementConflict "successor WorkItem disappeared")
  let readOnly := isVerificationProfile binding.executionProfile
  refuse (item.state ≠ (if readOnly then .candidateReady else .inProgress) ∨
      item.revision ≠ successor.workItemRevision)
    (replacementConflict
      "replacement requires the exact in-progress WorkItem revision from the accepted job")
  let next ← failed.appendSuccessor successor readOnly
  .ok (next, item.revision)

/-- What a replacement does to the work runs of a delivery: all of it or nothing. -/
def replaceExecutionAttempt (identity : SessionBindingIdentity) (binding : SessionBinding)
    (replacement : DeliveryExecutionAttemptReplacement) (authority : SessionBindingAuthority) :
    Program WorkRunAggregate CoordinationError Unit :=
  Program.assign fun aggregate => do
    let successorId ←
      validatedReplacementSuccessor aggregate identity binding replacement authority
    let (next, _) ←
      aggregate.withSuccessor identity binding successorId replacement.successorLease authority
    .ok next

end WorkRunAggregate

end WinWinCode.Delivery
