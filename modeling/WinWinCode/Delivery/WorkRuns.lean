import WinWinCode.Foundation.Fallible
import WinWinCode.Foundation.FirstMatch
import WinWinCode.Foundation.Programs
import WinWinCode.Foundation.Text

/-!
The work of a delivery: a contract, the items it was split into and the runs made for
them. An aggregate is checked as a whole before and after most changes; every failure of
that check is the same `InvalidAggregate`, so the loop of the source over the runs is
written here as one condition for each of its sets. A method on `&mut self` is a
`Program` on the aggregate: what it assigned before a failure stays assigned.
-/

namespace WinWinCode.Delivery

open Fallible Programs Text Program

structure Criterion where
  (description id requiredEvidenceClass : String)
  verificationMethod : Option String

structure WorkContract where
  constraints : List String
  createdAt : String
  criteria : List Criterion
  (id objective : String)
  protectedScope : List String
  requiredHumanAuthority : String
  revision : Int
  scope : List String

inductive WorkItemState where
  | backlog
  | ready
  | inProgress
  | waitingDependency
  | waitingHuman
  | candidateReady
  | validating
  | rework
  | done
  | failed
  | cancelled
deriving DecidableEq

structure WorkItem where
  (criterionIds dependsOn : List String)
  (goal id : String)
  revision : Int
  state : WorkItemState
  (title workContractId : String)
  workContractRevision : Int

def WorkItem.enter (target : WorkItemState) (item : WorkItem) : WorkItem :=
  { item with state := target }

inductive WorkRunState where
  | queued
  | leased
  | running
  | candidateReady
  | settled
  | failed
  | cancelled
deriving DecidableEq

structure WorkRun where
  attempt : Int
  (candidateDigest codexThreadId : Option String)
  contractRevision : Int
  (executionJobId fencingToken id leaseId : String)
  productSessionId : Option String
  revision : Int
  state : WorkRunState
  (workContractId workItemId : String)
  workItemRevision : Int
  (workerId workerInstanceId workerSessionId : String)
deriving DecidableEq

def WorkRun.enter (state : WorkRunState) (revision : Int) (run : WorkRun) : WorkRun :=
  { run with state, revision }

def WorkRun.isActive (run : WorkRun) : Bool :=
  run.state = .leased || run.state = .running

structure WorkRunAggregate where
  contract : WorkContract
  items : List WorkItem
  runs : List WorkRun

inductive WorkRunSchedulingError where
  | invalidAggregate
  | contractRevisionMismatch
  | noRunnableWorkItem
  | invalidAttempt
  | staleWorkItem
  | invalidTransition
deriving DecidableEq

abbrev Scheduling := Program WorkRunAggregate WorkRunSchedulingError

def WorkRunSchedulingError.debug : WorkRunSchedulingError → String
  | .invalidAggregate => "InvalidAggregate"
  | .contractRevisionMismatch => "ContractRevisionMismatch"
  | .noRunnableWorkItem => "NoRunnableWorkItem"
  | .invalidAttempt => "InvalidAttempt"
  | .staleWorkItem => "StaleWorkItem"
  | .invalidTransition => "InvalidTransition"

def validRevision (value : Int) : Bool := 1 ≤ value && value ≤ maxSafeInteger

def maxI64 : Int := 9223372036854775807

def checkedNext (value : Int) : Option Int :=
  if value + 1 ≤ maxI64 then some (value + 1) else none

namespace WorkRunAggregate

variable (contract : WorkContract) (value : String)

/-- A length in characters; the texts of a delivery's own fields are counted otherwise. -/
def boundedText (minimum maximum : Nat) : Bool :=
  minimum ≤ value.length && value.length ≤ maximum

def validTextList (values : List String) (unique : Bool) : Bool :=
  values.length ≤ 1000 && values.all (boundedText · 1 65536) && (!unique || decide values.Nodup)

def number (start stop : Nat) : Nat :=
  ((value.toList.take stop).drop start).foldl (fun total digit => total * 10 + (digit.toNat - 48)) 0

def daysOfMonth (year month : Nat) : Nat :=
  if month = 2 then if year % 4 = 0 ∧ (year % 100 ≠ 0 ∨ year % 400 = 0) then 29 else 28
  else if month = 4 ∨ month = 6 ∨ month = 9 ∨ month = 11 then 30
  else 31

def validCreatedAt : Bool :=
  let month := number value 5 7
  let day := number value 8 10
  isCanonicalInstant value && 1 ≤ month && month ≤ 12 && 1 ≤ day &&
    day ≤ daysOfMonth (number value 0 4) month && number value 11 13 < 24 &&
    number value 14 16 < 60 && number value 17 19 < 60

/-- One pass over the items, each an id with the ids it depends on: an item whose
dependencies are resolved joins the resolved ones. -/
def resolvePass (items : List (String × List String)) (resolved : List String) : List String :=
  items.foldl (fun resolved item =>
    if item.2.all resolved.contains && !resolved.contains item.1 then resolved ++ [item.1]
    else resolved) resolved

/-- Every pass but the last resolves another item, so as many passes as there are items,
and one more, settle the answer. -/
def acyclicFrom (items : List (String × List String)) : Nat → List String → Bool
  | 0, _ => false
  | passes + 1, resolved =>
    let next := resolvePass items resolved
    if next.length = items.length then true
    else if next.length = resolved.length then false
    else acyclicFrom items passes next

def acyclicItems (items : List WorkItem) : Bool :=
  acyclicFrom (items.map fun item => (item.id, item.dependsOn)) (items.length + 1) []

def validFencingToken : Bool :=
  value.toList.head? != some '0' && value.length ≤ 20 && value != "" && isDigits value.toList

def validSha256 : Bool :=
  match stripPrefix "sha256:" value with
  | none => false
  | some hex => hex.length == 64 && hex.all isLowerHex

def invalidRunFields (run : WorkRun) : Bool :=
  !validRevision run.revision || !isCanonicalId "wrn_" run.id ||
    !isCanonicalId "job_" run.executionJobId || !isCanonicalId "wrk_" run.workerId ||
    !isCanonicalId "wki_" run.workerInstanceId || !isCanonicalId "wsn_" run.workerSessionId ||
    !isCanonicalId "lse_" run.leaseId || run.productSessionId.any (!isCanonicalId "psn_" ·) ||
    run.codexThreadId.any (!isCanonicalId "cdx_" ·) || !validFencingToken run.fencingToken ||
    run.candidateDigest.any (!validSha256 ·)

def validCriterion (criterion : Criterion) : Bool :=
  isCanonicalId "crt_" criterion.id && boundedText criterion.description 1 65536 &&
    criterion.requiredEvidenceClass == "machine" &&
    criterion.verificationMethod.all (boundedText · 0 65536)

def validContract : Bool :=
  validRevision contract.revision && isCanonicalId "wct_" contract.id &&
    boundedText contract.objective 1 65536 && validCreatedAt contract.createdAt &&
    validTextList contract.scope true && validTextList contract.protectedScope true &&
    validTextList contract.constraints false &&
    ["none", "approval", "attention"].contains contract.requiredHumanAuthority &&
    contract.criteria.all validCriterion && !contract.criteria.isEmpty &&
    contract.criteria.length ≤ 1000

def validItem (itemIds : List String) (item : WorkItem) : Bool :=
  item.workContractId == contract.id && item.workContractRevision == contract.revision &&
    validRevision item.revision && isCanonicalId "wit_" item.id && boundedText item.title 1 500 &&
    boundedText item.goal 1 65536 && item.criterionIds.length ≤ 1000 &&
    item.dependsOn.length ≤ 1000 && !item.criterionIds.isEmpty &&
    decide item.criterionIds.Nodup &&
    item.criterionIds.all (contract.criteria.map (·.id)).contains &&
    decide item.dependsOn.Nodup &&
    item.dependsOn.all fun id => id != item.id && itemIds.contains id

def validRun (items : List WorkItem) (run : WorkRun) : Bool :=
  match items.find? (·.id == run.workItemId) with
  | none => false
  | some item =>
    run.workContractId == contract.id && run.contractRevision == contract.revision &&
      validRevision run.workItemRevision && run.workItemRevision ≤ item.revision &&
      !invalidRunFields run && 1 ≤ run.attempt && run.attempt ≤ 1000

def validate (aggregate : WorkRunAggregate) : Except WorkRunSchedulingError Unit := do
  refuse (validContract aggregate.contract = false ∨ 1000 < aggregate.items.length ∨
    1000 < aggregate.runs.length) .invalidAggregate
  refuse (¬ (aggregate.contract.criteria.map (·.id)).Nodup) .invalidAggregate
  refuse (¬ (aggregate.items.map (·.id)).Nodup) .invalidAggregate
  refuse (aggregate.items.all
    (validItem aggregate.contract (aggregate.items.map (·.id))) = false) .invalidAggregate
  refuse (acyclicItems aggregate.items = false) .invalidAggregate
  refuse (aggregate.runs.all (validRun aggregate.contract aggregate.items) = false)
    .invalidAggregate
  refuse (¬ (aggregate.runs.map (·.id)).Nodup) .invalidAggregate
  refuse (¬ (aggregate.runs.map fun run => (run.executionJobId, run.attempt)).Nodup)
    .invalidAggregate
  refuse (¬ ((aggregate.runs.filter (·.state = .candidateReady)).map (·.workItemId)).Nodup)
    .invalidAggregate
  refuse (¬ ((aggregate.runs.filter (·.isActive)).map (·.workItemId)).Nodup) .invalidAggregate

end WorkRunAggregate

variable (items : List WorkItem)

def isDone (id : String) : Bool :=
  items.any fun candidate => candidate.id == id && candidate.state = .done

def effectiveWorkItemState (item : WorkItem) (items : List WorkItem) : WorkItemState :=
  if (item.state = .ready ∨ item.state = .waitingDependency) ∧
      item.dependsOn.any (!isDone items ·) then .waitingDependency
  else if item.state = .waitingDependency then .ready
  else item.state

def workItemIsRunnable (item : WorkItem) (items : List WorkItem) : Bool :=
  effectiveWorkItemState item items = .ready

def workItemTransitionAllowed (source target : WorkItemState) : Bool :=
  match source with
  | .backlog | .waitingDependency | .rework | .failed => target = .ready || target = .cancelled
  | .ready => target = .inProgress || target = .cancelled
  | .inProgress =>
    target = .ready || target = .waitingDependency || target = .waitingHuman ||
      target = .candidateReady || target = .failed || target = .cancelled
  | .waitingHuman => target = .ready || target = .rework || target = .cancelled
  | .candidateReady =>
    target = .ready || target = .validating || target = .done || target = .rework ||
      target = .failed || target = .cancelled
  | .validating =>
    target = .done || target = .rework || target = .failed || target = .waitingHuman ||
      target = .cancelled
  | .done => target = .rework
  | .cancelled => false

inductive TerminalOutcomeStatus where
  | succeeded
  | failed
  | infrastructureError
  | cancelled

structure ActiveLeaseIdentity where
  executionJobId : String
  attempt : Nat
  (leaseId fencingToken workerId workerInstanceId workerSessionId : String)

structure TerminalOutcomeMetadata where
  codexThreadId : Option String

structure VerifiedTerminalOutcome where
  workRunId : String
  leaseIdentity : ActiveLeaseIdentity
  status : TerminalOutcomeStatus
  metadata : TerminalOutcomeMetadata

inductive WorkRunTerminalOutcome where
  | candidateReady
  | failed
  | cancelled

/-- The states in which a terminal fact leaves a run and its item. -/
def WorkRunTerminalOutcome.settledStates : WorkRunTerminalOutcome → WorkRunState × WorkItemState
  | .candidateReady => (.candidateReady, .candidateReady)
  | .failed => (.failed, .failed)
  | .cancelled => (.cancelled, .cancelled)

structure WorkRunTerminalFact where
  workRun : WorkRun
  attempt : Int
  outcome : WorkRunTerminalOutcome

def WorkRunTerminalFact.fromVerified (run : WorkRun) (verified : VerifiedTerminalOutcome) :
    Except WorkRunSchedulingError WorkRunTerminalFact := do
  refuse (verified.workRunId ≠ run.id ∨
    verified.leaseIdentity.executionJobId ≠ run.executionJobId ∨
    verified.leaseIdentity.leaseId ≠ run.leaseId ∨
    verified.leaseIdentity.workerId ≠ run.workerId ∨
    verified.leaseIdentity.workerInstanceId ≠ run.workerInstanceId ∨
    verified.leaseIdentity.workerSessionId ≠ run.workerSessionId ∨
    verified.metadata.codexThreadId ≠ run.codexThreadId ∨
    run.attempt ≠ verified.leaseIdentity.attempt ∨
    verified.leaseIdentity.fencingToken ≠ run.fencingToken) .staleWorkItem
  .ok {
    workRun := run
    attempt := run.attempt
    outcome :=
      match verified.status with
      | .succeeded => .candidateReady
      | .failed | .infrastructureError => .failed
      | .cancelled => .cancelled }

structure WorkRunStart where
  workItem : WorkItem
  attempt : Int

namespace WorkRunAggregate

def setItemState (items : List WorkItem) (id : String) (target : WorkItemState) : List WorkItem :=
  FirstMatch.update (·.id == id) (WorkItem.enter target) items

def transitionItemState (id : String) (target : WorkItemState) : Scheduling Unit := do
  let item ← inspect fun aggregate =>
    okOr (aggregate.items.find? (·.id == id)) .staleWorkItem
  lift (refuse (workItemTransitionAllowed item.state target = false) .invalidTransition)
  modify fun aggregate =>
    { aggregate with items := setItemState aggregate.items id target }

def setRun (runs : List WorkRun) (id : String) (state : WorkRunState) (revision : Int) :
    List WorkRun :=
  FirstMatch.update (·.id == id) (WorkRun.enter state revision) runs

variable (aggregate : WorkRunAggregate) (run : WorkRun) (itemId : String) (readOnly : Bool)

def hasActiveRun : Bool :=
  aggregate.runs.any fun run => run.workItemId == itemId && run.isActive

def hasCandidateRun : Bool :=
  aggregate.runs.any fun run => run.workItemId == itemId && run.state = .candidateReady

def itemStands (revision : Int) (state : WorkItemState) : Bool :=
  aggregate.items.any fun item =>
    item.id == itemId && item.revision == revision && item.state = state

def completeCandidate (workRunId : String) : Scheduling Unit := do
  inspect validate
  let run ← inspect fun aggregate =>
    okOr (aggregate.runs.find? fun run => run.id == workRunId && run.state = .candidateReady)
      .staleWorkItem
  inspect fun aggregate =>
    refuse (aggregate.itemStands run.workItemId run.workItemRevision .candidateReady = false ∨
      aggregate.hasActiveRun run.workItemId = true) .staleWorkItem
  let revision ← lift (okOr ((checkedNext run.revision).filter validRevision) .staleWorkItem)
  transitionItemState run.workItemId .done
  modify fun aggregate =>
    { aggregate with runs := setRun aggregate.runs run.id .settled revision }
  inspect validate

def startVerification (id : String) : Except WorkRunSchedulingError WorkRunStart := do
  aggregate.validate
  let item ← okOr
    (aggregate.items.find? fun item => item.id == id && item.state = .candidateReady)
    .noRunnableWorkItem
  refuse (aggregate.hasCandidateRun id = false ∨ aggregate.hasActiveRun id = true)
    .noRunnableWorkItem
  .ok { workItem := item, attempt := 1 }

/-- A verification run must be one that `start_verification` would start. -/
def checkVerification : Except WorkRunSchedulingError Unit :=
  if readOnly then do
    let _start ← aggregate.startVerification itemId
    .ok ()
  else .ok ()

def lastAttempt (jobId : String) : Int :=
  ((aggregate.runs.filter (·.executionJobId == jobId)).map (·.attempt)).max?.getD 0

def occupyItem : Scheduling Unit := do
  let waiting ← inspect fun aggregate => .ok (aggregate.items.any fun item =>
    item.id == itemId && item.state = .waitingDependency)
  if waiting then transitionItemState itemId .ready
  transitionItemState itemId .inProgress

def admitRun : Except WorkRunSchedulingError Unit := do
  aggregate.validate
  aggregate.checkVerification run.workItemId readOnly
  refuse (run.isActive = false) .staleWorkItem
  refuse (run.workContractId ≠ aggregate.contract.id ∨
    run.contractRevision ≠ aggregate.contract.revision) .contractRevisionMismatch
  let item ← okOr (aggregate.items.find? (·.id == run.workItemId)) .noRunnableWorkItem
  refuse (readOnly = false ∧ workItemIsRunnable item aggregate.items = false) .noRunnableWorkItem
  refuse (item.workContractId ≠ run.workContractId ∨
    item.workContractRevision ≠ run.contractRevision ∨ item.revision ≠ run.workItemRevision)
    .staleWorkItem
  refuse (aggregate.runs.any (·.id == run.id) = true) .staleWorkItem
  refuse (readOnly = false ∧ (aggregate.hasActiveRun run.workItemId = true ∨
    aggregate.hasCandidateRun run.workItemId = true)) .staleWorkItem
  let following ← okOr (checkedNext (aggregate.lastAttempt run.executionJobId)) .invalidAttempt
  let expected := if readOnly then 1 else following
  refuse ((readOnly = true ∧ aggregate.runs.any (·.executionJobId == run.executionJobId) = true) ∨
    run.attempt ≠ expected ∨ ¬ (1 ≤ run.attempt ∧ run.attempt ≤ 1000)) .invalidAttempt

def withRun : Except WorkRunSchedulingError WorkRunAggregate := do
  aggregate.admitRun run readOnly
  let next ←
    if readOnly then .ok aggregate else exec (occupyItem run.workItemId) aggregate
  let next := { next with runs := next.runs ++ [run] }
  next.validate
  .ok next

def appendRunMode : Scheduling Unit :=
  assign (·.withRun run readOnly)

def appendVerificationRun : Scheduling Unit :=
  appendRunMode run true

def appendRun : Scheduling Unit :=
  appendRunMode run false

def settleFact (fact : WorkRunTerminalFact) : Scheduling Unit := do
  let run ← inspect fun aggregate =>
    okOr (aggregate.runs.find? (·.id == fact.workRun.id)) .staleWorkItem
  lift (refuse (run ≠ fact.workRun ∨ run.isActive = false ∨ fact.attempt ≠ run.attempt)
    .staleWorkItem)
  let item ← inspect fun aggregate =>
    okOr (aggregate.items.find? (·.id == run.workItemId)) .staleWorkItem
  lift (refuse (item.state ≠ .inProgress ∨ item.revision ≠ run.workItemRevision)
    .staleWorkItem)
  let states := fact.outcome.settledStates
  let revision ← lift
    (okOr ((checkedNext run.revision).filter fun revision => revision ≤ (maxSafeInteger : Int))
      .staleWorkItem)
  transitionItemState item.id states.2
  modify fun aggregate =>
    { aggregate with runs := setRun aggregate.runs run.id states.1 revision }

def settleVerifiedOutcome (verified : VerifiedTerminalOutcome) : Scheduling Unit := do
  inspect validate
  let run ← inspect fun aggregate =>
    okOr (aggregate.runs.find? (·.id == verified.workRunId)) .staleWorkItem
  let fact ← lift (WorkRunTerminalFact.fromVerified run verified)
  settleFact fact

def settledVerification : TerminalOutcomeStatus → WorkRunState
  | .succeeded => .settled
  | .failed | .infrastructureError => .failed
  | .cancelled => .cancelled

def settleVerificationOutcome (verified : VerifiedTerminalOutcome) : Scheduling Unit := do
  inspect validate
  let run ← inspect fun aggregate =>
    okOr (aggregate.runs.find? (·.id == verified.workRunId)) .staleWorkItem
  let _fact ← lift (WorkRunTerminalFact.fromVerified run verified)
  inspect fun aggregate =>
    refuse (run.isActive = false ∨
      aggregate.itemStands run.workItemId run.workItemRevision .candidateReady = false)
      .staleWorkItem
  let revision ← lift (okOr ((checkedNext run.revision).filter validRevision) .staleWorkItem)
  modify fun aggregate =>
    { aggregate with
      runs := setRun aggregate.runs run.id (settledVerification verified.status) revision }

end WorkRunAggregate

end WinWinCode.Delivery
