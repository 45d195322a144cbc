import WinWinCode.Foundation.Fallible
import WinWinCode.Foundation.Formats
import WinWinCode.Foundation.Programs
import WinWinCode.Foundation.Text

/-!
The router of interactions: questions to a user, approvals and attention items are
registered and then answered or expired, and product sessions are registered and then
cancelled. A request is recognised when it is repeated by a fingerprint, a text of all
its fields as `Debug` writes them.
-/

namespace WinWinCode.Session

open Fallible Programs Text Formats
open Program (lift)

def maxActionIdLength : Nat := 200

def maxDecisionLength : Nat := 200

def maxReasonLength : Nat := 2000

inductive AuthenticatedActor where
  | user (id : String)
  | serviceAccount (id : String)
  | system (id : String)
deriving DecidableEq

inductive InteractionSubject where
  | userInput (id : String)
  | approval (id : String)
  | attention (id : String)
deriving DecidableEq

structure RuntimeRouteAuthority where
  (leaseId workerId workerInstanceId workerSessionId : String)
  attempt : Nat
  fencingToken : String
deriving DecidableEq

structure ExecutionRoute where
  productSessionId : String
  workContractId : Option String
  workContractRevision : Option Int
  workItemId : Option String
  workItemRevision : Option Int
  workRunId : Option String
  executionJobId : String
  jobRevision : Nat
  runtime : Option RuntimeRouteAuthority
  workerSlotRevision : Option Nat
  modelExchangeId : Option String
deriving DecidableEq

structure DecisionRouteBinding where
  execution : ExecutionRoute
  actionId : String
  decisionRevision : Nat
deriving DecidableEq

structure InteractionRegistration where
  subject : InteractionSubject
  binding : DecisionRouteBinding
  authorizedActor : AuthenticatedActor
  expiresAt : String
  attentionDecisions : List String

inductive InteractionDecision where
  | userInput (valueSha256 : String)
  | approve (reasonSha256 : String)
  | reject (reasonSha256 : String)
  | resolveAttention (decision resolutionSha256 : String)

structure InteractionResponse where
  requestId : String
  actor : AuthenticatedActor
  subject : InteractionSubject
  binding : DecisionRouteBinding
  decision : InteractionDecision
  respondedAt : String

inductive InteractionOutcome where
  | inputReceived
  | approved
  | rejected
  | attentionResolved
  | expired

inductive RouteWriteStatus where
  | applied
  | duplicate

structure InteractionRouteReceipt where
  status : RouteWriteStatus
  requestId : String
  subject : InteractionSubject
  binding : DecisionRouteBinding
  (previousRevision currentRevision : Nat)
  outcome : InteractionOutcome

structure InteractionExpiry where
  requestId : String
  subject : InteractionSubject
  binding : DecisionRouteBinding
  expiredAt : String

structure SessionCancellationSnapshot where
  productSessionId : String
  revision : Nat
  authorizedActor : AuthenticatedActor
  activeExecutions : List ExecutionRoute

structure SessionCancellationRequest where
  requestId : String
  actor : AuthenticatedActor
  productSessionId : String
  expectedRevision : Nat
  (reason requestedAt : String)

/-- The route to the job, the worker or the model stream of an execution: what all three
carry of the execution. -/
structure CancellationTarget where
  productSessionId : String
  workContractId : Option String
  workContractRevision : Option Int
  workItemId : Option String
  workItemRevision : Option Int
  workRunId : Option String
  executionJobId : String

structure JobCancellationRoute extends CancellationTarget where
  expectedRevision : Nat

structure WorkerCancellationRoute extends CancellationTarget where
  runtime : RuntimeRouteAuthority
  expectedRevision : Nat

structure ModelStreamCancellationRoute extends CancellationTarget where
  runtime : RuntimeRouteAuthority
  modelExchangeId : String

structure ExecutionCancellationRoutes where
  job : JobCancellationRoute
  worker : Option WorkerCancellationRoute
  modelStream : Option ModelStreamCancellationRoute

structure SessionCancellationReceipt where
  status : RouteWriteStatus
  (requestId productSessionId : String)
  (previousRevision currentRevision : Nat)
  routes : List ExecutionCancellationRoutes

inductive InteractionRoutingError where
  | invalidField (field : String)
  | duplicateRegistration
  | unknownInteraction
  | unknownProductSession
  | actorMismatch
  | subjectMismatch
  | bindingMismatch
  | revisionConflict (expected actual : Nat)
  | decisionKindMismatch
  | attentionDecisionNotAllowed
  | alreadyResolved
  | idempotencyConflict
  | sessionAlreadyCancelled

structure ResolvedInteraction where
  requestId : String
  requestFingerprint : List Char
  outcome : InteractionOutcome
  currentRevision : Nat

structure InteractionRecord where
  registration : InteractionRegistration
  resolved : Option ResolvedInteraction

structure CancelledSession where
  request : SessionCancellationRequest
  requestFingerprint : List Char
  receipt : SessionCancellationReceipt

structure SessionCancellationRecord where
  snapshot : SessionCancellationSnapshot
  cancelled : Option CancelledSession

structure InteractionRouter where
  interactions : InteractionSubject → Option InteractionRecord
  sessions : String → Option SessionCancellationRecord

def InteractionRouter.default : InteractionRouter where
  interactions _ := none
  sessions _ := none

abbrev Checked := Except InteractionRoutingError

section

def validateId (value field head : String) : Checked Unit :=
  refuse (isCanonicalId head value = false) (.invalidField field)

def validateRevision (revision : Nat) (field : String) : Checked Unit :=
  refuse (¬ (1 ≤ revision ∧ revision ≤ maxSafeInteger)) (.invalidField field)

/-- `u64::try_from` of a signed revision, then its range. -/
def validateDomainRevision (revision : Int) (field : String) : Checked Unit := do
  refuse (revision < 0) (.invalidField field)
  validateRevision revision.toNat field

def validateBoundedText (value : String) (max : Nat) (field : String) : Checked Unit :=
  refuse (value.toList = [] ∨ max < value.toList.length) (.invalidField field)

def validateInstant (instant : String) : Checked Unit :=
  refuse (isCanonicalInstant instant = false) (.invalidField "instant")

def validateDigest (digest : String) : Checked Unit := do
  let value ← okOr (stripPrefix "sha256:" digest) (.invalidField "sha256")
  refuse (¬ (value.length = 64 ∧ value.all isLowerHex = true)) (.invalidField "sha256")

def isActionSymbol (symbol : Char) : Bool :=
  symbol.isAlphanum || ['.', '_', ':', '/', '@', '-'].contains symbol

def validateActionId (actionId : String) : Checked Unit :=
  refuse (actionId.toList = [] ∨ maxActionIdLength < actionId.utf8ByteSize ∨
    actionId.toList.all isActionSymbol = false) (.invalidField "actionId")

def validateActor : AuthenticatedActor → Checked Unit
  | .user id => validateId id "actorId" "usr_"
  | .serviceAccount id => validateId id "actorId" "svc_"
  | .system id => validateId id "actorId" "sys_"

def validateSubject : InteractionSubject → Checked Unit
  | .userInput id => validateId id "inputRequestId" "inp_"
  | .approval id => validateId id "approvalId" "apr_"
  | .attention id => validateId id "attentionItemId" "att_"

def validateRequestId (requestId : String) : Checked Unit :=
  validateId requestId "requestId" "req_"

section
variable (execution : ExecutionRoute)

def validateRuntime (runtime : RuntimeRouteAuthority) : Checked Unit := do
  validateId runtime.leaseId "leaseId" "lse_"
  validateId runtime.workerId "workerId" "wrk_"
  validateId runtime.workerInstanceId "workerInstanceId" "wki_"
  validateId runtime.workerSessionId "workerSessionId" "wsn_"
  refuse (¬ (1 ≤ runtime.attempt ∧ runtime.attempt ≤ 1000)) (.invalidField "attempt")
  let token := runtime.fencingToken.toList
  refuse (token = [] ∨ 20 < token.length ∨ token.head? = some '0' ∨ isDigits token = false)
    (.invalidField "fencingToken")

/-- The work identity is given whole or not at all. -/
def validateWorkIdentity : Checked Unit :=
  match execution.workContractId, execution.workContractRevision, execution.workItemId,
    execution.workItemRevision, execution.workRunId with
  | none, none, none, none, none => .ok ()
  | some workContractId, some workContractRevision, some workItemId, some workItemRevision,
      some workRunId => do
      validateId workContractId "workContractId" "wct_"
      validateDomainRevision workContractRevision "workContractRevision"
      validateId workItemId "workItemId" "wit_"
      validateDomainRevision workItemRevision "workItemRevision"
      validateId workRunId "workRunId" "wrn_"
  | _, _, _, _, _ => .error (.invalidField "workRunIdentity")

def validateRuntimeAuthority : Checked Unit :=
  match execution.runtime, execution.workerSlotRevision with
  | some runtime, some workerRevision => do
    validateRuntime runtime
    validateRevision workerRevision "workerSlotRevision"
  | none, none => .ok ()
  | _, _ => .error (.invalidField "runtimeAuthority")

def validateModelExchange : Checked Unit :=
  match execution.modelExchangeId with
  | none => .ok ()
  | some modelExchangeId => do
    refuse (execution.runtime = none) (.invalidField "modelExchangeId")
    validateId modelExchangeId "modelExchangeId" "mdl_"

def validateExecution : Checked Unit := do
  validateId execution.productSessionId "productSessionId" "psn_"
  validateWorkIdentity execution
  validateId execution.executionJobId "executionJobId" "job_"
  validateRevision execution.jobRevision "jobRevision"
  validateRuntimeAuthority execution
  validateModelExchange execution

end

def validateBinding (binding : DecisionRouteBinding) : Checked Unit := do
  validateExecution binding.execution
  validateRevision binding.decisionRevision "decisionRevision"
  validateActionId binding.actionId

def validateAttentionDecisions (registration : InteractionRegistration) : Checked Unit :=
  match registration.subject with
  | .attention _ => do
    refuse (registration.attentionDecisions = []) (.invalidField "attentionDecisions")
    registration.attentionDecisions.forM
      (validateBoundedText · maxDecisionLength "attentionDecision")
  | .userInput _ =>
    refuse (registration.attentionDecisions ≠ []) (.invalidField "attentionDecisions")
  | .approval _ =>
    refuse (registration.attentionDecisions ≠ []) (.invalidField "attentionDecisions")

def validateRegistration (registration : InteractionRegistration) : Checked Unit := do
  validateSubject registration.subject
  validateBinding registration.binding
  validateActor registration.authorizedActor
  validateInstant registration.expiresAt
  validateAttentionDecisions registration

def validateDecisionText : InteractionDecision → Checked Unit
  | .userInput valueSha256 => validateDigest valueSha256
  | .approve reasonSha256 => validateDigest reasonSha256
  | .reject reasonSha256 => validateDigest reasonSha256
  | .resolveAttention decision resolutionSha256 => do
    validateBoundedText decision maxDecisionLength "attentionDecision"
    validateDigest resolutionSha256

def validateResponse (response : InteractionResponse) : Checked Unit := do
  validateRequestId response.requestId
  validateActor response.actor
  validateSubject response.subject
  validateBinding response.binding
  validateInstant response.respondedAt
  validateDecisionText response.decision

def validateExpiry (expiry : InteractionExpiry) : Checked Unit := do
  validateRequestId expiry.requestId
  validateBinding expiry.binding
  validateInstant expiry.expiredAt

def validateCancellationRequest (request : SessionCancellationRequest) : Checked Unit := do
  validateRequestId request.requestId
  validateActor request.actor
  validateId request.productSessionId "productSessionId" "psn_"
  validateRevision request.expectedRevision "expectedRevision"
  validateBoundedText request.reason maxReasonLength "reason"
  validateInstant request.requestedAt

def nextRevision (revision : Nat) : Checked Nat :=
  if revision + 1 ≤ maxSafeInteger then .ok (revision + 1) else .error (.invalidField "revision")

end

section

variable (printable : Char → Bool)

def debugId (name id : String) : List Char :=
  name.toList ++ '(' :: (quoted printable id ++ [')'])

def debugVariant (name : String) (value : List Char) : List Char :=
  name.toList ++ '(' :: (value ++ [')'])

def debugOption (value : Option (List Char)) : List Char :=
  match value with
  | none => "None".toList
  | some value => debugVariant "Some" value

def debugFields : List (String × List Char) → List Char
  | [] => []
  | [(name, value)] => name.toList ++ ": ".toList ++ value
  | (name, value) :: rest =>
    name.toList ++ ": ".toList ++ value ++ ", ".toList ++ debugFields rest

def debugStruct (name : String) (fields : List (String × List Char)) : List Char :=
  name.toList ++ " \x7b ".toList ++ debugFields fields ++ " \x7d".toList

def debugNat (number : Nat) : List Char := Nat.toDigits 10 number

def debugRevision (revision : Int) : List Char :=
  debugVariant "Revision" (toString revision).toList

def debugActor : AuthenticatedActor → List Char
  | .user id => debugVariant "User" (debugId printable "UserId" id)
  | .serviceAccount id => debugVariant "ServiceAccount" (debugId printable "ServiceAccountId" id)
  | .system id => debugVariant "System" (debugId printable "SystemActorId" id)

def debugSubject : InteractionSubject → List Char
  | .userInput id => debugVariant "UserInput" (debugId printable "InputRequestId" id)
  | .approval id => debugVariant "Approval" (debugId printable "ApprovalId" id)
  | .attention id => debugVariant "Attention" (debugId printable "AttentionItemId" id)

def debugRuntime (runtime : RuntimeRouteAuthority) : List Char :=
  debugStruct "RuntimeRouteAuthority"
    [("lease_id", debugId printable "LeaseId" runtime.leaseId),
     ("worker_id", debugId printable "WorkerId" runtime.workerId),
     ("worker_instance_id", debugId printable "WorkerInstanceId" runtime.workerInstanceId),
     ("worker_session_id", debugId printable "WorkerSessionId" runtime.workerSessionId),
     ("attempt", debugNat runtime.attempt),
     ("fencing_token", debugId printable "FencingToken" runtime.fencingToken)]

def debugExecution (execution : ExecutionRoute) : List Char :=
  debugStruct "ExecutionRoute"
    [("product_session_id", debugId printable "ProductSessionId" execution.productSessionId),
     ("work_contract_id",
       debugOption (execution.workContractId.map (debugId printable "WorkContractId"))),
     ("work_contract_revision", debugOption (execution.workContractRevision.map debugRevision)),
     ("work_item_id", debugOption (execution.workItemId.map (debugId printable "WorkItemId"))),
     ("work_item_revision", debugOption (execution.workItemRevision.map debugRevision)),
     ("work_run_id", debugOption (execution.workRunId.map (debugId printable "WorkRunId"))),
     ("execution_job_id", debugId printable "ExecutionJobId" execution.executionJobId),
     ("job_revision", debugNat execution.jobRevision),
     ("runtime", debugOption (execution.runtime.map (debugRuntime printable))),
     ("worker_slot_revision", debugOption (execution.workerSlotRevision.map debugNat)),
     ("model_exchange_id",
       debugOption (execution.modelExchangeId.map (debugId printable "ModelExchangeId")))]

def debugBinding (binding : DecisionRouteBinding) : List Char :=
  debugStruct "DecisionRouteBinding"
    [("execution", debugExecution printable binding.execution),
     ("action_id", quoted printable binding.actionId),
     ("decision_revision", debugNat binding.decisionRevision)]

def debugDecision : InteractionDecision → List Char
  | .userInput valueSha256 =>
    debugStruct "UserInput" [("value_sha256", debugId printable "Sha256Digest" valueSha256)]
  | .approve reasonSha256 =>
    debugStruct "Approve" [("reason_sha256", debugId printable "Sha256Digest" reasonSha256)]
  | .reject reasonSha256 =>
    debugStruct "Reject" [("reason_sha256", debugId printable "Sha256Digest" reasonSha256)]
  | .resolveAttention decision resolutionSha256 =>
    debugStruct "ResolveAttention"
      [("decision", quoted printable decision),
       ("resolution_sha256", debugId printable "Sha256Digest" resolutionSha256)]

def debugInstant (instant : String) : List Char := debugId printable "Instant" instant

def responseFingerprint (response : InteractionResponse) : List Char :=
  debugActor printable response.actor ++ '|' :: (debugSubject printable response.subject ++
    '|' :: (debugBinding printable response.binding ++ '|' ::
      (debugDecision printable response.decision ++ '|' ::
        (debugInstant printable response.respondedAt ++ '|' :: response.requestId.toList))))

def expiryFingerprint (expiry : InteractionExpiry) : List Char :=
  debugSubject printable expiry.subject ++ '|' :: (debugBinding printable expiry.binding ++
    '|' :: (debugInstant printable expiry.expiredAt ++ '|' :: expiry.requestId.toList))

def cancellationFingerprint (request : SessionCancellationRequest) : List Char :=
  debugActor printable request.actor ++ '|' :: (request.productSessionId.toList ++ '|' ::
    (debugNat request.expectedRevision ++ '|' :: (request.reason.toList ++ '|' ::
      (debugInstant printable request.requestedAt ++ '|' :: request.requestId.toList))))

end

section Requests

variable (registration : InteractionRegistration)

def requireResponseAuthority (response : InteractionResponse) : Checked Unit := do
  refuse (registration.subject ≠ response.subject) .subjectMismatch
  refuse (registration.authorizedActor ≠ response.actor) .actorMismatch
  refuse (registration.binding ≠ response.binding ∧
      registration.binding.decisionRevision ≠ response.binding.decisionRevision)
    (.revisionConflict response.binding.decisionRevision registration.binding.decisionRevision)
  refuse (registration.binding ≠ response.binding) .bindingMismatch

def requireExpiryAuthority (expiry : InteractionExpiry) : Checked Unit := do
  refuse (registration.subject ≠ expiry.subject) .subjectMismatch
  refuse (registration.binding ≠ expiry.binding) .bindingMismatch
  refuse (expiry.expiredAt < registration.expiresAt) (.invalidField "expiredAt")

/-- The sealed decisions are sorted, so the binary search finds what they contain. -/
def validateDecision (decision : InteractionDecision) : Checked InteractionOutcome :=
  match registration.subject, decision with
  | .userInput _, .userInput _ => .ok .inputReceived
  | .approval _, .approve _ => .ok .approved
  | .approval _, .reject _ => .ok .rejected
  | .attention _, .resolveAttention decision _ =>
    if registration.attentionDecisions.contains decision then .ok .attentionResolved
    else .error .attentionDecisionNotAllowed
  | _, _ => .error .decisionKindMismatch

def responseOutcome (response : InteractionResponse) : Checked InteractionOutcome :=
  if registration.expiresAt < response.respondedAt then .ok .expired
  else validateDecision registration response.decision

def interactionReceipt (requestId : String)
    (status : RouteWriteStatus) (outcome : InteractionOutcome) (currentRevision : Nat) :
    InteractionRouteReceipt where
  status := status
  requestId := requestId
  subject := registration.subject
  binding := registration.binding
  previousRevision := registration.binding.decisionRevision
  currentRevision := currentRevision
  outcome := outcome

def replayInteraction (requestId : String)
    (fingerprint : List Char) (resolved : ResolvedInteraction) :
    Checked InteractionRouteReceipt := do
  refuse (resolved.requestId ≠ requestId) .alreadyResolved
  refuse (resolved.requestFingerprint ≠ fingerprint) .idempotencyConflict
  return interactionReceipt registration requestId .duplicate resolved.outcome
    resolved.currentRevision

end Requests

abbrev Routing := Program InteractionRouter InteractionRoutingError

section
variable (productSessionId : String) (subject : InteractionSubject)

def findInteraction : Routing InteractionRecord := fun router =>
  (router, okOr (router.interactions subject) .unknownInteraction)

def writeInteraction (record : InteractionRecord) : Routing Unit := fun router =>
  ({ router with interactions := Function.update router.interactions subject (some record) },
    .ok ())

def findSession : Routing SessionCancellationRecord := fun router =>
  (router, okOr (router.sessions productSessionId) .unknownProductSession)

def writeSession (record : SessionCancellationRecord) : Routing Unit := fun router =>
  ({ router with sessions := Function.update router.sessions productSessionId (some record) },
    .ok ())

def refuseRegistered : Routing Unit := fun router =>
  (router, refuse (router.interactions subject ≠ none) .duplicateRegistration)

def refuseRegisteredSession : Routing Unit := fun router =>
  (router, refuse (router.sessions productSessionId ≠ none) .duplicateRegistration)

end

def sealDecisions (registration : InteractionRegistration) : InteractionRegistration :=
  { registration with
    attentionDecisions :=
      (registration.attentionDecisions.mergeSort (· ≤ ·)).destutter (· ≠ ·) }

def registerInteraction (registration : InteractionRegistration) : Routing Unit := do
  lift (validateRegistration registration)
  refuseRegistered registration.subject
  writeInteraction registration.subject ⟨sealDecisions registration, none⟩

/-- A record is resolved once; a repeated request is answered from the record. -/
def settleInteraction (subject : InteractionSubject) (record : InteractionRecord)
    (requestId : String) (fingerprint : List Char) (outcome : Checked InteractionOutcome) :
    Routing InteractionRouteReceipt :=
  match record.resolved with
  | some resolved =>
    lift (replayInteraction record.registration requestId fingerprint resolved)
  | none => do
    let outcome ← lift outcome
    let currentRevision ← lift
      (nextRevision record.registration.binding.decisionRevision)
    writeInteraction subject
      { record with resolved := some ⟨requestId, fingerprint, outcome, currentRevision⟩ }
    return interactionReceipt record.registration requestId .applied outcome currentRevision

def respond (printable : Char → Bool) (response : InteractionResponse) :
    Routing InteractionRouteReceipt := do
  lift (validateResponse response)
  let record ← findInteraction response.subject
  lift (requireResponseAuthority record.registration response)
  settleInteraction response.subject record response.requestId
    (responseFingerprint printable response) (responseOutcome record.registration response)

def expire (printable : Char → Bool) (expiry : InteractionExpiry) :
    Routing InteractionRouteReceipt := do
  lift (validateExpiry expiry)
  let record ← findInteraction expiry.subject
  lift (requireExpiryAuthority record.registration expiry)
  settleInteraction expiry.subject record expiry.requestId (expiryFingerprint printable expiry)
    (.ok .expired)

def validateActiveExecution (productSessionId : String) (execution : ExecutionRoute) :
    Checked Unit := do
  validateExecution execution
  refuse (execution.productSessionId ≠ productSessionId) .bindingMismatch

def repeatsJob : List ExecutionRoute → Bool
  | first :: second :: rest =>
    first.executionJobId == second.executionJobId || repeatsJob (second :: rest)
  | _ => false

variable (snapshot : SessionCancellationSnapshot)

def sortExecutions : SessionCancellationSnapshot :=
  { snapshot with
    activeExecutions := snapshot.activeExecutions.mergeSort
      (fun left right => left.executionJobId ≤ right.executionJobId) }

def registerCancellationScope : Routing Unit := do
  lift (validateActor snapshot.authorizedActor)
  lift (validateId snapshot.productSessionId "productSessionId" "psn_")
  lift (validateRevision snapshot.revision "revision")
  lift
    (snapshot.activeExecutions.forM (validateActiveExecution snapshot.productSessionId))
  lift
    (refuse (repeatsJob (sortExecutions snapshot).activeExecutions = true) .duplicateRegistration)
  refuseRegisteredSession snapshot.productSessionId
  writeSession snapshot.productSessionId ⟨sortExecutions snapshot, none⟩

section
variable (execution : ExecutionRoute) (request : SessionCancellationRequest)

def cancellationTarget : CancellationTarget where
  productSessionId := execution.productSessionId
  workContractId := execution.workContractId
  workContractRevision := execution.workContractRevision
  workItemId := execution.workItemId
  workItemRevision := execution.workItemRevision
  workRunId := execution.workRunId
  executionJobId := execution.executionJobId

def cancellationRoutes : ExecutionCancellationRoutes where
  job := ⟨cancellationTarget execution, execution.jobRevision⟩
  worker := execution.runtime.bind fun runtime =>
    execution.workerSlotRevision.map fun expectedRevision =>
      ⟨cancellationTarget execution, runtime, expectedRevision⟩
  modelStream := execution.runtime.bind fun runtime =>
    execution.modelExchangeId.map fun modelExchangeId =>
      ⟨cancellationTarget execution, runtime, modelExchangeId⟩

def replayCancellation (fingerprint : List Char)
    (cancelled : CancelledSession) : Checked SessionCancellationReceipt := do
  refuse (cancelled.request.requestId ≠ request.requestId) .sessionAlreadyCancelled
  refuse (cancelled.requestFingerprint ≠ fingerprint) .idempotencyConflict
  return { cancelled.receipt with status := .duplicate }

def cancellationReceipt (currentRevision : Nat) : SessionCancellationReceipt where
  status := .applied
  requestId := request.requestId
  productSessionId := request.productSessionId
  previousRevision := snapshot.revision
  currentRevision := currentRevision
  routes := snapshot.activeExecutions.map cancellationRoutes

def requireCancellationAuthority : Checked Unit := do
  refuse (snapshot.authorizedActor ≠ request.actor) .actorMismatch
  refuse (snapshot.revision ≠ request.expectedRevision)
    (.revisionConflict request.expectedRevision snapshot.revision)

end

def settleSession (record : SessionCancellationRecord) (request : SessionCancellationRequest)
    (fingerprint : List Char) : Routing SessionCancellationReceipt :=
  match record.cancelled with
  | some cancelled => lift (replayCancellation request fingerprint cancelled)
  | none => do
    lift (requireCancellationAuthority record.snapshot request)
    let currentRevision ← lift (nextRevision record.snapshot.revision)
    let receipt := cancellationReceipt record.snapshot request currentRevision
    writeSession request.productSessionId
      { record with cancelled := some ⟨request, fingerprint, receipt⟩ }
    return receipt

def cancelSession (printable : Char → Bool) (request : SessionCancellationRequest) :
    Routing SessionCancellationReceipt := do
  lift (validateCancellationRequest request)
  let record ← findSession request.productSessionId
  settleSession record request (cancellationFingerprint printable request)

end WinWinCode.Session
