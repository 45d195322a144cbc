import WinWinCode.ExecutionPort.ActionNormalizer
import WinWinCode.ExecutionPort.ExecutionIdentity

/-!
Receipts of the control plane for worker actions, from `action_enforcement.rs`. A receipt
names the digests of the action it was given for. The digests and the JSON texts they are
taken of are functions of a codec; single-variant kinds and schema versions are left out.
-/

namespace WinWinCode.ExecutionPort

open Fallible Text
open Storage (ExecutionLeaseStamp SessionIdentity)

/-- What a policy condition is about; its digest is taken of `source:`, `operation:` or
`fact:` and the name. -/
inductive PolicyCondition where
  | source (source : ActionSource)
  | operation (operation : ActionOperation)
  | fact (fact : ObservedFact)

structure ActionCodec where
  /-- `serde_json::to_string` of a program with its arguments. -/
  argv : List String → String
  subjectSha256 : ActionNormalization → String
  conditionSha256 : PolicyCondition → String
  /-- `action:`, the source and the digest of source and targets. -/
  resource : ActionSource → List String → String

structure WorkerActionAuthority where
  lease : ExecutionLeaseStamp
  workerSessionId : String
  sessionIdentity : SessionIdentity

structure WorkerActionRequest (Json : Type) where
  invocationRequestId : String
  authority : WorkerActionAuthority
  intent : ActionIntent
  request : ToolRequest Json

inductive ActionPolicyKind where
  | repository | tool | network
deriving DecidableEq

inductive ActionPolicyMode where
  | enforce | audit
deriving DecidableEq

inductive ActionEnforcementDecision where
  | permit | reject
deriving DecidableEq

structure ActionPolicyVersionReference where
  (effectiveDefinitionSha256 policyId : String)
  version : Int
  versionDigest : String
deriving DecidableEq

structure RepositoryScope where
  (organizationId projectId repositoryId workspaceId : String)
deriving DecidableEq

structure ActionEnforcementReceiptMessage where
  actorId : String
  decision : ActionEnforcementDecision
  (evaluatedAt evaluationSha256 jobId : String)
  lease : ExecutionLeaseStamp
  matchedConditionSha256 : List String
  messageId : String
  policyKind : ActionPolicyKind
  policyMode : Option ActionPolicyMode
  policyVersion : Option ActionPolicyVersionReference
  (requestId resource : String)
  scope : RepositoryScope
  sentAt : String
  sessionIdentity : SessionIdentity
  (subjectSha256 workerSessionId : String)
deriving DecidableEq

inductive ActionEnforcementError where
  | invalidAction | receiptMismatch

structure ActionEnforcementFacts where
  policyKind : ActionPolicyKind
  (resource subjectSha256 : String)
  matchedConditionSha256 : List String

def ActionSource.policyKind : ActionSource → ActionPolicyKind
  | .file | .git => .repository
  | .network => .network
  | .shell | .mcp => .tool

def actionEnforcementFacts (codec : ActionCodec) (normalization : ActionNormalization) :
    ActionEnforcementFacts :=
  let observed := normalization.observed
  let conditions := .source observed.source :: .operation observed.operation ::
    observed.facts.map PolicyCondition.fact
  { policyKind := observed.source.policyKind
    resource := codec.resource observed.source observed.targets
    subjectSha256 := codec.subjectSha256 normalization
    matchedConditionSha256 := sortedSet (fun left right => decide (left < right))
      (conditions.map codec.conditionSha256) }

def isDigest (value : String) : Bool :=
  match stripPrefix "sha256:" value with
  | none => false
  | some hex => hex.length == 64 && hex.all isLowerHex

def validPolicyReference (receipt : ActionEnforcementReceiptMessage) : Bool :=
  match receipt.policyMode, receipt.policyVersion with
  | none, none => true
  | some _, some reference =>
    isCanonicalId "pol_" reference.policyId &&
      decide (1 ≤ reference.version ∧ reference.version ≤ maxSafeInteger) &&
      isDigest reference.versionDigest && isDigest reference.effectiveDefinitionSha256
  | _, _ => false

def canonicalRepositoryScope (scope : RepositoryScope) : Bool :=
  isCanonicalId "org_" scope.organizationId && isCanonicalId "wsp_" scope.workspaceId &&
    isCanonicalId "prj_" scope.projectId && isCanonicalId "rep_" scope.repositoryId

variable {Json : Type}

def Binds (action : WorkerActionRequest Json) (facts : ActionEnforcementFacts)
    (receipt : ActionEnforcementReceiptMessage) : Prop :=
  receipt.requestId = action.invocationRequestId ∧
  receipt.jobId = action.authority.lease.jobId ∧
  receipt.lease = action.authority.lease ∧
  receipt.workerSessionId = action.authority.workerSessionId ∧
  receipt.sessionIdentity = action.authority.sessionIdentity ∧
  receipt.policyKind = facts.policyKind ∧
  receipt.resource = facts.resource ∧
  receipt.subjectSha256 = facts.subjectSha256 ∧
  receipt.matchedConditionSha256 = facts.matchedConditionSha256

def Timely (currentLease : ExecutionLeaseStamp) (receipt : ActionEnforcementReceiptMessage) :
    Prop :=
  receipt.sentAt = receipt.evaluatedAt ∧
  canonicalInstant receipt.evaluatedAt = true ∧
  currentLease.issuedAt ≤ receipt.evaluatedAt ∧
  receipt.evaluatedAt < currentLease.expiresAt ∧
  isCanonicalId "xmsg_" receipt.messageId = true ∧
  isCanonicalId "req_" receipt.requestId = true ∧
  isCanonicalId "usr_" receipt.actorId = true ∧
  canonicalRepositoryScope receipt.scope = true ∧
  validPolicyReference receipt = true ∧
  isDigest receipt.evaluationSha256 = true

instance (action : WorkerActionRequest Json) (facts : ActionEnforcementFacts)
    (receipt : ActionEnforcementReceiptMessage) : Decidable (Binds action facts receipt) :=
  inferInstanceAs (Decidable (_ ∧ _))

instance (currentLease : ExecutionLeaseStamp) (receipt : ActionEnforcementReceiptMessage) :
    Decidable (Timely currentLease receipt) :=
  inferInstanceAs (Decidable (_ ∧ _))

section
variable (codec : ActionCodec) (action : WorkerActionRequest Json)
  (receipt : ActionEnforcementReceiptMessage)

def validateActionReceiptOutcomeWithCurrentLease
    (currentLease : ExecutionLeaseStamp) : Except ActionEnforcementError ActionNormalization := do
  refuse (retainedLeaseMatchesCurrent action.authority.lease currentLease = false)
    .receiptMismatch
  let normalization ← (normalizeAction codec.argv action.intent action.request).mapError
    fun _ => .invalidAction
  refuse (normalization.comparison.agrees = false) .invalidAction
  refuse (¬ (Binds action (actionEnforcementFacts codec normalization) receipt ∧
    Timely currentLease receipt)) .receiptMismatch
  pure normalization

def validateActionReceiptOutcome : Except ActionEnforcementError ActionNormalization :=
  validateActionReceiptOutcomeWithCurrentLease codec action receipt action.authority.lease

def validateActionReceipt : Except ActionEnforcementError ActionNormalization := do
  refuse (receipt.decision ≠ .permit) .receiptMismatch
  validateActionReceiptOutcome codec action receipt

structure Permits (normalization : ActionNormalization) : Prop where
  permit : receipt.decision = .permit
  lease : retainedLeaseMatchesCurrent action.authority.lease action.authority.lease = true
  normalized : normalizeAction codec.argv action.intent action.request = .ok normalization
  agrees : normalization.comparison.agrees = true
  binds : Binds action (actionEnforcementFacts codec normalization) receipt
  timely : Timely action.authority.lease receipt

end

theorem validateActionReceipt_eq_ok {codec : ActionCodec} {action : WorkerActionRequest Json}
    {receipt : ActionEnforcementReceiptMessage} {normalization : ActionNormalization} :
    validateActionReceipt codec action receipt = .ok normalization ↔
      Permits codec action receipt normalization := by
  simp only [validateActionReceipt, validateActionReceiptOutcome,
    validateActionReceiptOutcomeWithCurrentLease, eq_ok, mapError_eq_ok, exists_const, not_not,
    ne_eq, Bool.not_eq_false]
  constructor
  · rintro ⟨permit, lease, _, normalized, agrees, ⟨binds, timely⟩, rfl⟩
    exact ⟨permit, lease, normalized, agrees, binds, timely⟩
  · rintro ⟨permit, lease, normalized, agrees, binds, timely⟩
    exact ⟨permit, lease, normalization, normalized, agrees, ⟨binds, timely⟩, rfl⟩

end WinWinCode.ExecutionPort
