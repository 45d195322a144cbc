import WinWinCode.Storage.ExecutionValues
import WinWinCode.Storage.StorageErrors

/-!
Public projection events, from `lib.rs` of the storage crate: the actor, scope,
source and stream of an event, their checks, and the receipt keys that encode
actor and scope. A key is a list of fields, each after its length in eight bytes.
-/

namespace WinWinCode.Storage

open Fallible Text

inductive PublicEventActor where
  | user (id : String)
  | serviceAccount (id : String)
  | system (id : String)

inductive PublicEventScope where
  | organization (organizationId : String)
  | workspace (organizationId workspaceId : String)
  | project (organizationId workspaceId projectId : String)
  | repository (organizationId workspaceId projectId repositoryId : String)

inductive PublicEventSource where
  | controlPlane (actor : PublicEventActor) (component : String)
  | executionWorker (workerId workerSessionId leaseId codexThreadId : String)
  | sessionExecutionWorker (workerId workerSessionId leaseId codexThreadId : String)
      (sessionIdentity : SessionIdentity)

inductive ProjectionEventStream where
  | scope
  | delivery (deliveryId : String)
  | productSession (productSessionId : String)
  | lease (workerId leaseId : String)
deriving DecidableEq

/-- The texts `scope`, `delivery`, `product-session` and `lease` of the kind column. -/
inductive ProjectionStreamKind where
  | scope
  | delivery
  | productSession
  | lease
deriving DecidableEq

/-! Receipt keys. -/

structure ReceiptActorKey where
  encoded : List UInt8
  nonempty : encoded ≠ []
deriving DecidableEq

structure ReceiptScopeKey where
  encoded : List UInt8
  nonempty : encoded ≠ []
deriving DecidableEq

def ReceiptActorKey.fromEncoded (encoded : List UInt8) : StorageResult ReceiptActorKey :=
  if empty : encoded = [] then .error (.invalidInput "receipt actor key must not be empty")
  else .ok ⟨encoded, empty⟩

def ReceiptScopeKey.fromEncoded (encoded : List UInt8) : StorageResult ReceiptScopeKey :=
  if empty : encoded = [] then .error (.invalidInput "receipt scope key must not be empty")
  else .ok ⟨encoded, empty⟩

def toBeBytes (value : Nat) : List UInt8 :=
  [56, 48, 40, 32, 24, 16, 8, 0].map fun shift => UInt8.ofNat (value >>> shift)

def publicKeyField (value : List UInt8) : List UInt8 :=
  toBeBytes value.length ++ value

def encodePublicKey (head tag : String) (values : List String) : List UInt8 :=
  publicKeyField (utf8 head) ++ publicKeyField (utf8 tag) ++
    values.flatMap fun value => publicKeyField (utf8 value)

def requireCanonicalPublicId (value head label : String) : StorageCheck :=
  refuse (isCanonicalId head value = false) (.invalidInput (label ++ " is not canonical"))

def actorKeyPrefix : String := "winwincode.command-receipt.actor.v1"

def scopeKeyPrefix : String := "winwincode.command-receipt.scope.v1"

def receiptActorKey (actor : PublicEventActor) : StorageResult ReceiptActorKey := do
  let (tag, id, head) := match actor with
    | .user id => ("user", id, "usr_")
    | .serviceAccount id => ("service_account", id, "svc_")
    | .system id => ("system", id, "sys_")
  requireCanonicalPublicId id head "actor id"
  ReceiptActorKey.fromEncoded (encodePublicKey actorKeyPrefix tag [id])

def receiptScopeKey : PublicEventScope → StorageResult ReceiptScopeKey
  | .organization organizationId => do
    requireCanonicalPublicId organizationId "org_" "organizationId"
    ReceiptScopeKey.fromEncoded
      (encodePublicKey scopeKeyPrefix "organization" [organizationId])
  | .workspace organizationId workspaceId => do
    requireCanonicalPublicId organizationId "org_" "organizationId"
    requireCanonicalPublicId workspaceId "wsp_" "workspaceId"
    ReceiptScopeKey.fromEncoded
      (encodePublicKey scopeKeyPrefix "workspace" [organizationId, workspaceId])
  | .project organizationId workspaceId projectId => do
    requireCanonicalPublicId organizationId "org_" "organizationId"
    requireCanonicalPublicId workspaceId "wsp_" "workspaceId"
    requireCanonicalPublicId projectId "prj_" "projectId"
    ReceiptScopeKey.fromEncoded
      (encodePublicKey scopeKeyPrefix "project" [organizationId, workspaceId, projectId])
  | .repository organizationId workspaceId projectId repositoryId => do
    requireCanonicalPublicId organizationId "org_" "organizationId"
    requireCanonicalPublicId workspaceId "wsp_" "workspaceId"
    requireCanonicalPublicId projectId "prj_" "projectId"
    requireCanonicalPublicId repositoryId "rep_" "repositoryId"
    ReceiptScopeKey.fromEncoded (encodePublicKey scopeKeyPrefix "repository"
      [organizationId, workspaceId, projectId, repositoryId])

/-! Streams. -/

def isPortableEventKey (value : String) : Bool :=
  value.toList.all fun symbol => symbol.isAlphanum || ['.', '_', ':', '@', '-'].contains symbol

/-- The stem `evt_` and sixteen to 128 letters, digits, underscores or hyphens. -/
def isControlPlaneEventId (value : String) : Bool :=
  match stripPrefix "evt_" value with
  | none => false
  | some suffix => 16 ≤ suffix.length && suffix.length ≤ 128 &&
      suffix.all fun symbol => symbol.isAlphanum || symbol == '_' || symbol == '-'

namespace ProjectionEventStream

def kind : ProjectionEventStream → ProjectionStreamKind
  | .scope => .scope
  | .delivery _ => .delivery
  | .productSession _ => .productSession
  | .lease _ _ => .lease

def resourceId : ProjectionEventStream → String
  | .scope => ""
  | .delivery deliveryId => deliveryId
  | .productSession productSessionId => productSessionId
  | .lease workerId leaseId => workerId ++ "/" ++ leaseId

def validate (stream : ProjectionEventStream) : StorageCheck :=
  let (label, valid) := match stream with
    | .scope => ("scope", true)
    | .delivery deliveryId => ("delivery", isCanonicalId "dlv_" deliveryId)
    | .productSession value =>
      ("product-session", value != "" && value.length ≤ 200 && isPortableEventKey value)
    | .lease workerId leaseId =>
      ("lease", isCanonicalId "wrk_" workerId && isCanonicalId "lse_" leaseId)
  refuse (valid = false) (.invalidInput (label ++ " event stream identity is invalid"))

def leaseFromStored (resourceId : String) : StorageResult ProjectionEventStream := do
  let invalid := StorageError.adapter "stored lease event stream identity is invalid"
  let (workerId, leaseId) ← okOr (splitOnce '/' resourceId) invalid
  refuse (leaseId.toList.contains '/') invalid
  return .lease workerId leaseId

def parseStored (kind : ProjectionStreamKind) (resourceId : String) :
    StorageResult ProjectionEventStream :=
  match kind with
  | .scope =>
    if resourceId = "" then .ok .scope
    else .error (.adapter "stored event stream kind is invalid")
  | .delivery => .ok (.delivery resourceId)
  | .productSession => .ok (.productSession resourceId)
  | .lease => leaseFromStored resourceId

def fromStored (kind : ProjectionStreamKind) (resourceId : String) :
    StorageResult ProjectionEventStream := do
  let stream ← parseStored kind resourceId
  stream.validate
  return stream

end ProjectionEventStream

/-! The context of a public event. -/

structure PublicProjectionEventContext where
  scope : PublicEventScope
  stream : ProjectionEventStream
  occurredAt : String
  source : PublicEventSource

def validatePublicEventTime (occurredAt : String) : StorageCheck :=
  refuse (isCanonicalInstant occurredAt = false)
    (.invalidInput "public event occurredAt is invalid")

def validateWorkerSource (workerId workerSessionId leaseId codexThreadId : String) :
    StorageCheck := do
  requireCanonicalPublicId workerId "wrk_" "source workerId"
  requireCanonicalPublicId workerSessionId "wsn_" "source workerSessionId"
  requireCanonicalPublicId leaseId "lse_" "source leaseId"
  requireCanonicalPublicId codexThreadId "cdx_" "source codexThreadId"

def validateWorkRun : Option String → StorageCheck
  | some workRunId => requireCanonicalPublicId workRunId "wrn_" "source workRunId"
  | none => .ok ()

def validatePublicSource : PublicEventSource → StorageCheck
  | .controlPlane actor component => do
    refuse (isBlank component) (.invalidInput "public event component is invalid")
    let _ ← receiptActorKey actor
  | .executionWorker workerId workerSessionId leaseId codexThreadId =>
    validateWorkerSource workerId workerSessionId leaseId codexThreadId
  | .sessionExecutionWorker workerId workerSessionId leaseId codexThreadId sessionIdentity => do
    refuse (workerSessionId ≠ sessionIdentity.workerSessionId ∨
        codexThreadId ≠ sessionIdentity.codexThreadId)
      (.invalidInput "public Worker source differs from sessionIdentity")
    validateWorkerSource workerId workerSessionId leaseId codexThreadId
    requireCanonicalPublicId sessionIdentity.productSessionId "psn_" "source productSessionId"
    validateWorkRun sessionIdentity.workRunId

/-- The worker and lease a worker source speaks for. -/
def PublicEventSource.workerAuthority : PublicEventSource → Option (String × String)
  | .controlPlane _ _ => none
  | .executionWorker workerId _ leaseId _ => some (workerId, leaseId)
  | .sessionExecutionWorker workerId _ leaseId _ _ => some (workerId, leaseId)

def validatePublicStreamSource (stream : ProjectionEventStream) (source : PublicEventSource) :
    StorageCheck :=
  match stream, source.workerAuthority with
  | .lease workerId leaseId, some authority =>
    refuse (authority ≠ (workerId, leaseId))
      (.invalidInput "Lease event stream differs from its Worker source authority")
  | _, _ => .ok ()

end WinWinCode.Storage
