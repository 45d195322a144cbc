import WinWinCode.Foundation.Fallible
import WinWinCode.Storage.ClientTables

/-!
The device registry of the server, from `client_registry.rs`: registration and
snapshot of a node, the settlement of uplink frames and the exchange cursors.
Every operation is one immediate transaction, so a refused one returns no store.
A failed SQL statement, a violated constraint included, is the storage error.
-/

namespace WinWinCode.Storage

open Fallible Tables Text

inductive ClientRegistryErrorKind where
  | invalidInput
  | unknownClientNode
  | identityConflict
  | revisionConflict
  | presenceTransition
  | corruptState
  | storage
deriving DecidableEq

structure ClientRegistryError where
  kind : ClientRegistryErrorKind
  message : String

abbrev RegistryResult := Except ClientRegistryError

namespace ClientRegistry

def maxSessionSlots : Nat := 1024
def maxDisplayNameChars : Nat := 200
def maxClientVersionBytes : Nat := 64

def sqlError : ClientRegistryError := ⟨.storage, "client registry storage operation failed"⟩

def unknownClientNode : ClientRegistryError := ⟨.unknownClientNode, "client node does not exist"⟩

def sqlIntegerMax : Nat := 9223372036854775807

variable (value : Nat)

def sqlInteger : RegistryResult Unit :=
  refuse (sqlIntegerMax < value)
    ⟨.invalidInput, "numeric value exceeds the SQLite integer range"⟩

def fromSqlInteger (label : String) : RegistryResult Unit :=
  refuse (maxSafeInteger < value)
    ⟨.corruptState, "stored " ++ label ++ " exceeds the safe integer range"⟩

def validateSequence (label : String) : RegistryResult Unit :=
  refuse (maxSafeInteger < value)
    ⟨.invalidInput, label ++ " sequence exceeds the safe integer range"⟩

def validateRevision : RegistryResult Unit :=
  refuse (maxSafeInteger < value)
    ⟨.invalidInput, "expected revision exceeds the safe integer range"⟩

def validateCrockfordId (value head label : String) : RegistryResult Unit :=
  refuse (isCanonicalId head value = false) ⟨.invalidInput, label ++ " is not canonical"⟩

def validateClientNodeId (value : String) : RegistryResult Unit :=
  validateCrockfordId value "cnd_" "client node id"

def validateClientInstanceId (value : String) : RegistryResult Unit :=
  validateCrockfordId value "cix_" "client instance id"

def validatePublicClientId (value : String) : RegistryResult Unit :=
  refuse (value.utf8ByteSize < 9 ∨ 12 < value.utf8ByteSize ∨ isDigits value.toList = false)
    ⟨.invalidInput, "public client id must contain 9 to 12 digits"⟩

def validateClientVersion (value : String) : RegistryResult Unit :=
  refuse (value = "" ∨ maxClientVersionBytes < value.utf8ByteSize ∨
      isSemanticVersion value = false)
    ⟨.invalidInput, "client version is not a canonical semantic version"⟩

def validateInstant (value label : String) : RegistryResult Unit :=
  refuse (isCanonicalInstant value = false)
    ⟨.invalidInput, label ++ " instant is not canonical"⟩

end ClientRegistry

structure ClientNodeRegistration where
  (clientNodeId publicClientId displayName platform architecture clientVersion : String)
  currentInstanceId : Option String
  maxConcurrentWorkerSessions : Nat

namespace ClientNodeRegistration

open ClientRegistry

def platforms : List String :=
  ["aarch64-apple-darwin", "x86_64-apple-darwin", "aarch64-unknown-linux-gnu",
    "x86_64-unknown-linux-gnu"]

def validateInstance : Option String → RegistryResult Unit
  | some instanceId => validateClientInstanceId instanceId
  | none => .ok ()

def validate (registration : ClientNodeRegistration) : RegistryResult Unit := do
  validateClientNodeId registration.clientNodeId
  validatePublicClientId registration.publicClientId
  refuse (registration.displayName = "" ∨ maxDisplayNameChars < registration.displayName.length)
    ⟨.invalidInput, "client display name must contain 1 to 200 characters"⟩
  refuse (registration.platform ∉ platforms)
    ⟨.invalidInput, "client platform is not a supported release target"⟩
  refuse (registration.architecture ∉ ["aarch64", "x86_64"])
    ⟨.invalidInput, "client architecture is not supported"⟩
  validateClientVersion registration.clientVersion
  validateInstance registration.currentInstanceId
  refuse (maxSessionSlots < registration.maxConcurrentWorkerSessions)
    ⟨.invalidInput, "client concurrent worker session capacity exceeds the schema maximum"⟩

/-- `try_new`: a registration exists only once it has been validated. -/
def tryNew (registration : ClientNodeRegistration) : RegistryResult ClientNodeRegistration := do
  registration.validate
  return registration

end ClientNodeRegistration

structure ClientExchangeCursors where
  (clientToServerAckSequence serverToClientAckSequence : Nat)

structure ClientDownlinkAppend where
  (clientNodeId messageId : String)
  sequence : Nat
  frame : String

structure ClientNodeRegistrationReceipt where
  record : ClientNodeRecord
  enrolled : Bool

namespace ClientRegistry

section Nodes
variable {Rest : Type} (store : ClientStore Rest)

def snapshot (node : String) : RegistryResult (Option ClientNodeRecord) := do
  validateClientNodeId node
  return store.nodeRow node

variable (registration : ClientNodeRegistration)

def enrolledNode (now : String) : ClientNodeRecord where
  clientNodeId := registration.clientNodeId
  publicClientId := registration.publicClientId
  displayName := registration.displayName
  platform := registration.platform
  architecture := registration.architecture
  clientVersion := registration.clientVersion
  currentInstanceId := registration.currentInstanceId
  presenceState := .pendingEnrollment
  acceptingConnections := true
  lockState := .unlocked
  maxConcurrentWorkerSessions := registration.maxConcurrentWorkerSessions
  reportedRunningWorkerSessions := 0
  lastHeartbeatAt := none
  createdAt := now
  revision := 1

def insertEnrolledClientNode (registration : ClientNodeRegistration)
    (now : String) : RegistryResult (ClientStore Rest) := do
  let nodes ← okOr (store.nodes.insert (enrolledNode registration now)) sqlError
  let cursors ← okOr (store.cursors.insert ⟨registration.clientNodeId, 0, 0⟩) sqlError
  return { store with nodes := nodes, cursors := cursors }

def ensureRegistrationReplay (record : ClientNodeRecord) (registration : ClientNodeRegistration)
    (expectedRevision : Nat) : RegistryResult Unit := do
  refuse (record.publicClientId ≠ registration.publicClientId)
    ⟨.identityConflict, "client node id is already bound to another public client id"⟩
  refuse (record.presenceState = .revoked)
    ⟨.identityConflict, "revoked client node identity cannot re-enroll"⟩
  refuse (record.revision ≠ expectedRevision)
    ⟨.revisionConflict, "client node revision changed during registration"⟩

def refreshed (record : ClientNodeRecord) : ClientNodeRecord :=
  { record with
    displayName := registration.displayName
    platform := registration.platform
    architecture := registration.architecture
    clientVersion := registration.clientVersion
    currentInstanceId := registration.currentInstanceId
    maxConcurrentWorkerSessions := registration.maxConcurrentWorkerSessions
    revision := record.revision + 1 }

/-- The refresh, refused by the `revision` column's own bound. -/
def refreshClientNodeProjection
    (registration : ClientNodeRegistration) (record : ClientNodeRecord) :
    RegistryResult (ClientStore Rest) := do
  sqlInteger record.revision
  refuse (maxSafeInteger < record.revision + 1) sqlError
  return { store with
    nodes := store.nodes.updateWhere
      (fun row => row.clientNodeId == registration.clientNodeId &&
        row.revision == record.revision)
      (refreshed registration) fun _ _ _ => ⟨id, id⟩ }

def register (registration : ClientNodeRegistration) (expectedRevision : Nat) (now : String) :
    RegistryResult (ClientStore Rest × ClientNodeRegistrationReceipt) := do
  registration.validate
  validateRevision expectedRevision
  validateInstant now "registration time"
  match store.nodeRow registration.clientNodeId with
  | none =>
    refuse (store.nodes.rows.any (·.publicClientId == registration.publicClientId))
      ⟨.identityConflict, "public client id is already bound to another client node"⟩
    let inserted ← insertEnrolledClientNode store registration now
    let record ← okOr (inserted.nodeRow registration.clientNodeId)
      ⟨.corruptState, "registered client node row is missing after insert"⟩
    return (inserted, ⟨record, true⟩)
  | some record =>
    ensureRegistrationReplay record registration expectedRevision
    let updated ← refreshClientNodeProjection store registration record
    let record ← okOr (updated.nodeRow registration.clientNodeId)
      ⟨.corruptState, "registered client node row is missing after update"⟩
    return (updated, ⟨record, false⟩)

end Nodes

variable (tables : ExchangeTables) (node : String)

def loadExchangeCursors : RegistryResult (Option ClientExchangeCursors) :=
  match tables.cursorRow node with
  | none => .ok none
  | some row => do
    fromSqlInteger row.clientToServerAckSequence "client-to-server ack sequence"
    fromSqlInteger row.serverToClientAckSequence "server-to-client ack sequence"
    return some ⟨row.clientToServerAckSequence, row.serverToClientAckSequence⟩

def exchangeCursors : RegistryResult (Option ClientExchangeCursors) := do
  validateClientNodeId node
  loadExchangeCursors tables node

def raiseCursors (clientToServer serverToClient : Nat) : ExchangeTables :=
  { tables with
    cursors := tables.cursors.updateWhere (fun row => row.clientNodeId == node)
      (CursorRow.raised clientToServer serverToClient) fun _ _ _ => ⟨id, id⟩ }

def advanceExchangeCursors (clientToServer serverToClient : Nat) :
    RegistryResult (ExchangeTables × ClientExchangeCursors) := do
  validateClientNodeId node
  validateSequence clientToServer "client-to-server ack"
  validateSequence serverToClient "server-to-client ack"
  refuse (tables.cursorRow node = none) unknownClientNode
  let raised := raiseCursors tables node clientToServer serverToClient
  let loaded ← loadExchangeCursors raised node
  let cursors ← okOr loaded unknownClientNode
  return (raised, cursors)

/-- Reserve the idempotency key of a frame and say whether its command has been
settled before. -/
def reserveCommand (node key digest : String) : RegistryResult (ExchangeTables × Bool) := do
  let reserved := { tables with
    commands := tables.commands.insertOrIgnore
      { clientNodeId := node, idempotencyKey := key, payloadDigest := digest } }
  let prior ← okOr (reserved.commandRow node key) sqlError
  refuse (prior.payloadDigest ≠ digest) ⟨.identityConflict, "exchange idempotency conflict"⟩
  return (reserved, prior.completed)

def reserveFrame (sequence : Nat)
    (messageId digest : String) : RegistryResult (ExchangeTables × Bool) := do
  let reserved := { tables with
    frames := tables.frames.insertOrIgnore
      { clientNodeId := node, sequence := sequence, messageId := messageId,
        payloadDigest := digest } }
  let stored ← okOr (reserved.frameRow node sequence)
    ⟨.identityConflict, "exchange message identity conflict"⟩
  refuse (stored.messageId ≠ messageId ∨ stored.payloadDigest ≠ digest)
    ⟨.identityConflict, "exchange frame payload conflict"⟩
  return (reserved, stored.completed)

/-- Answers whether the frame, or the command it carries, is already settled. -/
def reserveExchangeFrame (sequence : Nat) (messageId digest : String) (commandKey : Option String) :
    RegistryResult (ExchangeTables × Bool) := do
  validateClientNodeId node
  validateSequence sequence "received sequence"
  let (reserved, completed) ← reserveFrame tables node sequence messageId digest
  match commandKey with
  | none => return (reserved, completed)
  | some key =>
    let (reserved, settled) ← reserveCommand reserved node key digest
    return (reserved, completed || settled)

section
variable {Rest : Type} (store : ClientStore Rest)

def appendReply (node : String) (reply : ClientDownlinkAppend)
    (now : String) : RegistryResult (ClientStore Rest) := do
  let cursor ← okOr (store.cursorRow node) sqlError
  let next := max (store.highestDownlink node) cursor.serverToClientAckSequence + 1
  refuse (reply.clientNodeId ≠ node) ⟨.identityConflict, "downlink reply sequence changed"⟩
  sqlInteger reply.sequence
  refuse (reply.sequence ≠ next) ⟨.identityConflict, "downlink reply sequence changed"⟩
  refuse (maxSafeInteger < next ∨ reply.frame = "" ∨ 262144 < reply.frame.length ∨
    store.nodeRow node = none) sqlError
  let downlink ← okOr (store.downlink.insert ⟨node, next, reply.messageId, reply.frame, now⟩)
    sqlError
  return { store with downlink := downlink }

def settleFrame (tables : ExchangeTables) (node : String) (sequence : Nat)
    (commandKey : Option String) : RegistryResult ExchangeTables := do
  sqlInteger sequence
  refuse (tables.frameRow node sequence = none)
    ⟨.identityConflict, "exchange frame is not reserved"⟩
  let completed := { tables with
    frames := tables.frames.updateWhere
      (fun row => row.clientNodeId == node && row.sequence == sequence)
      FrameRow.settled fun _ _ _ => ⟨id, id⟩
    commands := tables.commands.updateWhere
      (fun row => row.clientNodeId == node && commandKey == some row.idempotencyKey)
      CommandRow.settled fun _ _ _ => ⟨id, id⟩ }
  return raiseCursors completed node sequence 0

def appendOptionalReply (node : String) :
    Option (ClientDownlinkAppend × String) → RegistryResult (ClientStore Rest)
  | none => .ok store
  | some (reply, now) => appendReply store node reply now

def completeExchangeFrameWithReply (node : String) (sequence : Nat)
    (commandKey : Option String) (reply : Option (ClientDownlinkAppend × String)) :
    RegistryResult (ClientStore Rest) := do
  let replied ← appendOptionalReply store node reply
  let settled ← settleFrame replied.toExchangeTables node sequence commandKey
  return { replied with toExchangeTables := settled }

end

end ClientRegistry

end WinWinCode.Storage
