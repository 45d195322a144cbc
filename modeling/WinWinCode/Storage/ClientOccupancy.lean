import WinWinCode.Foundation.Fallible
import WinWinCode.Storage.ClientTables

/-!
The occupancy ledger, from `client_occupancy.rs`: who holds a device, under which
fencing token, and how a lease moves. Every operation is one immediate
transaction, so a refused one returns no store. Enumerations are typed and every
stored instant was validated on its way in, so the parse errors of a corrupted
column have no counterpart. The device projection and the access grants are
other components' tables; an operation reads them through a `ClientDirectory`.
-/

namespace WinWinCode.Storage

open Fallible Tables Text

inductive OccupancyLeaseState where
  | reserving
  | occupied
  | draining
  | recoveryPending
  | released
  | expired
deriving DecidableEq

namespace OccupancyLeaseState

def asStr : OccupancyLeaseState → String
  | reserving => "reserving"
  | occupied => "occupied"
  | draining => "draining"
  | recoveryPending => "recovery_pending"
  | released => "released"
  | expired => "expired"

def isActive : OccupancyLeaseState → Bool
  | reserving | occupied | draining | recoveryPending => true
  | released | expired => false

end OccupancyLeaseState

inductive OccupancyReleaseReason where
  | ackTimeout
  | clientRejected
  | claimWithdrawn
  | holderReleased
  | drainCompleted
  | forceReleased
deriving DecidableEq

inductive OccupancyReconcileTarget where
  | resumeOccupied
  | resumeDraining
deriving DecidableEq

structure OccupancyClaim where
  (occupancyLeaseId clientNodeId holderUserId claimRequestId : String)

/-- The columns of a lease that no `UPDATE` writes. -/
structure OccupancyLeaseIdentity where
  (occupancyLeaseId clientNodeId holderUserId : String)
  fencingToken : Nat
  claimRequestId : String
  claimedAt : Option String
  createdAt : String

/-- The columns of a lease that its transitions write. -/
structure OccupancyLeaseProgress where
  state : OccupancyLeaseState
  (acknowledgedAt lastRenewedAt idleExpiresAt recoveryDeadlineAt : Option String)
  releaseReason : Option OccupancyReleaseReason

abbrev LeaseChange := OccupancyLeaseProgress → OccupancyLeaseProgress

structure OccupancyLeaseRecord extends OccupancyLeaseIdentity, OccupancyLeaseProgress where
  revision : Nat

namespace OccupancyLeaseRecord

/-- Primary key `occupancy_lease_id`, unique `fencing_token`, and one active lease per
client node. -/
abbrev Clash (left right : OccupancyLeaseRecord) : Prop :=
  left.occupancyLeaseId = right.occupancyLeaseId ∨ left.fencingToken = right.fencingToken ∨
    (left.clientNodeId = right.clientNodeId ∧ left.state.isActive = true ∧
      right.state.isActive = true)

def advanced (change : LeaseChange) (record : OccupancyLeaseRecord) : OccupancyLeaseRecord :=
  { record with
    toOccupancyLeaseProgress := change record.toOccupancyLeaseProgress
    revision := record.revision + 1 }

/-- No `UPDATE` of an active lease can clash with another row. -/
theorem advanced_safe {selected : OccupancyLeaseRecord → Bool} (change : LeaseChange)
    (active : ∀ record, selected record → record.state.isActive) :
    Table.Safe Clash selected (advanced change) := by
  intro record _ hit
  constructor
  · rintro (same | same | ⟨node, _, live⟩)
    · exact .inl same
    · exact .inr (Or.inl same)
    · exact .inr (Or.inr ⟨node, active record hit, live⟩)
  · rintro (same | same | ⟨node, live, _⟩)
    · exact .inl same
    · exact .inr (Or.inl same)
    · exact .inr (Or.inr ⟨node, live, active record hit⟩)

end OccupancyLeaseRecord

structure OccupancyRecoveryRow where
  occupancyLeaseId : String
  wasDraining : Bool
  startedAt : String

abbrev OccupancyRecoveryRow.Clash (left right : OccupancyRecoveryRow) : Prop :=
  left.occupancyLeaseId = right.occupancyLeaseId

structure OccupancyStore where
  leases : Table OccupancyLeaseRecord OccupancyLeaseRecord.Clash
  /-- The singleton row of `occupancy_fencing_tokens`, absent before the first mint. -/
  lastIssuedToken : Option Nat
  recovery : Table OccupancyRecoveryRow OccupancyRecoveryRow.Clash

namespace OccupancyStore

def empty : OccupancyStore := ⟨.empty, none, .empty⟩

def leaseRow (store : OccupancyStore) (lease : String) : Option OccupancyLeaseRecord :=
  store.leases.find fun row => row.occupancyLeaseId == lease

def recoveryRow (store : OccupancyStore) (lease : String) : Option OccupancyRecoveryRow :=
  store.recovery.find fun row => row.occupancyLeaseId == lease

end OccupancyStore

/-- What the ledger reads of the device projection and of the access grants: a node's
row, and the stored permissions of a user's active grant on a node. -/
structure ClientDirectory where
  node : String → Option ClientNodeRecord
  permissions : String → String → Option String

inductive OccupancyStoreErrorKind where
  | invalidInput
  | unknownClientNode
  | unknownOccupancyLease
  | accessDenied
  | presenceNotOnline
  | clientLocked
  | notAcceptingConnections
  | capacityExhausted
  | activeLeaseConflict
  | occupancyLeaseConflict
  | fencingTokenMismatch
  | fencingTokenExhausted
  | illegalStateTransition
  | revisionConflict
  | corruptState
  | storage

structure OccupancyStoreError where
  kind : OccupancyStoreErrorKind
  message : String

abbrev OccupancyResult := Except OccupancyStoreError

abbrev OccupancyCheck := OccupancyResult Unit

abbrev OccupancyAnswer := OccupancyResult (OccupancyStore × OccupancyLeaseRecord)

namespace OccupancyLedger

def sqlError : OccupancyStoreError := ⟨.storage, "occupancy ledger storage operation failed"⟩

def unknownClientNode : OccupancyStoreError := ⟨.unknownClientNode, "client node does not exist"⟩

def leaseMissingAfterWrite : OccupancyStoreError :=
  ⟨.corruptState, "occupancy lease row is missing after the write"⟩

def illegalTransition (record : OccupancyLeaseRecord) (action : String) : OccupancyStoreError :=
  ⟨.illegalStateTransition,
    "occupancy transition " ++ record.state.asStr ++ " during " ++ action ++ " is not legal"⟩

def casLost (action : String) : OccupancyStoreError :=
  ⟨.revisionConflict, "occupancy compare-and-swap lost during " ++ action⟩

def validateCrockfordId (value head label : String) : OccupancyCheck :=
  refuse (isCanonicalId head value = false) ⟨.invalidInput, label ++ " is not canonical"⟩

def validateOccupancyLeaseId (value : String) : OccupancyCheck :=
  validateCrockfordId value "ocl_" "occupancy lease id"

def validateClientNodeId (value : String) : OccupancyCheck :=
  validateCrockfordId value "cnd_" "client node id"

def validateUserId (value : String) : OccupancyCheck :=
  validateCrockfordId value "usr_" "user id"

def validateClaimRequestId (value : String) : OccupancyCheck :=
  validateCrockfordId value "req_" "claim request id"

def validateInstant (value label : String) : OccupancyCheck :=
  refuse (isCanonicalInstant value = false)
    ⟨.invalidInput, label ++ " instant is not canonical"⟩

def validateOptionalInstant (label : String) : Option String → OccupancyCheck
  | some value => validateInstant value label
  | none => .ok ()

def validateFencingToken (value : Nat) : OccupancyCheck :=
  refuse (value = 0 ∨ maxSafeInteger < value)
    ⟨.invalidInput, "fencing token is outside the durable range"⟩

def sqlInteger (value : Nat) : OccupancyCheck :=
  refuse (9223372036854775807 < value)
    ⟨.invalidInput, "numeric value exceeds the SQLite integer range"⟩

def fromSqlInteger (value : Nat) (label : String) : OccupancyCheck :=
  refuse (maxSafeInteger < value)
    ⟨.corruptState, "stored " ++ label ++ " exceeds the safe integer range"⟩

def ensureFencingToken (record : OccupancyLeaseRecord) (token : Nat) : OccupancyCheck :=
  refuse (record.fencingToken ≠ token)
    ⟨.fencingTokenMismatch, "occupancy fencing token does not match the lease"⟩

def ensureReplayReason (record : OccupancyLeaseRecord) (reason : OccupancyReleaseReason) :
    OccupancyCheck :=
  refuse (record.releaseReason ≠ some reason) (illegalTransition record "replay")

/-- `OccupancyClaim::try_new`: a claim exists only once its ids have been validated. -/
def tryNewClaim (claim : OccupancyClaim) : OccupancyResult OccupancyClaim := do
  validateOccupancyLeaseId claim.occupancyLeaseId
  validateClientNodeId claim.clientNodeId
  validateUserId claim.holderUserId
  validateClaimRequestId claim.claimRequestId
  return claim

variable (store : OccupancyStore) (lease : String)

def requireOccupancyLease : OccupancyResult OccupancyLeaseRecord :=
  okOr (store.leaseRow lease)
    ⟨.unknownOccupancyLease, "occupancy lease does not exist"⟩

def permissionTexts : List String := ["use", "use+manage", "use+share", "use+manage+share"]

def ensureClaimGate (clients : ClientDirectory) (claim : OccupancyClaim) : OccupancyCheck := do
  let node ← okOr (clients.node claim.clientNodeId) unknownClientNode
  refuse (node.lockState = .locked) ⟨.clientLocked, "client node is locked"⟩
  refuse (node.presenceState ≠ .online)
    ⟨.presenceNotOnline, "client node presence is not online"⟩
  refuse (node.acceptingConnections = false)
    ⟨.notAcceptingConnections, "client node does not accept new occupancy"⟩
  fromSqlInteger node.maxConcurrentWorkerSessions "client worker session capacity"
  fromSqlInteger node.reportedRunningWorkerSessions "reported running worker sessions"
  refuse (node.maxConcurrentWorkerSessions < node.reportedRunningWorkerSessions + 1)
    ⟨.capacityExhausted, "client node has no free worker session slot"⟩
  let permissions ← okOr (clients.permissions claim.clientNodeId claim.holderUserId)
    ⟨.accessDenied, "holder has no active access grant on this client node"⟩
  refuse (permissions ∉ permissionTexts)
    ⟨.corruptState, "stored access grant permissions are invalid"⟩
  refuse (store.leases.rows.any fun row =>
      row.clientNodeId == claim.clientNodeId && row.state.isActive)
    ⟨.activeLeaseConflict, "client node already holds an active occupancy lease"⟩

def mintFencingToken : OccupancyResult (OccupancyStore × Nat) := do
  let current := store.lastIssuedToken.getD 0
  fromSqlInteger current "fencing token"
  refuse (maxSafeInteger ≤ current)
    ⟨.fencingTokenExhausted, "fencing token counter reached the safe integer ceiling"⟩
  return ({ store with lastIssuedToken := some (current + 1) }, current + 1)

def claimedLease (claim : OccupancyClaim) (token : Nat) (now : String) : OccupancyLeaseRecord where
  occupancyLeaseId := claim.occupancyLeaseId
  clientNodeId := claim.clientNodeId
  holderUserId := claim.holderUserId
  fencingToken := token
  claimRequestId := claim.claimRequestId
  claimedAt := some now
  createdAt := now
  state := .reserving
  acknowledgedAt := none
  lastRenewedAt := none
  idleExpiresAt := none
  recoveryDeadlineAt := none
  releaseReason := none
  revision := 1

def insertLease (lease : OccupancyLeaseRecord) : OccupancyResult OccupancyStore := do
  sqlInteger lease.fencingToken
  refuse (store.leases.rows.any (·.occupancyLeaseId == lease.occupancyLeaseId))
    ⟨.occupancyLeaseConflict, "occupancy lease id is already used"⟩
  let leases ← okOr (store.leases.insert lease)
    ⟨.activeLeaseConflict, "client node already holds an active occupancy lease"⟩
  return { store with leases := leases }

def atomicClaim (clients : ClientDirectory) (claim : OccupancyClaim)
    (now : String) : OccupancyAnswer := do
  validateInstant now "claim time"
  ensureClaimGate store clients claim
  let (minted, token) ← mintFencingToken store
  let inserted ← insertLease minted (claimedLease claim token now)
  let record ← okOr (inserted.leaseRow claim.occupancyLeaseId) leaseMissingAfterWrite
  return (inserted, record)

/-- States an `UPDATE` of the ledger may start from. -/
abbrev ActiveStates := { states : List OccupancyLeaseState // ∀ s ∈ states, s.isActive = true }

/-- `WHERE occupancy_lease_id = ? AND state IN (...)`, and `AND fencing_token = ?` where
a token is given. -/
def selects (states : ActiveStates) (token : Option Nat) (row : OccupancyLeaseRecord) : Bool :=
  row.occupancyLeaseId == lease && states.val.contains row.state &&
    token.all (· == row.fencingToken)

theorem selects_active {lease : String} {states : ActiveStates} {token : Option Nat}
    (row : OccupancyLeaseRecord) (hit : selects lease states token row) :
    row.state.isActive = true := by
  simp only [selects, Bool.and_eq_true, List.contains_iff_mem] at hit
  exact states.property _ hit.1.2

/-- One `UPDATE` of a lease and the number of rows it wrote. The column check on
`revision` fails the statement. -/
def executeUpdate (states : ActiveStates) (token : Option Nat) (change : LeaseChange) :
    OccupancyResult (OccupancyStore × Nat) := do
  let matched := store.leases.rows.filter (selects lease states token)
  refuse (matched.any fun row => maxSafeInteger < row.revision + 1) sqlError
  return ({ store with
    leases := store.leases.updateWhere (selects lease states token)
      (OccupancyLeaseRecord.advanced change)
      (OccupancyLeaseRecord.advanced_safe change selects_active) }, matched.length)

/-- The compare-and-swap of a transition: exactly one row must have been written. -/
def updateLease (states : ActiveStates) (token : Option Nat) (change : LeaseChange)
    (action : String) : OccupancyAnswer := do
  let (updated, count) ← executeUpdate store lease states token change
  refuse (count ≠ 1) (casLost action)
  let record ← requireOccupancyLease updated lease
  return (updated, record)

def reserving : ActiveStates := ⟨[.reserving], by decide⟩
def occupied : ActiveStates := ⟨[.occupied], by decide⟩
def draining : ActiveStates := ⟨[.draining], by decide⟩
def recoveryPending : ActiveStates := ⟨[.recoveryPending], by decide⟩
def occupiedOrDraining : ActiveStates := ⟨[.occupied, .draining], by decide⟩

def acknowledge (now : String) (idleExpiresAt : Option String) (row : OccupancyLeaseProgress) :
    OccupancyLeaseProgress :=
  { row with
    state := .occupied, acknowledgedAt := some now, lastRenewedAt := some now,
    idleExpiresAt := idleExpiresAt }

def release (reason : OccupancyReleaseReason) (row : OccupancyLeaseProgress) :
    OccupancyLeaseProgress :=
  { row with state := .released, releaseReason := some reason }

def drain (row : OccupancyLeaseProgress) : OccupancyLeaseProgress :=
  { row with state := .draining }

def suspend (deadline : String) (row : OccupancyLeaseProgress) : OccupancyLeaseProgress :=
  { row with state := .recoveryPending, recoveryDeadlineAt := some deadline }

def targetState : OccupancyReconcileTarget → OccupancyLeaseState
  | .resumeOccupied => .occupied
  | .resumeDraining => .draining

def resume (target : OccupancyReconcileTarget) (now : String) (idleExpiresAt : Option String)
    (row : OccupancyLeaseProgress) : OccupancyLeaseProgress :=
  { row with
    state := targetState target, lastRenewedAt := some now, idleExpiresAt := idleExpiresAt,
    recoveryDeadlineAt := none }

def expire (row : OccupancyLeaseProgress) : OccupancyLeaseProgress :=
  { row with state := .expired }

def releaseLease (states : ActiveStates) (token : Nat) (reason : OccupancyReleaseReason) :
    OccupancyAnswer := do
  sqlInteger token
  updateLease store lease states (some token) (release reason) "release"

def recordAcknowledgement (token : Nat) (idleExpiresAt : Option String) (now : String) :
    OccupancyAnswer := do
  validateOccupancyLeaseId lease
  validateFencingToken token
  validateOptionalInstant "idle expiry" idleExpiresAt
  validateInstant now "acknowledgement time"
  let record ← requireOccupancyLease store lease
  if record.state = .occupied then
    ensureFencingToken record token
    return (store, record)
  else
    refuse (record.state ≠ .reserving) (illegalTransition record "acknowledgement")
    ensureFencingToken record token
    sqlInteger token
    updateLease store lease reserving (some token) (acknowledge now idleExpiresAt)
      "acknowledgement"

def offerReasons : List OccupancyReleaseReason := [.ackTimeout, .clientRejected, .claimWithdrawn]

def rejectOffer (token : Nat) (reason : OccupancyReleaseReason) (now : String) :
    OccupancyAnswer := do
  validateOccupancyLeaseId lease
  validateFencingToken token
  validateInstant now "rejection time"
  refuse (reason ∉ offerReasons) ⟨.invalidInput,
    "only ack timeout, client rejection, or claim withdrawal can end a reserving lease"⟩
  let record ← requireOccupancyLease store lease
  if record.state = .released then
    ensureReplayReason record reason
    ensureFencingToken record token
    return (store, record)
  else
    refuse (record.state ≠ .reserving) (illegalTransition record "offer rejection")
    ensureFencingToken record token
    releaseLease store lease reserving token reason

/-- A release of an occupied lease waits in `draining` while sessions run. -/
def endOccupied (token sessions : Nat) : OccupancyAnswer :=
  if sessions = 0 then releaseLease store lease occupied token .holderReleased
  else do
    sqlInteger token
    updateLease store lease occupied (some token) drain "release request"

def requestRelease (token sessions : Nat) (now : String) : OccupancyAnswer := do
  validateOccupancyLeaseId lease
  validateFencingToken token
  validateInstant now "release request time"
  let record ← requireOccupancyLease store lease
  ensureFencingToken record token
  match record.state with
  | .released => do
    ensureReplayReason record .holderReleased
    return (store, record)
  | .draining => do
    refuse (sessions = 0) (illegalTransition record "release request")
    return (store, record)
  | .occupied => endOccupied store lease token sessions
  | _ => .error (illegalTransition record "release request")

def drainComplete : OccupancyAnswer := do
  validateOccupancyLeaseId lease
  let record ← requireOccupancyLease store lease
  if record.state = .released then
    ensureReplayReason record .drainCompleted
    return (store, record)
  else
    refuse (record.state ≠ .draining) (illegalTransition record "drain completion")
    updateLease store lease draining none (release .drainCompleted) "drain completion"

def upsertRecovery (row : OccupancyRecoveryRow) : OccupancyStore :=
  { store with
    recovery := (store.recovery.insertOrIgnore row).updateWhere
      (fun kept => kept.occupancyLeaseId == row.occupancyLeaseId)
      (fun kept => { kept with wasDraining := row.wasDraining, startedAt := row.startedAt })
      fun _ _ _ => ⟨id, id⟩ }

def markRecoveryPending (clients : ClientDirectory) (lease : String) (deadline now : String) :
    OccupancyAnswer := do
  validateOccupancyLeaseId lease
  validateInstant deadline "recovery deadline"
  validateInstant now "recovery start"
  let record ← requireOccupancyLease store lease
  if record.state = .recoveryPending then
    return (store, record)
  else
    refuse (record.state ≠ .occupied ∧ record.state ≠ .draining)
      (illegalTransition record "recovery marking")
    let node ← okOr (clients.node record.clientNodeId) unknownClientNode
    refuse (node.presenceState ≠ .offline) ⟨.presenceNotOnline,
      "occupancy recovery marking requires the client node presence to be offline"⟩
    updateLease (upsertRecovery store ⟨lease, record.state = .draining, now⟩) lease
      occupiedOrDraining none (suspend deadline) "recovery marking"

def reconcileResume (target : OccupancyReconcileTarget)
    (idleExpiresAt : Option String) (now : String) : OccupancyAnswer := do
  validateOccupancyLeaseId lease
  validateOptionalInstant "idle expiry" idleExpiresAt
  validateInstant now "reconciliation time"
  refuse (target = .resumeDraining ∧ idleExpiresAt ≠ none)
    ⟨.invalidInput, "draining leases do not carry an idle expiry"⟩
  let record ← requireOccupancyLease store lease
  if record.state = targetState target then
    return (store, record)
  else
    refuse (record.state ≠ .recoveryPending) (illegalTransition record "reconciliation resume")
    updateLease store lease recoveryPending none (resume target now idleExpiresAt)
      "reconciliation resume"

/-- A lease already waiting for recovery without a recovery row counts as drained. -/
def recoveryContext (now : String) : OccupancyResult (OccupancyStore × Option (Bool × String)) := do
  validateOccupancyLeaseId lease
  validateInstant now "recovery observation time"
  let waiting := store.leases.rows.any fun row =>
    row.occupancyLeaseId == lease && row.state == .recoveryPending
  let observed := if waiting then
    { store with recovery := store.recovery.insertOrIgnore ⟨lease, true, now⟩ } else store
  return (observed, (observed.recoveryRow lease).map fun row => (row.wasDraining, row.startedAt))

def forceRelease (now : String) : OccupancyAnswer := do
  validateOccupancyLeaseId lease
  validateInstant now "force release time"
  let record ← requireOccupancyLease store lease
  if record.state = .released then
    ensureReplayReason record .forceReleased
    return (store, record)
  else
    refuse (record.state ≠ .recoveryPending) (illegalTransition record "force release")
    let deadline ← okOr record.recoveryDeadlineAt
      ⟨.corruptState, "recovery pending lease is missing its recovery deadline"⟩
    refuse (now < deadline) ⟨.illegalStateTransition,
      "the recovery window is still open; safe cleanup must wait for the deadline"⟩
    releaseLease store lease recoveryPending record.fencingToken .forceReleased

def idleDue (cutoff : String) (row : OccupancyLeaseRecord) : Bool :=
  row.state == .occupied && row.idleExpiresAt.any (fun idle => !decide (cutoff < idle))

def expireCandidates (sessions : String → Nat) :
    List OccupancyLeaseRecord → OccupancyStore → List String →
      OccupancyResult (OccupancyStore × List String)
  | [], store, expired => .ok (store, expired)
  | candidate :: rest, store, expired =>
    if 0 < sessions candidate.clientNodeId then expireCandidates sessions rest store expired
    else do
      let (updated, count) ← executeUpdate store candidate.occupancyLeaseId occupied none expire
      expireCandidates sessions rest updated
        (if count = 1 then expired ++ [candidate.occupancyLeaseId] else expired)

def expireIdle (cutoff : String) (sessions : String → Nat) :
    OccupancyResult (OccupancyStore × List String) := do
  validateInstant cutoff "idle expiry cutoff"
  expireCandidates sessions (store.leases.rows.filter (idleDue cutoff)) store []

/-- At most one lease of a node is active, by the partial index. -/
def activeLeaseForNode (node : String) : OccupancyResult (Option OccupancyLeaseRecord) := do
  validateClientNodeId node
  match store.leases.rows.filter fun row => row.clientNodeId == node && row.state.isActive with
  | [] => return none
  | [row] => return store.leaseRow row.occupancyLeaseId
  | _ => .error ⟨.corruptState, "client node holds more than one active occupancy lease"⟩

end OccupancyLedger

end WinWinCode.Storage
