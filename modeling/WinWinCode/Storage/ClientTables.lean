import WinWinCode.Foundation.Tables
import WinWinCode.Foundation.Text

/-!
The device tables of the server's store: the node projection, the exchange
cursors, the settled uplink frames and commands, and the retained downlink
frames. Enumerations and flags are typed, so the parse errors of a corrupted
column have no counterpart. `Rest` stands for every table no operation below
reads or writes.
-/

namespace WinWinCode.Storage

open Tables

inductive ClientPresenceState where
  | pendingEnrollment
  | online
  | degraded
  | offline
  | locked
  | revoked
deriving DecidableEq

inductive ClientLockState where
  | unlocked
  | locked
deriving DecidableEq

structure ClientNodeRecord where
  (clientNodeId publicClientId displayName platform architecture clientVersion : String)
  currentInstanceId : Option String
  presenceState : ClientPresenceState
  acceptingConnections : Bool
  lockState : ClientLockState
  (maxConcurrentWorkerSessions reportedRunningWorkerSessions : Nat)
  lastHeartbeatAt : Option String
  createdAt : String
  revision : Nat

/-- Primary key `client_node_id`, unique `public_client_id`. -/
abbrev ClientNodeRecord.Clash (left right : ClientNodeRecord) : Prop :=
  left.clientNodeId = right.clientNodeId ∨ left.publicClientId = right.publicClientId

structure CursorRow where
  clientNodeId : String
  (clientToServerAckSequence serverToClientAckSequence : Nat)

abbrev CursorRow.Clash (left right : CursorRow) : Prop :=
  left.clientNodeId = right.clientNodeId

/-- `MAX(cursor, ?)` on both cursors. -/
def CursorRow.raised (up down : Nat) (row : CursorRow) : CursorRow :=
  { row with
    clientToServerAckSequence := max row.clientToServerAckSequence up
    serverToClientAckSequence := max row.serverToClientAckSequence down }

structure FrameRow where
  clientNodeId : String
  sequence : Nat
  (messageId payloadDigest : String)
  completed : Bool := false

/-- Primary key `(client_node_id, sequence)`, unique `(client_node_id, message_id)`. -/
abbrev FrameRow.Clash (left right : FrameRow) : Prop :=
  left.clientNodeId = right.clientNodeId ∧
    (left.sequence = right.sequence ∨ left.messageId = right.messageId)

def FrameRow.settled (row : FrameRow) : FrameRow := { row with completed := true }

structure CommandRow where
  (clientNodeId idempotencyKey payloadDigest : String)
  completed : Bool := false

abbrev CommandRow.Clash (left right : CommandRow) : Prop :=
  left.clientNodeId = right.clientNodeId ∧ left.idempotencyKey = right.idempotencyKey

def CommandRow.settled (row : CommandRow) : CommandRow := { row with completed := true }

structure ClientDownlinkFrame where
  clientNodeId : String
  sequence : Nat
  (messageId frame createdAt : String)

abbrev ClientDownlinkFrame.Clash (left right : ClientDownlinkFrame) : Prop :=
  left.clientNodeId = right.clientNodeId ∧ left.sequence = right.sequence

/-- The tables only the exchange operations of the registry write. -/
structure ExchangeTables where
  cursors : Table CursorRow CursorRow.Clash
  frames : Table FrameRow FrameRow.Clash
  commands : Table CommandRow CommandRow.Clash

/-- The tables a command effect may also write. -/
structure EffectTables (Rest : Type) where
  nodes : Table ClientNodeRecord ClientNodeRecord.Clash
  downlink : Table ClientDownlinkFrame ClientDownlinkFrame.Clash
  rest : Rest

structure ClientStore (Rest : Type) extends ExchangeTables, EffectTables Rest

section Lookup
variable {Rest : Type}

section
variable (tables : ExchangeTables) (node : String)

def ExchangeTables.cursorRow : Option CursorRow :=
  tables.cursors.find fun row => row.clientNodeId == node

def ExchangeTables.frameRow (sequence : Nat) : Option FrameRow :=
  tables.frames.find fun row => row.clientNodeId == node && row.sequence == sequence

def ExchangeTables.commandRow (node key : String) : Option CommandRow :=
  tables.commands.find fun row => row.clientNodeId == node && row.idempotencyKey == key

end

section
variable (tables : EffectTables Rest) (node : String)

def EffectTables.nodeRow : Option ClientNodeRecord :=
  tables.nodes.find fun row => row.clientNodeId == node

def EffectTables.downlinkRows : List ClientDownlinkFrame :=
  tables.downlink.rows.filter fun row => row.clientNodeId == node

/-- `COALESCE(MAX(sequence), 0)` over the retained downlink frames of a node. -/
def EffectTables.highestDownlink : Nat :=
  (tables.downlinkRows node).foldl (fun highest row => max highest row.sequence) 0

end

end Lookup

end WinWinCode.Storage
