import WinWinCode.Foundation.Counting
import WinWinCode.Storage.ClientRegistry

/-!
The server's downlink outbox, from `client_downlink.rs`. Frames of a node stay
until the node's acknowledgement passes them; the next position is recomputed
from what is retained and from the acknowledgement. Whether a text parses as
JSON is a parameter.
-/

namespace WinWinCode.Storage

open Counting Fallible Tables Text

inductive ClientDownlinkErrorKind where
  | invalidInput
  | unknownClientNode
  | corruptState
  | storage

structure ClientDownlinkError where
  kind : ClientDownlinkErrorKind
  message : String

abbrev DownlinkResult := Except ClientDownlinkError

namespace ClientDownlink

def maxIdBytes : Nat := 96
def maxFrameBytes : Nat := 262144

def sqlError : ClientDownlinkError := ⟨.storage, "client downlink outbox storage operation failed"⟩

def validateClientNodeId (value : String) : DownlinkResult Unit :=
  refuse (isCanonicalId "cnd_" value = false)
    ⟨.invalidInput, "client node id is not canonical"⟩

def sqlInteger (value : Nat) : DownlinkResult Unit :=
  refuse (ClientRegistry.sqlIntegerMax < value)
    ⟨.invalidInput, "numeric value exceeds the SQLite integer range"⟩

def fromSqlInteger (value : Nat) (label : String) : DownlinkResult Unit :=
  refuse (maxSafeInteger < value)
    ⟨.corruptState, "stored " ++ label ++ " exceeds the safe integer range"⟩

def tryNew (isJson : String → Bool) (append : ClientDownlinkAppend) :
    DownlinkResult ClientDownlinkAppend := do
  validateClientNodeId append.clientNodeId
  refuse (append.messageId = "" ∨ maxIdBytes < append.messageId.utf8ByteSize)
    ⟨.invalidInput, "downlink message id must contain 1 to 96 bytes"⟩
  refuse (append.sequence = 0 ∨ maxSafeInteger < append.sequence)
    ⟨.invalidInput, "downlink sequence must be between 1 and the safe integer range"⟩
  refuse (append.frame = "" ∨ maxFrameBytes < append.frame.utf8ByteSize)
    ⟨.invalidInput, "downlink frame must contain 1 to 262144 bytes"⟩
  refuse (isJson append.frame = false) ⟨.invalidInput, "downlink frame is not canonical JSON"⟩
  return append

section Outbox
variable {Rest : Type} (store : ClientStore Rest) (node : String)

/-- A node without a cursor row counts as having acknowledged nothing. -/
def serverToClientAck : DownlinkResult Nat := do
  let stored := ((store.cursorRow node).map (·.serverToClientAckSequence)).getD 0
  fromSqlInteger stored "server-to-client ack sequence"
  return stored

def highestSequence : DownlinkResult Nat := do
  fromSqlInteger (store.highestDownlink node) "downlink frame sequence"
  return store.highestDownlink node

def highWater : DownlinkResult Nat := do
  validateClientNodeId node
  highestSequence store node

def nextSequenceInTransaction : DownlinkResult Nat := do
  let cursor ← serverToClientAck store node
  let highest ← highestSequence store node
  okOr ((checkedAdd (max cursor highest) 1).filter (· ≤ maxSafeInteger))
    ⟨.invalidInput, "downlink sequence exhausted"⟩

def appendLaunchInTransaction (append : ClientDownlinkAppend)
    (now : String) : DownlinkResult (ClientStore Rest × ClientDownlinkFrame) := do
  validateClientNodeId append.clientNodeId
  refuse (isCanonicalInstant now = false) ⟨.invalidInput, "downlink instant is not canonical"⟩
  refuse (store.nodeRow append.clientNodeId = none)
    ⟨.unknownClientNode, "client node does not exist"⟩
  let next ← nextSequenceInTransaction store append.clientNodeId
  refuse (append.sequence ≠ next)
    ⟨.invalidInput, "downlink sequence is not the next stream position"⟩
  sqlInteger append.sequence
  refuse (append.frame = "" ∨ 262144 < append.frame.length) sqlError
  let stored : ClientDownlinkFrame :=
    ⟨append.clientNodeId, append.sequence, append.messageId, append.frame, now⟩
  let downlink ← okOr (store.downlink.insert stored) sqlError
  return ({ store with downlink := downlink }, stored)

/-- `ORDER BY sequence LIMIT limit` over the frames above a position. -/
def deliverable (afterSequence limit : Nat) : DownlinkResult (List ClientDownlinkFrame) := do
  validateClientNodeId node
  if limit = 0 then return [] else
    sqlInteger afterSequence
    return (((store.downlinkRows node).filter fun row => afterSequence < row.sequence).insertionSort
      fun left right => left.sequence ≤ right.sequence).take limit

def retainThrough (ackSequence : Nat) : DownlinkResult (ClientStore Rest × Nat) := do
  validateClientNodeId node
  sqlInteger ackSequence
  let downlink := store.downlink.deleteWhere fun row =>
    row.clientNodeId == node && row.sequence ≤ ackSequence
  return ({ store with downlink := downlink },
    store.downlink.rows.length - downlink.rows.length)

end Outbox

end ClientDownlink

end WinWinCode.Storage
