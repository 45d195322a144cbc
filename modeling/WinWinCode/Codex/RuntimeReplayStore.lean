import WinWinCode.ExecutionPort.Replay
import WinWinCode.Foundation.Tables

/-!
The replay tables of the Codex adapter store: a head row with the watermarks of a
stream, its frames under a primary key and a unique event id, and the snapshot row
that older binaries wrote. The first use of a stream moves its old snapshot into
the indexed tables within the transaction that needs it. A read answers a query
from the head row and the selected frames, or decodes and validates the whole
stream. A column of the tables is a signed 64-bit integer.
-/

namespace WinWinCode.Codex

open Fallible Counting Programs Tables ExecutionPort

inductive AdapterStoreError where
  | unavailable
  | corrupt
  | conflict
deriving DecidableEq

abbrev AdapterResult := Except AdapterStoreError

/-- The row of an older binary; its bytes may not decode to a snapshot. -/
structure RuntimeReplayRow where
  streamKey : ReplayStreamKey
  snapshot : Option ReplaySnapshot

structure RuntimeReplayHeadRow where
  streamKey : ReplayStreamKey
  (ackSequence highestSequence : Nat)

structure RuntimeReplayFrameRow where
  streamKey : ReplayStreamKey
  sequence : Nat
  (eventId digest : String)
  frame : List UInt8

structure LegacyCompactionRow where
  streamKey : ReplayStreamKey
  compactedThrough : Nat

/-- `PRIMARY KEY(stream_key, sequence), UNIQUE(stream_key, event_id)`. -/
abbrev FrameClash (left right : RuntimeReplayFrameRow) : Prop :=
  left.streamKey = right.streamKey ∧
    (left.sequence = right.sequence ∨ left.eventId = right.eventId)

abbrev LegacyClash (left right : RuntimeReplayRow) : Prop := left.streamKey = right.streamKey

abbrev HeadClash (left right : RuntimeReplayHeadRow) : Prop := left.streamKey = right.streamKey

abbrev CompactionClash (left right : LegacyCompactionRow) : Prop :=
  left.streamKey = right.streamKey

structure ReplayTables where
  runtimeReplay : Table RuntimeReplayRow LegacyClash
  head : Table RuntimeReplayHeadRow HeadClash
  frames : Table RuntimeReplayFrameRow FrameClash
  compaction : Table LegacyCompactionRow CompactionClash

def integerMax : Nat := 9223372036854775807

def replayInteger (value : Nat) : AdapterResult Nat := do
  refuse (integerMax < value) .corrupt
  pure value

namespace ReplayTables

section
variable (tables : ReplayTables) (stream : ReplayStreamKey)

def headOf : Option RuntimeReplayHeadRow :=
  tables.head.find (·.streamKey == stream)

def framesOf : List RuntimeReplayFrameRow :=
  tables.frames.rows.filter (·.streamKey == stream)

def compactedThrough (tables : ReplayTables) (stream : ReplayStreamKey) : Option Nat :=
  (tables.compaction.find (·.streamKey == stream)).map (·.compactedThrough)

def insertRuntimeFrame (frame : ReplayFrame) : AdapterResult ReplayTables := do
  refuse (frame.sequence = 0 ∨ frame.eventId = "" ∨ frame.digest = "") .corrupt
  let sequence ← replayInteger frame.sequence
  let frames ← okOr
    (tables.frames.insert ⟨stream, sequence, frame.eventId, frame.digest, frame.frame⟩) .conflict
  pure { tables with frames := frames }

/-- `INSERT INTO runtime_replay_head`, with the row's `CHECK`. -/
def insertHead (ack highest : Nat) : AdapterResult ReplayTables := do
  refuse (highest < ack) .unavailable
  let head ← okOr (tables.head.insert ⟨stream, ack, highest⟩) .unavailable
  pure { tables with head := head }

def deleteLegacy : ReplayTables :=
  { tables with runtimeReplay := tables.runtimeReplay.deleteWhere (·.streamKey == stream) }

def migrate (snapshot : ReplaySnapshot) : AdapterResult ReplayTables := do
  let ack ← replayInteger snapshot.ackSequence
  let highest ← replayInteger snapshot.highestSequence
  let headed ← tables.insertHead stream ack highest
  let framed ← snapshot.events.foldlM (fun tables frame => tables.insertRuntimeFrame stream frame)
    headed
  if snapshot.events = [] ∧ 0 < snapshot.highestSequence then do
    let compacted ← replayInteger snapshot.highestSequence
    let compaction ← okOr (framed.compaction.insert ⟨stream, compacted⟩) .unavailable
    pure (deleteLegacy { framed with compaction := compaction } stream)
  else
    pure (framed.deleteLegacy stream)

/-- Whether the stream exists, with its old snapshot moved if that was still to do. -/
def ensureRuntimeReplay : AdapterResult (ReplayTables × Bool) :=
  match tables.headOf stream with
  | some _ => pure (tables, true)
  | none =>
    match tables.runtimeReplay.find (·.streamKey == stream) with
    | none => pure (tables, false)
    | some old => do
      let snapshot ← okOr old.snapshot .corrupt
      (snapshot.validate).mapError fun _ => .corrupt
      let migrated ← tables.migrate stream snapshot
      pure (migrated, true)

/-- `ORDER BY sequence DESC LIMIT 1` over the frames of a stream. -/
def tailOf : Option RuntimeReplayFrameRow :=
  ((tables.framesOf stream).insertionSort fun left right => right.sequence ≤ left.sequence).head?

def readRuntimeHead : AdapterResult ReplaySnapshot :=
  match tables.headOf stream with
  | none => pure {}
  | some head => do
    refuse (head.highestSequence < head.ackSequence) .corrupt
    match tables.tailOf stream with
    | some tail =>
      refuse (tail.sequence = 0 ∨ tail.sequence ≠ head.highestSequence ∨ tail.eventId = "" ∨
        tail.digest = "") .corrupt
    | none =>
      refuse (head.ackSequence ≠ head.highestSequence ∨ (0 < head.highestSequence ∧
        tables.compactedThrough stream ≠ some head.highestSequence)) .corrupt
    pure ⟨head.ackSequence, head.highestSequence, []⟩

/-- The rows a query selects, `ORDER BY sequence LIMIT limit`. -/
def selectedRows : ReplayReadQuery → AdapterResult (List RuntimeReplayFrameRow)
  | .watermarks => pure []
  | .conflict eventId sequence => do
    let sequence ← replayInteger sequence
    let named := (tables.framesOf stream).filter (·.eventId == eventId)
    let numbered := (tables.framesOf stream).filter fun row =>
      row.sequence == sequence && row.eventId != eventId
    pure (((named ++ numbered).insertionSort fun left right =>
      left.sequence ≤ right.sequence).take 2)
  | .after sequence maxEvents => do
    let sequence ← replayInteger sequence
    let later := (tables.framesOf stream).filter fun row => decide (sequence < row.sequence)
    pure ((later.insertionSort fun left right => left.sequence ≤ right.sequence).take
      (min maxEvents integerMax))

end

def decodeRow (highestSequence : Nat) (row : RuntimeReplayFrameRow) :
    AdapterResult ReplayFrame := do
  refuse (row.sequence = 0 ∨ row.eventId = "" ∨ row.digest = "" ∨ highestSequence < row.sequence)
    .corrupt
  pure ⟨row.eventId, row.sequence, row.digest, row.frame⟩

/-- The loop over the frames after a cursor: each carries the expected number. -/
def checkContiguous : List ReplayFrame → Nat → AdapterResult Unit
  | [], _ => pure ()
  | frame :: rest, expected => do
    refuse (frame.sequence ≠ expected) .corrupt
    let next ← okOr (checkedAdd expected 1) .corrupt
    checkContiguous rest next

def checkAfter (sequence : Nat) (snapshot : ReplaySnapshot) : AdapterResult Unit := do
  let expected := match snapshot.events.head? with
    | some frame => frame.sequence
    | none => saturatingAdd sequence 1
  refuse (saturatingAdd sequence 1 < expected ∧ saturatingAdd snapshot.ackSequence 1 < expected)
    .corrupt
  checkContiguous snapshot.events expected
  refuse (sequence < snapshot.highestSequence ∧ snapshot.events = [] ∧
    snapshot.ackSequence < snapshot.highestSequence) .corrupt

def checkSelected (query : ReplayReadQuery) (snapshot : ReplaySnapshot) : AdapterResult Unit :=
  match query with
  | .after sequence _ => checkAfter sequence snapshot
  | .watermarks | .conflict _ _ => pure ()

def readRuntimeFrames (tables : ReplayTables) (stream : ReplayStreamKey) (query : ReplayReadQuery) :
    AdapterResult (ReplayTables × ReplaySnapshot) := do
  let (tables, _) ← tables.ensureRuntimeReplay stream
  let head ← tables.readRuntimeHead stream
  let rows ← tables.selectedRows stream query
  let events ← rows.mapM (decodeRow head.highestSequence)
  let snapshot := { head with events := events }
  checkSelected query snapshot
  pure (tables, snapshot)

def usizeMax : Nat := 18446744073709551615

variable (stream : ReplayStreamKey)

def load (tables : ReplayTables) : AdapterResult (ReplayTables × Option ReplaySnapshot) := do
  let (tables, present) ← tables.ensureRuntimeReplay stream
  if present then do
    let (tables, snapshot) ← tables.readRuntimeFrames stream (.after 0 usizeMax)
    (snapshot.validate).mapError fun _ => .corrupt
    pure (tables, some snapshot)
  else
    pure (tables, none)

def loadIndexed (query : ReplayReadQuery) (tables : ReplayTables) :
    AdapterResult (ReplayTables × Option ReplaySnapshot) := do
  let (tables, snapshot) ← tables.readRuntimeFrames stream query
  pure (tables, some snapshot)

/-- `UPDATE runtime_replay_head SET ... WHERE stream_key`, for the columns beside the key. -/
def updateHead (tables : ReplayTables) (stream : ReplayStreamKey)
    (ack highest : RuntimeReplayHeadRow → Nat) : ReplayTables :=
  let head := tables.head.updateWhere (·.streamKey == stream)
    (fun row => ⟨row.streamKey, ack row, highest row⟩) (fun _ _ _ => ⟨id, id⟩)
  { tables with head := head }

def ensureHead (tables : ReplayTables) (stream : ReplayStreamKey) (present : Bool) :
    AdapterResult ReplayTables :=
  if present then pure tables else tables.insertHead stream 0 0

def append (expectedHighestSequence : Nat) (frame : ReplayFrame)
    (tables : ReplayTables) : AdapterResult (ReplayTables × Unit) := do
  let (tables, present) ← tables.ensureRuntimeReplay stream
  let tables ← tables.ensureHead stream present
  let snapshot ← tables.readRuntimeHead stream
  refuse (snapshot.highestSequence ≠ expectedHighestSequence ∨
    some frame.sequence ≠ checkedAdd expectedHighestSequence 1) .conflict
  let tables ← tables.insertRuntimeFrame stream frame
  let highest ← replayInteger frame.sequence
  pure (tables.updateHead stream (·.ackSequence) (fun _ => highest), ())

def recordAcknowledgement (expectedAckSequence ackSequence : Nat)
    (tables : ReplayTables) : AdapterResult (ReplayTables × Unit) := do
  let (tables, _) ← tables.ensureRuntimeReplay stream
  let snapshot ← tables.readRuntimeHead stream
  refuse (snapshot.ackSequence ≠ expectedAckSequence ∨ ackSequence < expectedAckSequence ∨
    snapshot.highestSequence < ackSequence) .conflict
  let ack ← replayInteger ackSequence
  pure (tables.updateHead stream (fun _ => ack) (·.highestSequence), ())

end ReplayTables

/-- `AdapterStore::transaction`: a failure rolls back. -/
def transaction {Answer : Type} (operation : ReplayTables → AdapterResult (ReplayTables × Answer)) :
    Program ReplayTables AdapterStoreError Answer :=
  fun tables => commit tables (operation tables)

def adapterStore : ReplayStore ReplayTables AdapterStoreError where
  load stream := transaction (ReplayTables.load stream)
  loadIndexed stream query := transaction (ReplayTables.loadIndexed stream query)
  append stream expectedHighestSequence frame :=
    transaction (ReplayTables.append stream expectedHighestSequence frame)
  recordAcknowledgement stream expectedAckSequence ackSequence :=
    transaction (ReplayTables.recordAcknowledgement stream expectedAckSequence ackSequence)

/-- The tables as the current binary finds them: old snapshots, nothing indexed yet. -/
def ReplayTables.opened (runtimeReplay : Table RuntimeReplayRow LegacyClash) : ReplayTables :=
  ⟨runtimeReplay, Table.empty, Table.empty, Table.empty⟩

end WinWinCode.Codex
