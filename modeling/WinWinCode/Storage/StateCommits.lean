import WinWinCode.Foundation.Counting
import WinWinCode.Foundation.Tables
import WinWinCode.Storage.PublicEvents

/-!
State commits of the control plane, from `lib.rs` of the storage crate. One commit
writes the primary stream, secondary streams, a journal record, its receipt, an
audit event and outbox events in one transaction. A request is identified by
actor, scope and request id, and a later commit of the same identity is answered
from the receipt. JSON columns hold the value they encode; flags that no commit
reads (`published`, `persisted`) are left out.
-/

namespace WinWinCode.Storage

open Fallible Tables Text Counting

namespace StorageError

def stateRevisionGuardConflict (streamId : String) (expected actual : Nat) : StorageError :=
  ⟨.revisionConflict,
    "state revision guard " ++ streamId ++ " expected revision " ++ toString expected ++
      ", but current revision is " ++ toString actual, true⟩

def stateMutationRevisionConflict (streamId : String) (expected actual : Nat) : StorageError :=
  ⟨.revisionConflict,
    "state mutation " ++ streamId ++ " expected revision " ++ toString expected ++
      ", but current revision is " ++ toString actual, false⟩

end StorageError

structure ReceiptIdentity where
  actorKey : ReceiptActorKey
  scopeKey : ReceiptScopeKey
  requestId : String
  named : requestId ≠ ""
deriving DecidableEq

structure AggregateJournalKey where
  (aggregateType aggregateId : String)
  complete : aggregateType ≠ "" ∧ aggregateId ≠ ""
deriving DecidableEq

namespace StorageError

def journalAlreadyExists (key : AggregateJournalKey) : StorageError :=
  ⟨.journalAlreadyExists, key.aggregateType ++ " aggregate journal " ++ key.aggregateId ++
    " already exists", false⟩

def journalNotFound (key : AggregateJournalKey) : StorageError :=
  ⟨.journalNotFound, key.aggregateType ++ " aggregate journal " ++ key.aggregateId ++
    " does not exist", false⟩

def journalConflict (key : AggregateJournalKey) : StorageError :=
  ⟨.journalConflict, key.aggregateType ++ " aggregate journal " ++ key.aggregateId ++
    " tail changed", false⟩

end StorageError

structure AggregateJournalRecord where
  sequence : Nat
  digest : String
  payload : List UInt8

inductive AggregateJournalPublication where
  | create (key : AggregateJournalKey) (manifest : List UInt8)
      (firstRecord : AggregateJournalRecord)
  | append (key : AggregateJournalKey) (expectedTailSequence : Nat)
      (expectedTailDigest : String) (record : AggregateJournalRecord)

structure PendingAuditEvent where
  eventId : String
  payload : List UInt8
deriving DecidableEq

structure StateRevisionGuard where
  streamId : String
  expectedRevision : Nat

structure StateMutation where
  streamId : String
  expectedRevision : Nat
  state : List UInt8

structure ImmutableStateImport where
  sourceDigest : String
  rows : List StateMutation

structure NewOutboxEvent where
  (eventId topic : String)
  payload : List UInt8
  projectionStream : Option ProjectionEventStream
  publicContext : Option PublicProjectionEventContext

structure StateCommit where
  receiptIdentity : ReceiptIdentity
  (commandDigest streamId : String)
  expectedRevision : Nat
  state : List UInt8
  events : List NewOutboxEvent
  stateGuards : List StateRevisionGuard
  stateMutations : List StateMutation
  immutableStateImport : Option ImmutableStateImport
  journalPublication : Option AggregateJournalPublication
  pendingAuditEvent : Option PendingAuditEvent
  receiptReplayRequired : Bool

structure ProjectionEventStreamKey where
  scopeKey : ReceiptScopeKey
  stream : ProjectionEventStream

structure ProjectionEventCursor where
  key : ProjectionEventStreamKey
  sequence : Nat
  eventId : Option String

structure OutboxEvent where
  sequence : Nat
  (eventId topic : String)
  payload : List UInt8
  projectionCursor : Option ProjectionEventCursor
  publicContext : Option PublicProjectionEventContext

structure CommitReceipt where
  receiptIdentity : ReceiptIdentity
  (commandDigest streamId : String)
  revision : Nat
  events : List OutboxEvent
  idempotentReplay : Bool

/-! Validation. -/

def validateSha256Digest (digest : String) : StorageCheck := do
  let hex ← okOr (stripPrefix "sha256:" digest)
    (.invalidInput "command_digest must be a sha256 digest")
  refuse (hex.length ≠ 64 ∨ hex.all isLowerHex = false)
    (.invalidInput "command_digest must contain 64 lowercase hexadecimal digits")

def validateJournalRecord (record : AggregateJournalRecord) : StorageCheck := do
  refuse (record.sequence = 0 ∨ sqliteMax < record.sequence)
    (.invalidInput "aggregate journal sequence is outside the SQLite range")
  refuse (record.digest = "" ∨ record.payload = [])
    (.invalidInput "aggregate journal digest and payload must not be empty")

def AggregateJournalPublication.validate : AggregateJournalPublication → StorageCheck
  | .create _ manifest firstRecord => do
    refuse (manifest = []) (.invalidInput "aggregate journal manifest must not be empty")
    validateJournalRecord firstRecord
    refuse (firstRecord.sequence ≠ 1)
      (.invalidInput "aggregate journal first record sequence must be 1")
  | .append _ expectedTailSequence expectedTailDigest record => do
    validateJournalRecord record
    refuse (expectedTailSequence = 0 ∨ expectedTailDigest = "")
      (.invalidInput "aggregate journal expected tail must be complete")
    refuse (record.sequence ≠ saturatingAdd expectedTailSequence 1)
      (.invalidInput "aggregate journal append sequence must follow the expected tail")

def PendingAuditEvent.validate (event : PendingAuditEvent) : StorageCheck := do
  refuse (event.eventId = "") (.invalidInput "pending audit event_id must not be empty")
  refuse (event.payload = []) (.invalidInput "pending audit event payload must not be empty")

def StateMutation.validate (mutation : StateMutation) : StorageCheck := do
  refuse (mutation.streamId = "") (.invalidInput "state mutation stream_id must not be empty")
  refuse (sqliteMax ≤ mutation.expectedRevision)
    (.invalidInput "state mutation next revision exceeds the SQLite integer range")

def maxStateMutationsPerCommit : Nat := 16
def maxStateMutationPayloadBytes : Nat := 16 * 1024 * 1024
def maxStateMutationBytesPerCommit : Nat := 16 * 1024 * 1024
def maxImmutableStateImportRows : Nat := 65536
def maxImmutableStateImportBytes : Nat := 64 * 1024 * 1024

/-- One row of an import, after `bytes` bytes of earlier rows. -/
def checkImportRow (bytes : Nat) (row : StateMutation) : StorageResult Nat := do
  row.validate
  refuse (row.expectedRevision ≠ 0 ∨ maxStateMutationPayloadBytes < row.state.length)
    (.invalidInput "immutable state import rows must be bounded inserts")
  okOr (checkedAdd bytes row.state.length)
    (.invalidInput "immutable state import payload size overflow")

def ImmutableStateImport.validate (source : ImmutableStateImport) : StorageCheck := do
  validateSha256Digest source.sourceDigest
  refuse (source.rows = [] ∨ maxImmutableStateImportRows < source.rows.length)
    (.invalidInput "immutable state import exceeds its row limit")
  let bytes ← source.rows.foldlM checkImportRow 0
  refuse (maxImmutableStateImportBytes < bytes)
    (.invalidInput "immutable state import exceeds its payload limit")

namespace StateCommit

variable (commit : StateCommit)

def allStateMutations : List StateMutation :=
  commit.stateMutations ++ commit.immutableStateImport.elim [] (·.rows)

/-- One revision guard; `seen` holds the streams guarded before it. -/
def checkGuard (primary : String) (seen : List String) (guarded : StateRevisionGuard) :
    StorageResult (List String) := do
  refuse (guarded.streamId = "")
    (.invalidInput "state revision guard stream_id must not be empty")
  refuse (sqliteMax < guarded.expectedRevision) (.invalidInput
    "state revision guard expected_revision exceeds the SQLite integer range")
  refuse (guarded.streamId = primary)
    (.invalidInput "state revision guard must not target the primary stream")
  refuse (guarded.streamId ∈ seen)
    (.invalidInput "state revision guard stream ids must be unique")
  return guarded.streamId :: seen

/-- One secondary write; `seen` holds the streams written before it. -/
def checkMutation (primary : String) (guarded seen : List String) (mutation : StateMutation) :
    StorageResult (List String) := do
  mutation.validate
  refuse (mutation.streamId = primary)
    (.invalidInput "state mutation must not target the primary stream")
  refuse (mutation.streamId ∈ guarded)
    (.invalidInput "state mutation must not target a guarded stream")
  refuse (mutation.streamId ∈ seen) (.invalidInput "state mutation stream ids must be unique")
  refuse (maxStateMutationPayloadBytes < mutation.state.length)
    (.invalidInput "a state mutation payload must contain at most 16777216 bytes")
  return mutation.streamId :: seen

def validateImport : StorageCheck :=
  match commit.immutableStateImport with
  | none => .ok ()
  | some source => do
    source.validate
    refuse (commit.expectedRevision = 0)
      (.invalidInput "immutable state import requires an existing primary snapshot")

def addMutationBytes (bytes : Nat) (mutation : StateMutation) : StorageResult Nat :=
  okOr (checkedAdd bytes mutation.state.length)
    (.invalidInput "state mutation payload size overflow")

def validateSecondaryStates : StorageCheck := do
  let guarded ← commit.stateGuards.foldlM (checkGuard commit.streamId) []
  refuse (maxStateMutationsPerCommit < commit.stateMutations.length)
    (.invalidInput "a state commit must contain at most 16 secondary mutations")
  commit.validateImport
  let _ ← commit.allStateMutations.foldlM (checkMutation commit.streamId guarded) []
  let bytes ← commit.stateMutations.foldlM addMutationBytes 0
  refuse (maxStateMutationBytesPerCommit < bytes) (.invalidInput
    "secondary state mutation payloads must total at most 16777216 bytes")

section
variable (identity : ReceiptIdentity) (event : NewOutboxEvent)

/-- The source of a control-plane event is the actor of the receipt. -/
def checkSourceActor (mismatch : StorageError) : PublicEventSource → StorageCheck
  | .controlPlane actor _ => do
    let key ← receiptActorKey actor
    refuse (key ≠ identity.actorKey) mismatch
  | _ => .ok ()

def checkProjection (stream : ProjectionEventStream) : StorageCheck := do
  stream.validate
  refuse (isControlPlaneEventId event.eventId = false)
    (.invalidInput "projection event_id must be a canonical ControlPlaneEventId")
  let context ← okOr event.publicContext
    (.invalidInput "public projection event context is required")
  refuse (stream ≠ context.stream)
    (.invalidInput "public event context stream differs from its projection stream")
  validatePublicEventTime context.occurredAt
  validatePublicSource context.source
  validatePublicStreamSource stream context.source
  let scopeKey ← receiptScopeKey context.scope
  refuse (scopeKey ≠ identity.scopeKey)
    (.invalidInput "public event scope differs from its receipt scope")
  checkSourceActor identity
    (.invalidInput "public Control Plane source actor differs from its receipt actor")
    context.source

def checkEventContext : StorageCheck :=
  match event.projectionStream with
  | some stream => checkProjection identity event stream
  | none => refuse (event.publicContext ≠ none)
      (.invalidInput "internal outbox event must not carry public context")

/-- One event; `seen` holds the ids of the events before it. -/
def checkEvent (seen : List String) (event : NewOutboxEvent) : StorageResult (List String) := do
  refuse (event.eventId = "") (.invalidInput "event_id must not be empty")
  refuse (event.topic = "") (.invalidInput "event topic must not be empty")
  refuse (event.eventId ∈ seen) (.invalidInput "event ids must be unique inside one commit")
  checkEventContext identity event
  return event.eventId :: seen

end

def validateEvents : StorageCheck := do
  let _ ← commit.events.foldlM (checkEvent commit.receiptIdentity) []

def validateJournal : StorageCheck :=
  match commit.journalPublication with
  | some publication => publication.validate
  | none => .ok ()

def validateAudit : StorageCheck :=
  match commit.pendingAuditEvent with
  | some event => event.validate
  | none => .ok ()

def validate : StorageCheck := do
  validateSha256Digest commit.commandDigest
  refuse (commit.streamId = "") (.invalidInput "stream_id must not be empty")
  refuse (commit.events = [])
    (.invalidInput "a state commit must contain at least one outbox event")
  refuse (sqliteMax < commit.expectedRevision)
    (.invalidInput "expected_revision exceeds the SQLite integer range")
  commit.validateSecondaryStates
  commit.validateJournal
  commit.validateAudit
  commit.validateEvents

end StateCommit

/-! The tables. -/

structure ProductStateRow where
  streamId : String
  revision : Nat
  payload : List UInt8

abbrev ProductStateRow.Clash (left right : ProductStateRow) : Prop := left.streamId = right.streamId

structure CommandReceiptRow where
  identity : ReceiptIdentity
  (commandDigest streamId : String)
  revision : Nat

abbrev CommandReceiptRow.Clash (left right : CommandReceiptRow) : Prop :=
  left.identity = right.identity

structure AuditOutboxRow where
  identity : ReceiptIdentity
  event : PendingAuditEvent

/-- The primary key is the identity, and the event id is unique. -/
abbrev AuditOutboxRow.Clash (left right : AuditOutboxRow) : Prop :=
  left.identity = right.identity ∨ left.event.eventId = right.event.eventId

structure OutboxRow where
  sequence : Nat
  eventId : String
  identity : ReceiptIdentity
  topic : String
  payload : List UInt8
  streamKind : Option ProjectionStreamKind
  resourceId : Option String
  streamSequence : Option Nat
  publicScope : Option PublicEventScope
  publicStream : Option ProjectionEventStream
  publicOccurredAt : Option String
  publicSource : Option PublicEventSource

/-- A projection stream of a scope, by its columns. -/
structure StreamColumns where
  scopeKey : ReceiptScopeKey
  kind : ProjectionStreamKind
  resourceId : String
deriving DecidableEq

def OutboxRow.stream (row : OutboxRow) : Option StreamColumns :=
  match row.streamKind, row.resourceId with
  | some kind, some resourceId => some ⟨row.identity.scopeKey, kind, resourceId⟩
  | _, _ => none

/-- The primary key is the sequence, the event id is unique, and so is the position in a
projection stream. -/
abbrev OutboxRow.Clash (left right : OutboxRow) : Prop :=
  left.sequence = right.sequence ∨ left.eventId = right.eventId ∨
    (left.stream.isSome ∧ left.stream = right.stream ∧ left.streamSequence.isSome ∧
      left.streamSequence = right.streamSequence)

structure StreamHeadRow where
  stream : StreamColumns
  sequence : Nat
  eventId : String

abbrev StreamHeadRow.Clash (left right : StreamHeadRow) : Prop := left.stream = right.stream

/-- The outbox, its stream heads, and the highest sequence ever given to an outbox row. -/
structure OutboxTables where
  rows : Table OutboxRow OutboxRow.Clash
  heads : Table StreamHeadRow StreamHeadRow.Clash
  lastSequence : Nat

structure AggregateJournalRow where
  key : AggregateJournalKey
  manifest : List UInt8

abbrev AggregateJournalRow.Clash (left right : AggregateJournalRow) : Prop := left.key = right.key

structure AggregateJournalRecordRow where
  key : AggregateJournalKey
  record : AggregateJournalRecord

abbrev AggregateJournalRecordRow.Clash (left right : AggregateJournalRecordRow) : Prop :=
  left.key = right.key ∧ left.record.sequence = right.record.sequence

structure JournalTables where
  journals : Table AggregateJournalRow AggregateJournalRow.Clash
  records : Table AggregateJournalRecordRow AggregateJournalRecordRow.Clash

abbrev StateTable := Table ProductStateRow ProductStateRow.Clash
abbrev ReceiptTable := Table CommandReceiptRow CommandReceiptRow.Clash
abbrev AuditTable := Table AuditOutboxRow AuditOutboxRow.Clash

structure CommitStore where
  state : StateTable
  receipts : ReceiptTable
  audit : AuditTable
  outbox : OutboxTables
  journal : JournalTables

def CommitStore.empty : CommitStore :=
  ⟨.empty, .empty, .empty, ⟨.empty, .empty, 0⟩, ⟨.empty, .empty⟩⟩

namespace StateCommits

def sqlError : StorageError := .adapter "SQLite operation failed: UNIQUE constraint failed"

def sqliteFull : StorageError := .adapter "SQLite operation failed: database or disk is full"

/-! Stored values. -/

def storedStateRevision (state : StateTable) (streamId : String) : Nat :=
  ((state.find fun row => row.streamId == streamId).map (·.revision)).getD 0

def priorReceipt (receipts : ReceiptTable) (identity : ReceiptIdentity) :
    Option CommandReceiptRow :=
  receipts.find fun row => row.identity == identity

def loadPendingAuditEvent (audit : AuditTable) (identity : ReceiptIdentity) :
    StorageResult (Option PendingAuditEvent) :=
  match audit.find fun row => row.identity == identity with
  | none => .ok none
  | some row => do
    row.event.validate
    return some row.event

def newStreamKey (scopeKey : ReceiptScopeKey) (stream : ProjectionEventStream) :
    StorageResult ProjectionEventStreamKey := do
  stream.validate
  return ⟨scopeKey, stream⟩

def newCursor (key : ProjectionEventStreamKey) (sequence : Nat) (eventId : Option String) :
    StorageResult ProjectionEventCursor := do
  refuse (maxSafeInteger < sequence ∨ (sequence = 0 ↔ ¬ eventId = none) ∨
      eventId.any fun eventId => !isControlPlaneEventId eventId)
    (.adapter "stored projection event cursor is invalid")
  return ⟨key, sequence, eventId⟩

def storedProjectionCursor (row : OutboxRow) : StorageResult (Option ProjectionEventCursor) :=
  match row.streamKind, row.resourceId, row.streamSequence with
  | none, none, none => .ok none
  | some kind, some resourceId, some sequence => do
    let stream ← ProjectionEventStream.fromStored kind resourceId
    let scopeKey ← ReceiptScopeKey.fromEncoded row.identity.scopeKey.encoded
    let key ← newStreamKey scopeKey stream
    let cursor ← newCursor key sequence (some row.eventId)
    return some cursor
  | _, _, _ => .error (.adapter "stored projection event cursor columns are incomplete")

variable (identity : ReceiptIdentity)

def checkStoredContext (cursor : ProjectionEventCursor)
    (context : PublicProjectionEventContext) : StorageCheck := do
  refuse (cursor.key.stream ≠ context.stream)
    (.adapter "stored public context stream differs from its projection cursor")
  validatePublicEventTime context.occurredAt
  validatePublicSource context.source
  validatePublicStreamSource context.stream context.source
  let scopeKey ← receiptScopeKey context.scope
  refuse (scopeKey ≠ identity.scopeKey)
    (.adapter "stored public context scope differs from its receipt scope")
  StateCommit.checkSourceActor identity
    (.adapter "stored public context actor differs from its receipt actor") context.source

def storedPublicContext (cursor : Option ProjectionEventCursor)
    (row : OutboxRow) : StorageResult (Option PublicProjectionEventContext) :=
  match cursor, row.publicScope, row.publicStream, row.publicOccurredAt, row.publicSource with
  | none, none, none, none, none => .ok none
  | some cursor, some scope, some stream, some occurredAt, some source => do
    let context := ⟨scope, stream, occurredAt, source⟩
    checkStoredContext identity cursor context
    return some context
  | _, _, _, _, _ => .error
      (.adapter "public outbox context is incomplete or attached to an internal event")

def receiptEvent (row : OutboxRow) : StorageResult OutboxEvent := do
  let cursor ← storedProjectionCursor row
  let context ← storedPublicContext identity cursor row
  return ⟨row.sequence, row.eventId, row.topic, row.payload, cursor, context⟩

def receiptEvents (outbox : OutboxTables) (identity : ReceiptIdentity) :
    StorageResult (List OutboxEvent) :=
  ((outbox.rows.rows.filter fun row => row.identity == identity).insertionSort
    fun left right => left.sequence ≤ right.sequence).mapM (receiptEvent identity)

/-! The answer to a request that was committed before. -/

def replayStoredReceipt (outbox : OutboxTables) (identity : ReceiptIdentity)
    (commandDigest : String) (prior : CommandReceiptRow) : StorageResult CommitReceipt := do
  refuse (prior.commandDigest ≠ commandDigest) (.requestConflict identity.requestId)
  let events ← receiptEvents outbox identity
  return ⟨identity, commandDigest, prior.streamId, prior.revision, events, true⟩

def replayReceipt (store : CommitStore) (commit : StateCommit) (prior : CommandReceiptRow) :
    StorageResult CommitReceipt := do
  let pending ← loadPendingAuditEvent store.audit commit.receiptIdentity
  refuse (pending ≠ commit.pendingAuditEvent)
    (.requestConflict commit.receiptIdentity.requestId)
  replayStoredReceipt store.outbox commit.receiptIdentity commit.commandDigest prior

/-! Optimistic concurrency. -/

def checkStateRevisionGuard (state : StateTable) (guarded : StateRevisionGuard) : StorageCheck :=
  let actual := storedStateRevision state guarded.streamId
  refuse (actual ≠ guarded.expectedRevision)
    (.stateRevisionGuardConflict guarded.streamId guarded.expectedRevision actual)

section
variable (state : StateTable) (tables : JournalTables)

/-- The import of the commit copies the stored primary state. -/
def checkImportSource (sha256 : List UInt8 → String) (state : StateTable) (commit : StateCommit) :
    StorageCheck :=
  match commit.immutableStateImport with
  | none => .ok ()
  | some source => do
    let row ← okOr (state.find fun row => row.streamId == commit.streamId)
      (.invalidInput "immutable state import source is missing")
    refuse (row.revision ≠ commit.expectedRevision ∨
        "sha256:" ++ sha256 row.payload ≠ source.sourceDigest)
      (.invalidInput "immutable state import source changed before commit")

def checkStateMutationRevision (mutation : StateMutation) : StorageCheck :=
  let actual := storedStateRevision state mutation.streamId
  refuse (actual ≠ mutation.expectedRevision)
    (.stateMutationRevisionConflict mutation.streamId mutation.expectedRevision actual)

def checkStateMutationRevisions (sha256 : List UInt8 → String) (state : StateTable)
    (commit : StateCommit) : StorageCheck := do
  checkImportSource sha256 state commit
  commit.allStateMutations.forM (checkStateMutationRevision state)

/-! Writes. -/

def upsertState (streamId : String) (revision : Nat)
    (payload : List UInt8) : StorageResult StateTable :=
  okOr (state.upsert (fun row => row.streamId == streamId) ⟨streamId, revision, payload⟩) sqlError

def appendStateMutation (mutation : StateMutation) : StorageResult StateTable := do
  refuse (sqliteMax < mutation.expectedRevision + 1)
    (.invalidInput "state mutation revision is out of range")
  upsertState state mutation.streamId (mutation.expectedRevision + 1) mutation.state

def insertJournalRecord (key : AggregateJournalKey)
    (record : AggregateJournalRecord) : StorageResult JournalTables := do
  refuse (sqliteMax < record.sequence) (.invalidInput "journal sequence is out of range")
  let records ← okOr (tables.records.insert ⟨key, record⟩) sqlError
  return { tables with records := records }

def journalTail (key : AggregateJournalKey) : Option AggregateJournalRecordRow :=
  (tables.records.rows.filter fun row => row.key == key).argmax (·.record.sequence)

def appendJournalPublication : AggregateJournalPublication → StorageResult JournalTables
  | .create key manifest firstRecord => do
    refuse ((tables.journals.find fun row => row.key == key).isSome)
      (.journalAlreadyExists key)
    let journals ← okOr (tables.journals.insert ⟨key, manifest⟩) sqlError
    insertJournalRecord { tables with journals := journals } key firstRecord
  | .append key expectedTailSequence expectedTailDigest record => do
    let tail ← okOr (journalTail tables key) (.journalNotFound key)
    refuse (sqliteMax < expectedTailSequence)
      (.invalidInput "expected journal tail is out of range")
    refuse (tail.record.sequence ≠ expectedTailSequence ∨
        tail.record.digest ≠ expectedTailDigest) (.journalConflict key)
    insertJournalRecord tables key record

def appendJournal (commit : StateCommit) : StorageResult JournalTables :=
  match commit.journalPublication with
  | some publication => appendJournalPublication tables publication
  | none => .ok tables

end

def appendReceipt (receipts : ReceiptTable) (commit : StateCommit) (revision : Nat) :
    StorageResult ReceiptTable :=
  okOr (receipts.insert
    ⟨commit.receiptIdentity, commit.commandDigest, commit.streamId, revision⟩) sqlError

def appendPendingAuditEvent (audit : AuditTable) (commit : StateCommit) :
    StorageResult AuditTable :=
  match commit.pendingAuditEvent with
  | some event => okOr (audit.insert ⟨commit.receiptIdentity, event⟩) sqlError
  | none => .ok audit

def streamColumns (stream : ProjectionEventStream) : StreamColumns :=
  ⟨identity.scopeKey, stream.kind, stream.resourceId⟩

section
variable (outbox : OutboxTables) (event : NewOutboxEvent) (stream : StreamColumns)

def streamHead : Nat :=
  ((outbox.heads.find fun row => row.stream == stream).map (·.sequence)).getD 0

def nextProjectionStreamPosition : StorageResult Nat := do
  let current := streamHead outbox stream
  refuse (maxSafeInteger ≤ current)
    (.adapter "projection event stream sequence is outside the public range")
  return current + 1

def outboxRow (sequence : Nat) (event : NewOutboxEvent) (position : Option Nat) : OutboxRow :=
  ⟨sequence, event.eventId, identity, event.topic, event.payload,
    event.projectionStream.map (·.kind), event.projectionStream.map (·.resourceId), position,
    event.publicContext.map (·.scope), event.publicContext.map (·.stream),
    event.publicContext.map (·.occurredAt), event.publicContext.map (·.source)⟩

def insertOutboxRow (position : Option Nat) : StorageResult OutboxTables := do
  -- AUTOINCREMENT never gives a sequence twice and fails at the largest integer.
  refuse (sqliteMax ≤ outbox.lastSequence) sqliteFull
  let rows ← okOr (outbox.rows.insert (outboxRow identity (outbox.lastSequence + 1) event position))
    sqlError
  return { outbox with rows := rows, lastSequence := outbox.lastSequence + 1 }

def upsertStreamHead (position : Nat) (eventId : String) : StorageResult OutboxTables := do
  let heads ← okOr (outbox.heads.upsert (fun row => row.stream == stream)
    ⟨stream, position, eventId⟩) sqlError
  return { outbox with heads := heads }

def appendOutboxEvent : StorageResult OutboxTables :=
  match event.projectionStream with
  | some stream => do
    let columns := streamColumns identity stream
    let position ← nextProjectionStreamPosition outbox columns
    let outbox ← insertOutboxRow identity outbox event (some position)
    upsertStreamHead outbox columns position event.eventId
  | none => insertOutboxRow identity outbox event none

def appendOutboxEvents (commit : StateCommit) : StorageResult OutboxTables :=
  commit.events.foldlM (appendOutboxEvent commit.receiptIdentity) outbox

end

def appendStateCommit (store : CommitStore) (commit : StateCommit) :
    StorageResult (CommitStore × CommitReceipt) := do
  let actual := storedStateRevision store.state commit.streamId
  refuse (actual ≠ commit.expectedRevision) (.revisionConflict commit.expectedRevision actual)
  let revision := commit.expectedRevision + 1
  refuse (sqliteMax < revision) (.invalidInput "revision is out of range")
  let primary ← upsertState store.state commit.streamId revision commit.state
  let state ← commit.allStateMutations.foldlM appendStateMutation primary
  let journal ← appendJournal store.journal commit
  let receipts ← appendReceipt store.receipts commit revision
  let audit ← appendPendingAuditEvent store.audit commit
  let outbox ← appendOutboxEvents store.outbox commit
  let events ← receiptEvents outbox commit.receiptIdentity
  return (⟨state, receipts, audit, outbox, journal⟩, ⟨commit.receiptIdentity,
    commit.commandDigest, commit.streamId, revision, events, false⟩)

def commitNew (sha256 : List UInt8 → String) (claimed : Bool) (store : CommitStore)
    (commit : StateCommit) : StorageResult (CommitStore × CommitReceipt) := do
  refuse (claimed = true)
    (.invalidInput "claimed Control Plane command requires its atomic instance fence")
  refuse (commit.receiptReplayRequired = true)
    (.requestReplayMissing commit.receiptIdentity.requestId)
  commit.stateGuards.forM (checkStateRevisionGuard store.state)
  checkStateMutationRevisions sha256 store.state commit
  appendStateCommit store commit

/-- `claimed` says whether the table of command claims holds the identity of the commit. -/
def commitInTransaction (sha256 : List UInt8 → String) (claimed : Bool) (store : CommitStore)
    (commit : StateCommit) : StorageResult (CommitStore × CommitReceipt) :=
  match priorReceipt store.receipts commit.receiptIdentity with
  | some prior => do
    let receipt ← replayReceipt store commit prior
    return (store, receipt)
  | none => commitNew sha256 claimed store commit

def commit (sha256 : List UInt8 → String) (claimed : Bool) (store : CommitStore)
    (request : StateCommit) : StorageResult (CommitStore × CommitReceipt) := do
  request.validate
  commitInTransaction sha256 claimed store request

end StateCommits

end WinWinCode.Storage
