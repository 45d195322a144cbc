import WinWinCode.ExecutionPort.Replay
import WinWinCode.ExecutionPort.ExecutionIdentity

/-!
The worker's side of runtime replay: events retained in the stream of their
execution, replay requests answered with the original messages, and the
acknowledgements of the control plane. The stream of an execution is named by its
lease and sessions without the lease's instants. A message is retained as its
canonical bytes with the digest of its event; what is returned is decoded from the
bytes and checked against the identity of the request.
-/

namespace WinWinCode.ExecutionPort

open Fallible Counting Programs Text
open Program (lift)
open Storage (ExecutionLeaseStamp SessionIdentity toUnsigned)

inductive ExecutionEventCategory where
  | lifecycle
  | activity
  | command
  | test
  | diff
  | usage
  | attention
  | diagnostic
deriving DecidableEq

structure EncodedPayload where
  (contentType dataBase64 payloadDigest : String)
deriving DecidableEq

structure ExecutionEventRecord where
  category : ExecutionEventCategory
  (eventId occurredAt : String)
  payload : Option EncodedPayload
  sequence : Int
  summary : String
deriving DecidableEq

structure RuntimeEventMessage where
  codexThreadId : String
  event : ExecutionEventRecord
  lease : ExecutionLeaseStamp
  (messageId sentAt : String)
  sessionIdentity : SessionIdentity
  workerSessionId : String
deriving DecidableEq

structure RuntimeReplayRequestMessage where
  afterSequence : Int
  lease : ExecutionLeaseStamp
  maxEvents : Int
  (messageId requestId sentAt : String)
  sessionIdentity : SessionIdentity
  workerSessionId : String

inductive LeaseWriteStatus where
  | accepted
  | duplicate
  | gap
  | rejectedConflict
  | rejectedExpiredLease
  | rejectedStaleFencingToken
  | rejectedWorkerInstance
deriving DecidableEq

structure RuntimeAckMessage where
  ackSequence : Int
  lease : ExecutionLeaseStamp
  messageId : String
  replayFromSequence : Option Int
  sentAt : String
  sessionIdentity : SessionIdentity
  status : LeaseWriteStatus
  workerSessionId : String

structure RuntimeReplayIdentity where
  lease : ExecutionLeaseStamp
  workerSessionId : String
  sessionIdentity : SessionIdentity
  codexThreadId : String
deriving DecidableEq

def identityOfRequest (request : RuntimeReplayRequestMessage) : RuntimeReplayIdentity :=
  ⟨request.lease, request.workerSessionId, request.sessionIdentity,
    request.sessionIdentity.codexThreadId⟩

def identityOfEvent (message : RuntimeEventMessage) : RuntimeReplayIdentity :=
  ⟨message.lease, message.workerSessionId, message.sessionIdentity, message.codexThreadId⟩

def identityOfAck (message : RuntimeAckMessage) : RuntimeReplayIdentity :=
  ⟨message.lease, message.workerSessionId, message.sessionIdentity,
    message.sessionIdentity.codexThreadId⟩

/-- The stream of an execution. The issue and expiry of the lease are no part of it. -/
def runtimeStreamKey (identity : RuntimeReplayIdentity) : ReplayStreamKey :=
  let components := [identity.lease.jobId, identity.lease.leaseId, identity.lease.workerId,
    identity.lease.workerInstanceId, toString identity.lease.attempt,
    identity.lease.fencingToken, identity.workerSessionId,
    identity.sessionIdentity.productSessionId, identity.sessionIdentity.workRunId.getD "",
    identity.sessionIdentity.codexThreadId, identity.codexThreadId]
  ⟨components.foldl (fun value component =>
    value ++ "/" ++ toString component.utf8ByteSize ++ ":" ++ component)
    "runtime-worker-replay:v1"⟩

structure RuntimeReplayBatch where
  (ackSequence highestSequence : Int)
  events : List RuntimeEventMessage
deriving DecidableEq

structure RuntimeReplayAckReceipt where
  status : LeaseWriteStatus
  (ackSequence highestSequence : Int)
  replayFromSequence : Option Int
  replay : Option RuntimeReplayBatch
deriving DecidableEq

inductive RuntimeReplayRequestError where
  | emptyIdentity
  | invalidAttempt
  | invalidFencingToken
  | negativeAfterSequence
  | sequenceOutOfRange
  | invalidMaxEvents
  | workerSessionMismatch
deriving DecidableEq

inductive RuntimeReplayEventError where
  | emptyIdentity
  | invalidSequence
  | sequenceOutOfRange
  | invalidAttempt
  | invalidFencingToken
  | workerSessionMismatch
  | codexThreadMismatch
  | emptyEventId
deriving DecidableEq

inductive RuntimeReplayAckError where
  | emptyIdentity
  | invalidAttempt
  | invalidMessageId
  | invalidTime
  | invalidFencingToken
  | negativeSequence
  | sequenceOutOfRange
  | workerSessionMismatch
  | gapReplayMissing
  | gapReplayMismatch
  | unexpectedReplayStart
deriving DecidableEq

inductive RuntimeReplayFrameError where
  | empty
  | malformed
  | nonCanonical
  | digestMismatch
  | identityMismatch
  | sequenceMismatch
deriving DecidableEq

inductive RuntimeReplayError (AuthorityError StoreError : Type) where
  | request (error : RuntimeReplayRequestError)
  | event (error : RuntimeReplayEventError)
  | acknowledgement (error : RuntimeReplayAckError)
  | replay (error : ReplayError AuthorityError StoreError)
  | frame (sequence : Nat) (error : RuntimeReplayFrameError)
  | ackOutOfRange
deriving DecidableEq

structure RuntimeCodec where
  encode : RuntimeEventMessage → List UInt8
  decode : List UInt8 → Option RuntimeEventMessage
  encodeEvent : ExecutionEventRecord → List UInt8
  hexDigest : List UInt8 → String

def RuntimeCodec.eventDigest (codec : RuntimeCodec) (event : ExecutionEventRecord) : String :=
  "sha256:" ++ codec.hexDigest (codec.encodeEvent event)

/-! Checks on messages. -/

def maxReplayEvents : Int := 10000

inductive IdentityError where
  | empty
  | attempt
  | fence

def validateIdentity (lease : ExecutionLeaseStamp) (workerSessionId : String)
    (sessionIdentity : SessionIdentity) : Except IdentityError Unit := do
  refuse (lease.jobId = "" ∨ lease.leaseId = "" ∨ lease.workerId = "" ∨
    lease.workerInstanceId = "" ∨ workerSessionId = "" ∨ sessionIdentity.productSessionId = "" ∨
    sessionIdentity.workRunId = some "" ∨ sessionIdentity.workerSessionId = "" ∨
    sessionIdentity.codexThreadId = "") .empty
  refuse (lease.attempt ≤ 0) .attempt
  refuse (lease.fencingToken = "" ∨ 20 < lease.fencingToken.utf8ByteSize ∨
    lease.fencingToken.toList.head? = some '0' ∨
    ¬ isDigits lease.fencingToken.toList = true) .fence

def validateRequest (request : RuntimeReplayRequestMessage) :
    Except RuntimeReplayRequestError Nat := do
  refuse (request.messageId = "" ∨ request.requestId = "") .emptyIdentity
  (validateIdentity request.lease request.workerSessionId request.sessionIdentity).mapError
    fun
    | .empty => .emptyIdentity
    | .attempt => .invalidAttempt
    | .fence => .invalidFencingToken
  refuse (request.sessionIdentity.workerSessionId ≠ request.workerSessionId) .workerSessionMismatch
  let afterSequence ← okOr (toUnsigned request.afterSequence) .negativeAfterSequence
  refuse (maxSafeInteger < afterSequence) .sequenceOutOfRange
  refuse (¬ (1 ≤ request.maxEvents ∧ request.maxEvents ≤ maxReplayEvents)) .invalidMaxEvents
  pure afterSequence

def validateEvent (message : RuntimeEventMessage) : Except RuntimeReplayEventError Unit := do
  refuse (message.messageId = "") .emptyIdentity
  (validateIdentity message.lease message.workerSessionId message.sessionIdentity).mapError
    fun
    | .empty => .emptyIdentity
    | .attempt => .invalidAttempt
    | .fence => .invalidFencingToken
  refuse (message.sessionIdentity.workerSessionId ≠ message.workerSessionId) .workerSessionMismatch
  refuse (message.codexThreadId ≠ message.sessionIdentity.codexThreadId) .codexThreadMismatch
  refuse (message.event.eventId = "") .emptyEventId
  let sequence ← okOr (toUnsigned message.event.sequence) .invalidSequence
  refuse (sequence = 0) .invalidSequence
  refuse (maxSafeInteger < sequence) .sequenceOutOfRange

/-- `xmsg_` and twenty-six ASCII letters or digits. -/
def isExecutionMessageId (messageId : String) : Bool :=
  messageId.utf8ByteSize == 31 &&
    match stripPrefix "xmsg_" messageId with
    | none => false
    | some suffix => suffix.all Char.isAlphanum

structure ValidatedAck where
  ackSequence : Nat
  replayFromSequence : Option Nat

/-- Where a gap asks to replay from: right after the acknowledged sequence. -/
def validateReplayFrom (message : RuntimeAckMessage) (ackSequence : Nat) :
    Except RuntimeReplayAckError (Option Nat) :=
  if message.status = .gap then do
    let requested ← okOr message.replayFromSequence .gapReplayMissing
    let replayFrom ← okOr (toUnsigned requested) .sequenceOutOfRange
    refuse (maxSafeInteger < replayFrom) .sequenceOutOfRange
    refuse (replayFrom = 0 ∨ replayFrom ≠ saturatingAdd ackSequence 1) .gapReplayMismatch
    pure (some replayFrom)
  else do
    refuse (message.replayFromSequence.isSome = true) .unexpectedReplayStart
    pure none

def validateAck (message : RuntimeAckMessage) : Except RuntimeReplayAckError ValidatedAck := do
  refuse (message.messageId = "") .emptyIdentity
  refuse (¬ isExecutionMessageId message.messageId = true) .invalidMessageId
  refuse (¬ (canonicalInstant message.sentAt = true ∧
    canonicalInstant message.lease.issuedAt = true ∧
    canonicalInstant message.lease.expiresAt = true ∧
    message.lease.issuedAt < message.lease.expiresAt ∧
    message.lease.issuedAt ≤ message.sentAt)) .invalidTime
  (validateIdentity message.lease message.workerSessionId message.sessionIdentity).mapError
    fun
    | .empty => .emptyIdentity
    | .attempt => .invalidAttempt
    | .fence => .invalidFencingToken
  refuse (message.sessionIdentity.workerSessionId ≠ message.workerSessionId) .workerSessionMismatch
  let ackSequence ← okOr (toUnsigned message.ackSequence) .negativeSequence
  refuse (maxSafeInteger < ackSequence) .sequenceOutOfRange
  let replayFromSequence ← validateReplayFrom message ackSequence
  pure ⟨ackSequence, replayFromSequence⟩

section Responder
variable {Store StoreError AuthorityError : Type}

def toAckSequence (sequence : Nat) : Except (RuntimeReplayError AuthorityError StoreError) Int :=
  if sequence < 2 ^ 63 then .ok sequence else .error .ackOutOfRange

variable (codec : RuntimeCodec) (store : ReplayStore Store StoreError)
  (authority : ReplayAuthority RuntimeReplayIdentity AuthorityError) (message : RuntimeAckMessage)

/-- The message that a frame was retained for, if it is one of the execution that asks. -/
def decodeFrame (identity : RuntimeReplayIdentity) (frame : ReplayFrame) :
    Except (RuntimeReplayError AuthorityError StoreError) RuntimeEventMessage := do
  refuse (frame.frame = []) (.frame frame.sequence .empty)
  let message ← okOr (codec.decode frame.frame) (.frame frame.sequence .malformed)
  refuse (codec.encode message ≠ frame.frame) (.frame frame.sequence .nonCanonical)
  refuse (codec.eventDigest message.event ≠ frame.digest) (.frame frame.sequence .digestMismatch)
  let sequence ← okOr (toUnsigned message.event.sequence) (.frame frame.sequence .sequenceMismatch)
  refuse (sequence ≠ frame.sequence ∨ message.event.eventId ≠ frame.eventId)
    (.frame frame.sequence .sequenceMismatch)
  refuse (identityOfEvent message ≠ identity) (.frame frame.sequence .identityMismatch)
  pure message

def runtimeBatch (identity : RuntimeReplayIdentity) (batch : ReplayBatch) :
    Except (RuntimeReplayError AuthorityError StoreError) RuntimeReplayBatch := do
  let events ← batch.events.mapM (decodeFrame codec identity)
  let ackSequence ← toAckSequence batch.ackSequence
  let highestSequence ← toAckSequence batch.highestSequence
  pure ⟨ackSequence, highestSequence, events⟩

def retainRuntimeEvent (message : RuntimeEventMessage) :
    Program Store (RuntimeReplayError AuthorityError StoreError) ReplayDecision := do
  lift ((validateEvent message).mapError .event)
  let sequence ← lift (okOr (toUnsigned message.event.sequence) (.event .invalidSequence))
  let frame : ReplayFrame := ⟨message.event.eventId, sequence, codec.eventDigest message.event,
    codec.encode message⟩
  (accept store authority (runtimeStreamKey (identityOfEvent message)) (identityOfEvent message)
    frame).mapError .replay

/-- `resume`. The watermarks are converted before the frames are decoded. -/
def resumeRuntime (request : RuntimeReplayRequestMessage) :
    Program Store (RuntimeReplayError AuthorityError StoreError) RuntimeReplayBatch := do
  let afterSequence ← lift ((validateRequest request).mapError .request)
  let identity := identityOfRequest request
  let maxEvents ← lift (okOr (toUnsigned request.maxEvents) (.request .invalidMaxEvents))
  let batch ← (resume store authority (runtimeStreamKey identity) identity afterSequence
    maxEvents).mapError .replay
  let ackSequence ← lift (toAckSequence batch.ackSequence)
  let highestSequence ← lift (toAckSequence batch.highestSequence)
  let events ← lift (batch.events.mapM (decodeFrame codec identity))
  pure ⟨ackSequence, highestSequence, events⟩

def loadQuery (stream : ReplayStreamKey)
    (query : ReplayReadQuery) : Program Store StoreError ReplaySnapshot := do
  match ← store.loadIndexed stream query with
  | some snapshot => pure snapshot
  | none => do
    let found ← store.load stream
    pure (found.getD {})

def loadWatermarks (stream : ReplayStreamKey) : Program Store StoreError ReplaySnapshot :=
  loadQuery store stream .watermarks

/-- The receipt of an acknowledgement that was accepted before, proved by its original frame. -/
def retainedReceipt (durable : ReplaySnapshot) (frame : ReplayFrame) :
    Except (RuntimeReplayError AuthorityError StoreError) RuntimeReplayAckReceipt := do
  let original ← decodeFrame codec (identityOfAck message) frame
  refuse (¬ (canonicalInstant message.sentAt = true ∧ canonicalInstant original.sentAt = true ∧
    original.sentAt ≤ message.sentAt)) (.acknowledgement .invalidTime)
  let ackSequence ← toAckSequence durable.ackSequence
  let highestSequence ← toAckSequence durable.highestSequence
  pure ⟨message.status, ackSequence, highestSequence, none, none⟩

def retainedAcknowledgement : Program Store (RuntimeReplayError AuthorityError StoreError)
      (Option RuntimeReplayAckReceipt) := do
  let validated ← lift ((validateAck message).mapError .acknowledgement)
  if ¬ (message.status = .accepted ∨ message.status = .duplicate) ∨ validated.ackSequence = 0 then
    pure none
  else do
    let stream := runtimeStreamKey (identityOfAck message)
    let durable ← (loadWatermarks store stream).mapError fun error => .replay (.store error)
    lift (refuse (durable.highestSequence < durable.ackSequence) .ackOutOfRange)
    if durable.ackSequence < validated.ackSequence then
      pure none
    else do
      let original ← (loadQuery store stream (.after (validated.ackSequence - 1) 1)).mapError
        fun error => .replay (.store error)
      match original.eventBySequence validated.ackSequence with
      | none => pure none
      | some frame => do
        let receipt ← lift (retainedReceipt codec message durable frame)
        pure (some receipt)

/-- What an acknowledgement does to the stream: the watermark it leaves, and the frames that a
gap asks for. -/
def applyAck (validated : ValidatedAck) (before : ReplayBatch) :
    Program Store (RuntimeReplayError AuthorityError StoreError) (Nat × Option ReplayBatch) :=
  let identity := identityOfAck message
  let stream := runtimeStreamKey identity
  let advance : Program Store (RuntimeReplayError AuthorityError StoreError)
      (Nat × Option ReplayBatch) := do
    let ackSequence ← (acknowledge store authority stream identity
      validated.ackSequence).mapError .replay
    pure (ackSequence, none)
  match message.status with
  | .duplicate =>
    if validated.ackSequence ≤ before.ackSequence then pure (before.ackSequence, none)
    else advance
  | .accepted => advance
  | .gap =>
    match validated.replayFromSequence with
    | none => Program.fail (.acknowledgement .gapReplayMissing)
    | some replayFrom => do
      let replay ← (resume store authority stream identity (replayFrom - 1)
        maxReplayEvents.toNat).mapError .replay
      pure (before.ackSequence, some replay)
  | .rejectedConflict | .rejectedExpiredLease | .rejectedStaleFencingToken
  | .rejectedWorkerInstance => pure (before.ackSequence, none)

def ackReceipt (ackSequence : Nat) (replay : Option ReplayBatch) (after : ReplayBatch) :
    Except (RuntimeReplayError AuthorityError StoreError) RuntimeReplayAckReceipt := do
  let replay ← replay.mapM (runtimeBatch codec (identityOfAck message))
  let ack ← toAckSequence ackSequence
  let highest ← toAckSequence after.highestSequence
  pure ⟨message.status, ack, highest, message.replayFromSequence, replay⟩

def acknowledgeRuntime :
    Program Store (RuntimeReplayError AuthorityError StoreError) RuntimeReplayAckReceipt := do
  let validated ← lift ((validateAck message).mapError .acknowledgement)
  let identity := identityOfAck message
  let stream := runtimeStreamKey identity
  let before ← (resume store authority stream identity 0 1).mapError .replay
  let (ackSequence, replay) ← applyAck store authority message validated before
  let after ← (resume store authority stream identity 0 1).mapError .replay
  lift (ackReceipt codec message ackSequence replay after)

end Responder

end WinWinCode.ExecutionPort
