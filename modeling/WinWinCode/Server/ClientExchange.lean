import WinWinCode.Foundation.Programs
import WinWinCode.Storage.ClientDownlink
import WinWinCode.Server.BatchSettler

/-!
`ClientExchangeApplication::client_exchange`: one device request settled frame by
frame. Each storage operation is one transaction that may also fail for reasons
of its own, decided by the next entry of `faults`; what earlier transactions
committed stays. The command effects themselves are a parameter: they may write
every table except the exchange tables, and may fail half way. `facts` records
when an effect is invoked and when a frame is completed.

Frames arrive decoded and routed, so the envelope's schema version and node are
not modelled; the serialised payload enters through its digest.
-/

namespace WinWinCode.Server

open Exchange Fallible Programs Storage Text ClientRegistry
open Program (lift)

structure ClientHelloPayload where
  clientVersion : String
  maxConcurrentWorkerSessions : Nat

/-- The message kinds, each with the fields the exchange itself reads. `Body` is
the remaining payload, which only the effects read. -/
inductive ClientToServerMessage (Body : Type) where
  | enroll (idempotencyKey : String) (body : Body)
  | hello (payload : ClientHelloPayload) (body : Body)
  | connectCodePublished (idempotencyKey : String) (body : Body)
  | repositoryUpsert (idempotencyKey : String) (body : Body)
  | repositoryRemoved (idempotencyKey : String) (body : Body)
  | occupancyAck (idempotencyKey : String) (body : Body)
  | occupancyRejected (idempotencyKey : String) (body : Body)
  | workerLaunchAck (idempotencyKey : String) (body : Body)
  | candidateRetained (idempotencyKey : String) (body : Body)
  | candidateApplyResult (idempotencyKey : String) (body : Body)
  | applicationReconciled (idempotencyKey : String) (body : Body)
  | providerReport (body : Body)
  | repositoryRegistered (body : Body)
  | extensionReport (body : Body)
  | heartbeat (body : Body)
  | repositoryStatus (body : Body)
  | workerState (body : Body)
  | workerReconcile (body : Body)
  | managedAppStatus (body : Body)
  | commandAck (body : Body)

structure ClientToServerEnvelope (Body : Type) where
  (messageId clientInstanceId : String)
  sequence : Nat
  occurredAt : String
  message : ClientToServerMessage Body

namespace ClientToServerMessage

variable {Body : Type}

def isEnroll : ClientToServerMessage Body → Bool
  | enroll _ _ => true
  | _ => false

def helloPayload : ClientToServerMessage Body → Option ClientHelloPayload
  | hello payload _ => some payload
  | _ => none

def idempotencyKey : ClientToServerMessage Body → Option String
  | enroll key _ => some key
  | connectCodePublished key _ => some key
  | repositoryUpsert key _ => some key
  | repositoryRemoved key _ => some key
  | occupancyAck key _ => some key
  | occupancyRejected key _ => some key
  | workerLaunchAck key _ => some key
  | candidateRetained key _ => some key
  | candidateApplyResult key _ => some key
  | applicationReconciled key _ => some key
  | hello _ _ => none
  | providerReport _ => none
  | repositoryRegistered _ => none
  | extensionReport _ => none
  | heartbeat _ => none
  | repositoryStatus _ => none
  | workerState _ => none
  | workerReconcile _ => none
  | managedAppStatus _ => none
  | commandAck _ => none

end ClientToServerMessage

def commandIdentity {Body : Type} (message : ClientToServerMessage Body)
    (payloadDigest : String) : Option CommandIdentity :=
  message.idempotencyKey.map fun key => ⟨key, payloadDigest⟩

inductive CommandAckStatus where
  | accepted
  | duplicate
  | rejectedUnknownCommand
  | rejectedRevisionConflict
  | rejectedStaleFencingToken
  | rejectedLeaseMismatch
  | rejectedWrongState
  | rejectedUnauthorized
  | rejectedCapacityExhausted

inductive ClientControlErrorCode where
  | protocolVersionUnsupported
  | deviceNotEnrolled
  | deviceInstanceChanged
  | unknownLease
  | staleFencingToken
  | revisionConflict
  | idempotencyConflict
  | capacityExhausted
  | repositoryUnavailable
  | grantInvalid
  | wrongState
  | rateLimited
  | internalError

inductive ClientExchangeError where
  | authentication
  | invalidRequest
  | unavailable
  | commandRejected (status : CommandAckStatus) (code : ClientControlErrorCode)
      (currentRevision : Option Nat)

abbrev ExchangeResult := Except ClientExchangeError

def ClientExchangeError.isCommandRejected : ClientExchangeError → Bool
  | commandRejected _ _ _ => true
  | _ => false

/-- What the exchange takes from outside: the serialiser's digest, the command
effects, the rejection receipt's generated id and text, and the configuration. -/
structure ExchangeHost (Body Rest : Type) where
  payloadDigest : ClientToServerMessage Body → String
  applyEffectWithStatus : ClientStore Rest → String → ClientToServerEnvelope Body → String →
    EffectTables Rest × ExchangeResult Unit
  rejectionReceipt : ClientToServerEnvelope Body → ClientExchangeError → Nat → String →
    String × String
  isJson : String → Bool
  maxFramesPerExchange : Nat

inductive ExchangeFact where
  | effect (node : String) (key : Option String)
  | completed (node : String) (key : Option String)

structure World (Rest : Type) where
  store : ClientStore Rest
  faults : List Bool
  facts : List ExchangeFact

structure ExchangeResponseBody where
  ackSequence : Nat
  replayFromSequence : Option Nat
  frames : List String

section Program
variable {Body Rest : Type}

abbrev Exchange (Rest : Type) := Program (World Rest) ClientExchangeError

/-- One storage transaction. A fault answers `refused` and changes nothing. -/
def transaction {Err α : Type} (operation : ClientStore Rest → Except Err (ClientStore Rest × α))
    (refused : ClientExchangeError) (convert : Err → ClientExchangeError) :
    Exchange Rest α := fun world =>
  if world.faults.headD false then
    ({ world with faults := world.faults.tail }, .error refused)
  else
    match operation world.store with
    | .ok (store, answer) =>
      ({ world with store := store, faults := world.faults.tail }, .ok answer)
    | .error error => ({ world with faults := world.faults.tail }, .error (convert error))

/-- A storage operation whose every failure is reported as unavailable. -/
def transactionOrUnavailable {Err α : Type}
    (operation : ClientStore Rest → Except Err (ClientStore Rest × α)) : Exchange Rest α :=
  transaction operation .unavailable fun _ => .unavailable

def query {Err α : Type} (operation : ClientStore Rest → Except Err α) : Exchange Rest α :=
  transactionOrUnavailable fun store => do
    let answer ← operation store
    return (store, answer)

def note (fact : ExchangeFact) : Exchange Rest Unit := fun world =>
  ({ world with facts := world.facts ++ [fact] }, .ok ())

variable (host : ExchangeHost Body Rest) (node : String) (envelope : ClientToServerEnvelope Body)

def nodeRecord : Exchange Rest ClientNodeRecord := do
  let record ← query fun store => snapshot store node
  lift (okOr record .authentication)

def cursorsOrUnavailable : Exchange Rest ClientExchangeCursors := do
  let cursors ← query fun store => exchangeCursors store.toExchangeTables node
  lift (okOr cursors .unavailable)

def outboxHighWaterOrUnavailable : Exchange Rest Nat :=
  query fun store => ClientDownlink.highWater store node

section
variable (now : String) (current : ClientNodeRecord) (clientInstanceId : String)
  (payload : ClientHelloPayload)

def helloRegistration : ClientNodeRegistration where
  clientNodeId := current.clientNodeId
  publicClientId := current.publicClientId
  displayName := current.displayName
  platform := current.platform
  architecture := current.architecture
  clientVersion := payload.clientVersion
  currentInstanceId := some clientInstanceId
  maxConcurrentWorkerSessions := payload.maxConcurrentWorkerSessions

def alreadyCurrent : Bool :=
  current.clientVersion == payload.clientVersion &&
    current.currentInstanceId == some clientInstanceId &&
    current.maxConcurrentWorkerSessions == payload.maxConcurrentWorkerSessions

def supersedeInstance : Exchange Rest Unit :=
  match envelope.message.helloPayload with
  | none => pure ()
  | some payload => do
    let current ← query fun store => snapshot store node
    match current with
    | none => pure ()
    | some current =>
      if alreadyCurrent current envelope.clientInstanceId payload then pure () else
        match (helloRegistration current envelope.clientInstanceId payload).tryNew with
        | .error _ => pure ()
        | .ok registration => do
          let _ ← transactionOrUnavailable fun store =>
            register store registration current.revision now
          pure ()

/-- A rejected command is answered on the downlink instead of failing the batch. -/
def commandRejectionReply (error : ClientExchangeError) (now : String) :
    Exchange Rest ClientDownlinkAppend := do
  let cursor ← cursorsOrUnavailable node
  let highest ← outboxHighWaterOrUnavailable node
  let sequence := max highest cursor.serverToClientAckSequence + 1
  let receipt := host.rejectionReceipt envelope error sequence now
  lift ((ClientDownlink.tryNew host.isJson
    ⟨node, receipt.1, sequence, receipt.2⟩).mapError fun _ => .unavailable)

/-- Invoke the effect of an envelope; what it wrote stays even when it fails. -/
def applyEffect : Exchange Rest (ExchangeResult Unit) := fun world =>
  let result := host.applyEffectWithStatus world.store node envelope now
  ({ world with store := { world.store with toEffectTables := result.1 } }, .ok result.2)

end

/-- The effect of a frame that is not settled yet, with the reply it calls for. -/
def runEffect (key : Option String) (now : String) :
    Exchange Rest (Option ClientDownlinkAppend) := do
  note (.effect node key)
  let result ← applyEffect host node envelope now
  match result with
  | .ok _ => pure none
  | .error error =>
    if error.isCommandRejected && key.isSome then do
      let reply ← commandRejectionReply host node envelope error now
      pure (some reply)
    else Program.fail error

/-- Settled frames, and frames at or before the request's first cursor, have no
effect left to run. -/
def effectWhenDue (start : Nat)
    (envelope : ClientToServerEnvelope Body) (completed : Bool) (key : Option String)
    (now : String) : Exchange Rest (Option ClientDownlinkAppend) :=
  if !completed && start < envelope.sequence then runEffect host node envelope key now
  else pure none

def reserveEnvelope (identity : FrameIdentity) (key : Option String) (store : ClientStore Rest) :
    RegistryResult (ClientStore Rest × Bool) := do
  let reserved ← reserveExchangeFrame store.toExchangeTables node
    envelope.sequence envelope.messageId identity.payloadDigest key
  return ({ store with toExchangeTables := reserved.1 }, reserved.2)

def completeEnvelope (key : Option String) (reply : Option (ClientDownlinkAppend × String))
    (store : ClientStore Rest) : RegistryResult (ClientStore Rest × Unit) := do
  let settled ← completeExchangeFrameWithReply store node envelope.sequence key reply
  return (settled, ())

/-- Reserve, apply and complete one frame of the batch. `start` is the uplink
cursor the request began with. -/
def settleEnvelope (start : Nat) (envelope : ClientToServerEnvelope Body) (identity : FrameIdentity)
    (key : Option String) (now : String) : Exchange Rest Unit := do
  let completed ← transaction (reserveEnvelope node envelope identity key) .unavailable
    fun error => if error.kind = .identityConflict then .invalidRequest else .unavailable
  let reply ← effectWhenDue host node start envelope completed key now
  transactionOrUnavailable
    (completeEnvelope node envelope key (reply.map fun reply => (reply, now)))
  note (.completed node key)

/-- A Hello from an instance other than the effective one takes the node over,
before the frame's position is looked at. -/
def takeOver (node effectiveInstance : String) (envelope : ClientToServerEnvelope Body)
    (settler : BatchSettler) (now : String) : Exchange Rest BatchSettler :=
  if envelope.message.helloPayload.isSome && envelope.clientInstanceId != effectiveInstance then do
    supersedeInstance node envelope now
    pure (settler.takeOverInstance envelope.clientInstanceId)
  else pure settler

def envelopeIdentity : FrameIdentity :=
  ⟨envelope.messageId, envelope.sequence, host.payloadDigest envelope.message⟩

/-- What the outcome of a frame leads to: the batch stops, with the replay hint of a
gap, or the frame is settled and the rest follows. -/
def settleIngested (start : Nat) (now : String)
    (envelope : ClientToServerEnvelope Body) (ingested : BatchSettler × BatchOutcome)
    (rest : BatchSettler → Exchange Rest (BatchSettler × Option Nat)) :
    Exchange Rest (BatchSettler × Option Nat) :=
  match ingested.2 with
  | .gap replayFromSequence => pure (ingested.1, some replayFromSequence)
  | .refused => pure (ingested.1, none)
  | .accepted | .duplicate => do
    settleEnvelope host node start envelope (envelopeIdentity host envelope)
      envelope.message.idempotencyKey now
    rest ingested.1

def ingestEnvelope (settler : BatchSettler)
    (envelope : ClientToServerEnvelope Body) : BatchSettler × BatchOutcome :=
  let identity := envelopeIdentity host envelope
  settler.ingest envelope.clientInstanceId identity
    (commandIdentity envelope.message identity.payloadDigest)

def settleBatch (host : ExchangeHost Body Rest) (node effectiveInstance : String) (start : Nat)
    (now : String) : List (ClientToServerEnvelope Body) → BatchSettler →
      Exchange Rest (BatchSettler × Option Nat)
  | [], settler => pure (settler, none)
  | envelope :: rest, settler =>
    if envelope.message.isEnroll then pure (settler, none) else do
      let taken ← takeOver node effectiveInstance envelope settler now
      settleIngested host node start now envelope (ingestEnvelope host taken envelope)
        (settleBatch host node effectiveInstance start now rest)

section
variable (envelopes : List (ClientToServerEnvelope Body)) (ackSequence clientAck : Nat)

/-- A node that enrolled without an instance must introduce one with its first
frame. -/
def introduceInstance (record : ClientNodeRecord)
    (envelopes : List (ClientToServerEnvelope Body)) (now : String) : Exchange Rest Unit :=
  if record.currentInstanceId = none ∧ record.presenceState = .pendingEnrollment then
    match envelopes.head?.filter (·.message.helloPayload.isSome) with
    | none => Program.fail .authentication
    | some first => supersedeInstance node first now
  else pure ()

def advanceCursors (store : ClientStore Rest) :
    RegistryResult (ClientStore Rest × ClientExchangeCursors) := do
  let (tables, cursors) ← advanceExchangeCursors store.toExchangeTables node
    ackSequence clientAck
  return ({ store with toExchangeTables := tables }, cursors)

def deliverBatch : Exchange Rest (List ClientDownlinkFrame) := do
  let cursors ← transactionOrUnavailable (advanceCursors node ackSequence clientAck)
  let batch ← query fun store => ClientDownlink.deliverable store node
    cursors.serverToClientAckSequence host.maxFramesPerExchange
  lift (refuse (batch.any (fun frame => !host.isJson frame.frame)) .unavailable)
  let _ ← transactionOrUnavailable fun store => ClientDownlink.retainThrough store node
    cursors.serverToClientAckSequence
  pure batch

def closeExchange (replayHint : Option Nat) : Exchange Rest ExchangeResponseBody := do
  let batch ← deliverBatch host node ackSequence clientAck
  pure ⟨ackSequence, replayHint, batch.map (·.frame)⟩

def settleRequest (record : ClientNodeRecord)
    (cursors : ClientExchangeCursors) (clientAck : Nat) (now : String) :
    Exchange Rest ExchangeResponseBody := do
  introduceInstance node record envelopes now
  let effective ← nodeRecord node
  let effectiveInstance ← lift (okOr effective.currentInstanceId .unavailable)
  let settled ← settleBatch host node effectiveInstance cursors.clientToServerAckSequence now
    envelopes (.new effectiveInstance cursors.clientToServerAckSequence)
  closeExchange host node settled.1.ackSequence clientAck settled.2

def clientExchange (clientAck : Nat) (now : String) : Exchange Rest ExchangeResponseBody := do
  lift (refuse (isCanonicalId "cnd_" node = false) .authentication)
  let record ← nodeRecord node
  lift (refuse (record.presenceState = .revoked) .authentication)
  let cursors ← cursorsOrUnavailable node
  let highWater ← outboxHighWaterOrUnavailable node
  lift (refuse (max cursors.serverToClientAckSequence highWater < clientAck)
    .invalidRequest)
  settleRequest host node envelopes record cursors clientAck now

end

structure ExchangeCall (Body Rest : Type) where
  host : ExchangeHost Body Rest
  node : String
  envelopes : List (ClientToServerEnvelope Body)
  clientAck : Nat
  now : String
  faults : List Bool

/-- What happens to the server: a request, or any write of its other components
to the tables the exchange does not own. -/
inductive ExchangeEvent (Body Rest : Type) where
  | request (call : ExchangeCall Body Rest)
  | elsewhere (write : EffectTables Rest → EffectTables Rest)

def exchangeStep (world : World Rest) : ExchangeEvent Body Rest → World Rest
  | .request call =>
    (clientExchange call.host call.node call.envelopes call.clientAck call.now
      { world with faults := call.faults }).1
  | .elsewhere write =>
    { world with store :=
      { world.store with toEffectTables := write world.store.toEffectTables } }

def World.of (store : ClientStore Rest) : World Rest := ⟨store, [], []⟩

end Program

end WinWinCode.Server
