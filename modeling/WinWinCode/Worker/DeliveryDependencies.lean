import WinWinCode.ExecutionPort.RuntimeReplay

/-!
Which frames of the worker's outbox wait for which others. A frame is held back while
a frame that it depends on could not be sent: the later events of a stream, the chunks
of an artifact or a model exchange, the outcome of a job after what it refers to, and
everything of an execution after its dispatch result and session binding. Frames belong
to one execution when the earlier lease is the later one before its renewals.
-/

namespace WinWinCode.Worker

open ExecutionPort
open Storage (ExecutionLeaseStamp SessionIdentity)

structure JobOutcomeMessage where
  lease : ExecutionLeaseStamp
  sessionIdentity : SessionIdentity
  lastEventSequence : Int
  /-- The ids of the artifacts that the outcome refers to. -/
  artifacts : List String
deriving DecidableEq

structure ArtifactOpenMessage where
  artifactId : String
  lease : ExecutionLeaseStamp
  sessionIdentity : SessionIdentity
deriving DecidableEq

structure ArtifactChunkMessage where
  artifactId : String
  lease : ExecutionLeaseStamp
  sequence : Int
  sessionIdentity : SessionIdentity
deriving DecidableEq

structure ModelChunkMessage where
  lease : ExecutionLeaseStamp
  modelExchangeId : String
  sequence : Int
  sessionIdentity : SessionIdentity
deriving DecidableEq

/-- The frames that a worker retains; `other` is any frame without an execution. -/
inductive ExecutionPortMessage where
  | runtimeEvent (event : RuntimeEventMessage)
  | jobOutcome (outcome : JobOutcomeMessage)
  | artifactOpen (opening : ArtifactOpenMessage)
  | artifactChunk (chunk : ArtifactChunkMessage)
  | modelChunk (chunk : ModelChunkMessage)
  | jobDispatchResult (lease : ExecutionLeaseStamp)
  | sessionBinding (lease : ExecutionLeaseStamp)
  | modelOpen (lease : ExecutionLeaseStamp)
  | approvalRequest (lease : ExecutionLeaseStamp)
  | inputRequest (lease : ExecutionLeaseStamp)
  | actionEnforcementRequest (lease : ExecutionLeaseStamp)
  | jobCancelAck
  | modelAck
  | other
deriving DecidableEq

/-- The lease of a frame that waits for the dispatch result and the session binding. -/
def dispatchedLease : ExecutionPortMessage → Option ExecutionLeaseStamp
  | .runtimeEvent event => some event.lease
  | .jobOutcome outcome => some outcome.lease
  | .artifactOpen opening => some opening.lease
  | .artifactChunk chunk => some chunk.lease
  | .modelChunk chunk => some chunk.lease
  | .sessionBinding lease => some lease
  | .jobDispatchResult lease => some lease
  | .modelOpen lease => some lease
  | .approvalRequest lease => some lease
  | .inputRequest lease => some lease
  | .actionEnforcementRequest lease => some lease
  | .jobCancelAck => none
  | .modelAck => none
  | .other => none

def dependsOnDispatch (priorLease : ExecutionLeaseStamp) (message : ExecutionPortMessage) : Bool :=
  match dispatchedLease message with
  | some lease => retainedLeaseMatchesCurrent priorLease lease
  | none => false

def runtimeEventStreamKey (event : RuntimeEventMessage) : ReplayStreamKey :=
  runtimeStreamKey (identityOfEvent event)

def executionDeliveryDependsOn (message prior : ExecutionPortMessage) : Bool :=
  if message = .jobCancelAck ∨ message = .modelAck then false
  else
    match prior, message with
    | .runtimeEvent first, .runtimeEvent next =>
      runtimeEventStreamKey first == runtimeEventStreamKey next &&
        decide (first.event.sequence < next.event.sequence)
    | .runtimeEvent event, .jobOutcome outcome =>
      retainedLeaseMatchesCurrent event.lease outcome.lease &&
        event.sessionIdentity == outcome.sessionIdentity &&
        decide (event.event.sequence ≤ outcome.lastEventSequence)
    | .artifactOpen opening, .artifactChunk chunk =>
      opening.artifactId == chunk.artifactId &&
        retainedLeaseMatchesCurrent opening.lease chunk.lease &&
        opening.sessionIdentity == chunk.sessionIdentity
    | .artifactChunk first, .artifactChunk next =>
      first.artifactId == next.artifactId &&
        retainedLeaseMatchesCurrent first.lease next.lease &&
        first.sessionIdentity == next.sessionIdentity &&
        decide (first.sequence < next.sequence)
    | .artifactOpen opening, .jobOutcome outcome =>
      retainedLeaseMatchesCurrent opening.lease outcome.lease &&
        opening.sessionIdentity == outcome.sessionIdentity &&
        outcome.artifacts.any (· == opening.artifactId)
    | .artifactChunk chunk, .jobOutcome outcome =>
      retainedLeaseMatchesCurrent chunk.lease outcome.lease &&
        chunk.sessionIdentity == outcome.sessionIdentity &&
        outcome.artifacts.any (· == chunk.artifactId)
    | .modelChunk first, .modelChunk next =>
      first.modelExchangeId == next.modelExchangeId &&
        retainedLeaseMatchesCurrent first.lease next.lease &&
        first.sessionIdentity == next.sessionIdentity &&
        decide (first.sequence < next.sequence)
    | .modelChunk chunk, .jobOutcome outcome =>
      retainedLeaseMatchesCurrent chunk.lease outcome.lease &&
        chunk.sessionIdentity == outcome.sessionIdentity
    | .jobDispatchResult priorLease, message => dependsOnDispatch priorLease message
    | .sessionBinding priorLease, message => dependsOnDispatch priorLease message
    | _, _ => false

/-- The ways in which a frame waits for a prior one. -/
inductive Precedes : ExecutionPortMessage → ExecutionPortMessage → Prop where
  | event {first next : RuntimeEventMessage}
      (stream : runtimeEventStreamKey first = runtimeEventStreamKey next)
      (order : first.event.sequence < next.event.sequence) :
      Precedes (.runtimeEvent first) (.runtimeEvent next)
  | eventOutcome {event : RuntimeEventMessage} {outcome : JobOutcomeMessage}
      (lease : retainedLeaseMatchesCurrent event.lease outcome.lease = true)
      (session : event.sessionIdentity = outcome.sessionIdentity)
      (counted : event.event.sequence ≤ outcome.lastEventSequence) :
      Precedes (.runtimeEvent event) (.jobOutcome outcome)
  | openChunk {opening : ArtifactOpenMessage} {chunk : ArtifactChunkMessage}
      (artifact : opening.artifactId = chunk.artifactId)
      (lease : retainedLeaseMatchesCurrent opening.lease chunk.lease = true)
      (session : opening.sessionIdentity = chunk.sessionIdentity) :
      Precedes (.artifactOpen opening) (.artifactChunk chunk)
  | chunk {first next : ArtifactChunkMessage}
      (artifact : first.artifactId = next.artifactId)
      (lease : retainedLeaseMatchesCurrent first.lease next.lease = true)
      (session : first.sessionIdentity = next.sessionIdentity)
      (order : first.sequence < next.sequence) :
      Precedes (.artifactChunk first) (.artifactChunk next)
  | openOutcome {opening : ArtifactOpenMessage} {outcome : JobOutcomeMessage}
      (lease : retainedLeaseMatchesCurrent opening.lease outcome.lease = true)
      (session : opening.sessionIdentity = outcome.sessionIdentity)
      (referred : opening.artifactId ∈ outcome.artifacts) :
      Precedes (.artifactOpen opening) (.jobOutcome outcome)
  | chunkOutcome {chunk : ArtifactChunkMessage} {outcome : JobOutcomeMessage}
      (lease : retainedLeaseMatchesCurrent chunk.lease outcome.lease = true)
      (session : chunk.sessionIdentity = outcome.sessionIdentity)
      (referred : chunk.artifactId ∈ outcome.artifacts) :
      Precedes (.artifactChunk chunk) (.jobOutcome outcome)
  | modelChunk {first next : ModelChunkMessage}
      (exchange : first.modelExchangeId = next.modelExchangeId)
      (lease : retainedLeaseMatchesCurrent first.lease next.lease = true)
      (session : first.sessionIdentity = next.sessionIdentity)
      (order : first.sequence < next.sequence) :
      Precedes (.modelChunk first) (.modelChunk next)
  | modelOutcome {chunk : ModelChunkMessage} {outcome : JobOutcomeMessage}
      (lease : retainedLeaseMatchesCurrent chunk.lease outcome.lease = true)
      (session : chunk.sessionIdentity = outcome.sessionIdentity) :
      Precedes (.modelChunk chunk) (.jobOutcome outcome)
  | dispatchResult {prior lease : ExecutionLeaseStamp} {message : ExecutionPortMessage}
      (waits : dispatchedLease message = some lease)
      (renewed : retainedLeaseMatchesCurrent prior lease = true) :
      Precedes (.jobDispatchResult prior) message
  | sessionBinding {prior lease : ExecutionLeaseStamp} {message : ExecutionPortMessage}
      (waits : dispatchedLease message = some lease)
      (renewed : retainedLeaseMatchesCurrent prior lease = true) :
      Precedes (.sessionBinding prior) message

variable {message : ExecutionPortMessage}

theorem dependsOnDispatch_iff {priorLease : ExecutionLeaseStamp} :
    dependsOnDispatch priorLease message ↔ ∃ lease, dispatchedLease message = some lease ∧
        retainedLeaseMatchesCurrent priorLease lease = true := by
  unfold dependsOnDispatch
  cases dispatchedLease message <;> simp

variable {prior : ExecutionPortMessage}

theorem precedes_of_dependsOn (depends : executionDeliveryDependsOn message prior) :
    Precedes prior message := by
  unfold executionDeliveryDependsOn at depends
  split at depends
  · cases depends
  split at depends
  case h_9 =>
      obtain ⟨_, waits, renewed⟩ := dependsOnDispatch_iff.mp depends
      exact .dispatchResult waits renewed
  case h_10 =>
      obtain ⟨_, waits, renewed⟩ := dependsOnDispatch_iff.mp depends
      exact .sessionBinding waits renewed
  case h_11 => cases depends
  all_goals
    simp only [Bool.and_eq_true, beq_iff_eq, decide_eq_true_eq, List.any_eq_true,
      exists_eq_right] at depends
    constructor <;> simp only [depends]

theorem dependsOn_of_precedes (precedes : Precedes prior message) :
    executionDeliveryDependsOn message prior = true := by
  cases precedes with
  | dispatchResult waits renewed | sessionBinding waits renewed =>
    have waiting : dependsOnDispatch _ message = true :=
      dependsOnDispatch_iff.mpr ⟨_, waits, renewed⟩
    cases message <;> exact waiting
  | _ => simp_all [executionDeliveryDependsOn]

theorem dependsOn_iff : executionDeliveryDependsOn message prior ↔ Precedes prior message :=
  ⟨precedes_of_dependsOn, dependsOn_of_precedes⟩

def messageSession : ExecutionPortMessage → Option SessionIdentity
  | .runtimeEvent event => some event.sessionIdentity
  | .jobOutcome outcome => some outcome.sessionIdentity
  | .artifactOpen opening => some opening.sessionIdentity
  | .artifactChunk chunk => some chunk.sessionIdentity
  | .modelChunk chunk => some chunk.sessionIdentity
  | _ => none

/-- Frames of one session whose leases are renewals of one lease. -/
structure OneExecution (messages : Set ExecutionPortMessage) (first : ExecutionLeaseStamp)
    (session : SessionIdentity) : Prop where
  renewal : ∀ message ∈ messages, ∀ lease, dispatchedLease message = some lease →
    retainedLeaseMatchesCurrent first lease = true
  sameSession : ∀ message ∈ messages, ∀ identity, messageSession message = some identity →
    identity = session

/-- The events of a stream carry the renewals of their lease in the order of the stream. -/
def LeasesInStreamOrder (messages : Set ExecutionPortMessage) : Prop :=
  ∀ first next, .runtimeEvent first ∈ messages → .runtimeEvent next ∈ messages →
    runtimeEventStreamKey first = runtimeEventStreamKey next →
    first.event.sequence < next.event.sequence → first.lease.expiresAt ≤ next.lease.expiresAt

/-- A frame carries no earlier renewal than the frames it waits for. -/
theorem Precedes.expiry {messages : Set ExecutionPortMessage}
    (ordered : LeasesInStreamOrder messages) (precedes : Precedes prior message)
    (prior_in : prior ∈ messages) (message_in : message ∈ messages) :
    ∃ priorLease lease, dispatchedLease prior = some priorLease ∧
      dispatchedLease message = some lease ∧ priorLease.expiresAt ≤ lease.expiresAt := by
  cases precedes with
  | event stream order => exact ⟨_, _, rfl, rfl, ordered _ _ prior_in message_in stream order⟩
  | dispatchResult waits renewed
  | sessionBinding waits renewed => exact ⟨_, _, rfl, waits, retainedLease_expiry renewed⟩
  | eventOutcome lease _ _ | openChunk _ lease _ | chunk _ lease _ _ | openOutcome lease _ _
  | chunkOutcome lease _ _ | modelChunk _ lease _ _
  | modelOutcome lease _ => exact ⟨_, _, rfl, rfl, retainedLease_expiry lease⟩

section

variable {messages : Set ExecutionPortMessage} {first : ExecutionLeaseStamp}
  {session : SessionIdentity} (execution : OneExecution messages first session)
  (ordered : LeasesInStreamOrder messages)

include execution

theorem OneExecution.matches_of_expiry {early late : ExecutionPortMessage}
    {earlyLease lateLease : ExecutionLeaseStamp} (early_in : early ∈ messages)
    (late_in : late ∈ messages) (early_lease : dispatchedLease early = some earlyLease)
    (late_lease : dispatchedLease late = some lateLease)
    (order : earlyLease.expiresAt ≤ lateLease.expiresAt) :
    retainedLeaseMatchesCurrent earlyLease lateLease = true :=
  retainedLease_of_renewals (execution.renewal early early_in earlyLease early_lease)
    (execution.renewal late late_in lateLease late_lease) order

theorem OneExecution.same_session {left right : ExecutionPortMessage}
    {leftSession rightSession : SessionIdentity} (left_in : left ∈ messages)
    (right_in : right ∈ messages) (left_session : messageSession left = some leftSession)
    (right_session : messageSession right = some rightSession) : leftSession = rightSession := by
  rw [execution.sameSession left left_in leftSession left_session,
    execution.sameSession right right_in rightSession right_session]

include ordered

/-- A frame waits for whatever the frames that it waits for wait for. -/
theorem Precedes.trans {later : ExecutionPortMessage} (before : Precedes prior message)
    (after : Precedes message later) (prior_in : prior ∈ messages) (message_in : message ∈ messages)
    (later_in : later ∈ messages) : Precedes prior later := by
  obtain ⟨priorLease, lease, prior_lease, lease_eq, renewed⟩ :=
    before.expiry ordered prior_in message_in
  obtain ⟨lease', laterLease, lease_eq', later_lease, extended⟩ :=
    after.expiry ordered message_in later_in
  obtain rfl : lease = lease' := Option.some.inj (lease_eq.symm.trans lease_eq')
  have matched : retainedLeaseMatchesCurrent priorLease laterLease = true :=
    execution.matches_of_expiry prior_in later_in prior_lease later_lease (renewed.trans extended)
  -- Outcomes precede nothing; each other kind composes with what may follow it.
  cases before with
  | dispatchResult _ _ =>
    cases prior_lease
    exact .dispatchResult later_lease matched
  | sessionBinding _ _ =>
    cases prior_lease
    exact .sessionBinding later_lease matched
  | event stream order =>
    cases prior_lease
    cases after with
    | event stream' order' => exact .event (stream.trans stream') (order.trans order')
    | eventOutcome _ _ counted =>
      cases later_lease
      exact .eventOutcome matched (execution.same_session prior_in later_in rfl rfl)
        (order.le.trans counted)
  | openChunk artifact _ same =>
    cases prior_lease
    cases after with
    | chunk artifact' _ same' _ =>
      cases later_lease
      exact .openChunk (artifact.trans artifact') matched (same.trans same')
    | chunkOutcome _ same' referred =>
      cases later_lease
      exact .openOutcome matched (same.trans same') (artifact ▸ referred)
  | chunk artifact _ same order =>
    cases prior_lease
    cases after with
    | chunk artifact' _ same' order' =>
      cases later_lease
      exact .chunk (artifact.trans artifact') matched (same.trans same') (order.trans order')
    | chunkOutcome _ same' referred =>
      cases later_lease
      exact .chunkOutcome matched (same.trans same') (artifact ▸ referred)
  | modelChunk exchange _ same order =>
    cases prior_lease
    cases after with
    | modelChunk exchange' _ same' order' =>
      cases later_lease
      exact .modelChunk (exchange.trans exchange') matched (same.trans same')
        (order.trans order')
    | modelOutcome _ same' =>
      cases later_lease
      exact .modelOutcome matched (same.trans same')
  | eventOutcome _ _ _ | openOutcome _ _ _ | chunkOutcome _ _ _ | modelOutcome _ _ => cases after

end

end WinWinCode.Worker
