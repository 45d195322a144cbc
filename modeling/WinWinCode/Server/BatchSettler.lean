import WinWinCode.Foundation.Runs
import WinWinCode.Exchange.Inbound

/-!
The server's own batch settlement, `BatchSettler` in `client_exchange.rs`, and its
agreement with the protocol crate's `InboundStream`. The settler always trusts
exactly one instance, answers without a cursor and folds the three refusals of
the stream into one. The relation `Mirrors` is what the two keep equal.
-/

namespace WinWinCode.Server

open Exchange

inductive BatchOutcome where
  | accepted
  | duplicate
  | gap (replayFromSequence : Nat)
  | refused

structure BatchSettler where
  trustedInstance : String
  ack : AckCursor
  dedup : DedupRegister

namespace BatchSettler

def new (instanceId : String) (ackSequence : Nat) : BatchSettler :=
  ⟨instanceId, .fromAck ackSequence, .new⟩

variable (settler : BatchSettler)

def takeOverInstance (instanceId : String) : BatchSettler :=
  { settler with trustedInstance := instanceId }

def ackSequence : Nat := settler.ack.ackSequence

section
variable (identity : FrameIdentity) (command : Option CommandIdentity)

/-- `command.is_some_and(|command| check_command(command) == Conflict)`. -/
def commandConflicts : Bool :=
  command.any (fun command => settler.dedup.checkCommand command == .conflict)

def accept : BatchSettler × BatchOutcome :=
  if settler.commandConflicts command then (settler, .refused)
  else if settler.dedup.checkFrame identity = .conflict then (settler, .refused)
  else
    ({ settler with
        dedup := settler.dedup.record identity command
        ack := settler.ack.advanced identity.sequence }, .accepted)

def sequenced : BatchSettler × BatchOutcome :=
  match settler.ack.observe identity.sequence with
  | .zero => (settler, .refused)
  | .gap replayFromSequence => (settler, .gap replayFromSequence)
  | .duplicate =>
    match settler.dedup.checkFrame identity with
    | .conflict => (settler, .refused)
    | .duplicate | .new => (settler, .duplicate)
  | .accept => settler.accept identity command

end

def ingest (clientInstanceId : String) (identity : FrameIdentity)
    (command : Option CommandIdentity) : BatchSettler × BatchOutcome :=
  if identity.malformed then (settler, .refused)
  else if settler.trustedInstance ≠ clientInstanceId then (settler, .refused)
  else settler.sequenced identity command

end BatchSettler

section
variable (settler : BatchSettler) (identity : FrameIdentity)

/-- How one ingest moves the settler's cursor: only an accepted frame moves it, by
one, and a duplicate is not ahead of it. -/
structure Advances
    (result : BatchSettler × BatchOutcome) : Prop where
  accepted : result.2 = .accepted →
    identity.sequence = settler.ackSequence + 1 ∧ result.1.ackSequence = identity.sequence
  duplicate : result.2 = .duplicate → identity.sequence ≤ settler.ackSequence
  kept : result.2 ≠ .accepted → result.1.ackSequence = settler.ackSequence

theorem advances_stop {settler : BatchSettler} {identity : FrameIdentity} (outcome : BatchOutcome)
    (notAccepted : outcome ≠ .accepted)
    (behind : outcome = .duplicate → identity.sequence ≤ settler.ackSequence) :
    Advances settler identity (settler, outcome) :=
  ⟨fun accepted => absurd accepted notAccepted, behind, fun _ => rfl⟩

theorem accept_advances (command : Option CommandIdentity)
    (observed : settler.ack.observe identity.sequence = .accept) :
    Advances settler identity (settler.accept identity command) := by
  unfold BatchSettler.accept
  split
  · exact advances_stop .refused (by simp) (by simp)
  split
  · exact advances_stop .refused (by simp) (by simp)
  · refine ⟨fun _ => ⟨(AckCursor.observe_accept observed).2, ?_⟩, by simp, by simp⟩
    simp [BatchSettler.ackSequence, AckCursor.advanced_of_accept observed]

theorem ingest_advances (clientInstanceId : String)
    (identity : FrameIdentity) (command : Option CommandIdentity)
    (room : settler.ackSequence + 1 < Counting.wordLimit) :
    Advances settler identity (settler.ingest clientInstanceId identity command) := by
  unfold BatchSettler.ingest
  split
  · exact advances_stop .refused (by simp) (by simp)
  split
  · exact advances_stop .refused (by simp) (by simp)
  unfold BatchSettler.sequenced
  cases observed : settler.ack.observe identity.sequence with
  | zero => exact advances_stop .refused (by simp) (by simp)
  | gap replayFrom => exact advances_stop (.gap replayFrom) (by simp) (by simp)
  | accept => exact accept_advances settler identity command observed
  | duplicate =>
    have behind := AckCursor.observe_duplicate room observed
    cases settler.dedup.checkFrame identity with
    | conflict => exact advances_stop .refused (by simp) (by simp)
    | duplicate | new => exact advances_stop .duplicate (by simp) fun _ => behind

end

inductive SettleStep where
  | ingest (clientInstanceId : String) (identity : FrameIdentity)
      (command : Option CommandIdentity)
  | takeOver (instanceId : String)

def settlerStep (settler : BatchSettler) : SettleStep → BatchSettler × Option BatchOutcome
  | .ingest clientInstanceId identity command =>
    let result := settler.ingest clientInstanceId identity command
    (result.1, some result.2)
  | .takeOver instanceId => (settler.takeOverInstance instanceId, none)

def streamStep (stream : InboundStream) : SettleStep → InboundStream × Option IngestDecision
  | .ingest clientInstanceId identity command =>
    let result := stream.ingest clientInstanceId identity command
    (result.1, some result.2)
  | .takeOver instanceId => ((stream.observeInstance instanceId).1, none)

def Corresponds : BatchOutcome → IngestDecision → Prop
  | .accepted, .accepted _ _ => True
  | .duplicate, .duplicate _ => True
  | .gap replayFromSequence, .gap _ replayFrom => replayFromSequence = replayFrom
  | .refused, .rejectedConflict _ => True
  | .refused, .rejectedMalformed _ => True
  | .refused, .reacquireRequired _ => True
  | _, _ => False

def Answers : Option BatchOutcome → Option IngestDecision → Prop
  | some outcome, some decision => Corresponds outcome decision
  | none, none => True
  | _, _ => False

structure Mirrors (settler : BatchSettler) (stream : InboundStream) : Prop where
  guarded : stream.instanceGuard = true
  current : stream.instances.current = some settler.trustedInstance
  ack : stream.ack = settler.ack
  dedup : stream.dedup = settler.dedup

def Agrees (left : BatchSettler × BatchOutcome) (right : InboundStream × IngestDecision) : Prop :=
  Corresponds left.2 right.2 ∧ Mirrors left.1 right.1

variable {settler : BatchSettler} {stream : InboundStream}

section
variable (mirrors : Mirrors settler stream)
include mirrors

section
variable (identity : FrameIdentity) (command : Option CommandIdentity)

theorem commandOutcome_mirrors :
    stream.commandOutcome command = none ↔ settler.commandConflicts command = true := by
  cases command with
  | none => simp [InboundStream.commandOutcome, BatchSettler.commandConflicts]
  | some command =>
    simp only [InboundStream.commandOutcome, BatchSettler.commandConflicts, mirrors.dedup,
      Option.any_some, beq_iff_eq]
    cases settler.dedup.checkCommand command <;> simp

theorem accept_agrees :
    Agrees (settler.accept identity command) (stream.accept identity command) := by
  have conflicts := commandOutcome_mirrors mirrors command
  unfold BatchSettler.accept InboundStream.accept
  cases outcome : stream.commandOutcome command with
  | none =>
    rw [if_pos (conflicts.mp outcome)]
    exact ⟨trivial, mirrors⟩
  | some _ =>
    have clear : ¬ settler.commandConflicts command := by
      intro conflict
      rw [conflicts.mpr conflict] at outcome
      contradiction
    rw [if_neg clear, mirrors.dedup, mirrors.ack]
    by_cases taken : settler.dedup.checkFrame identity = .conflict
    · rw [if_pos taken]
      simp only [if_pos taken]
      exact ⟨trivial, mirrors⟩
    · rw [if_neg taken]
      simp only [if_neg taken]
      exact ⟨trivial, mirrors.guarded, mirrors.current, rfl, rfl⟩

theorem sequenced_agrees :
    Agrees (settler.sequenced identity command) (stream.sequenced identity command) := by
  unfold BatchSettler.sequenced InboundStream.sequenced
  rw [mirrors.ack]
  cases settler.ack.observe identity.sequence with
  | zero => exact ⟨trivial, mirrors⟩
  | gap _ => exact ⟨rfl, mirrors⟩
  | accept => exact accept_agrees mirrors identity command
  | duplicate =>
    rw [mirrors.dedup]
    cases settler.dedup.checkFrame identity <;> exact ⟨trivial, mirrors⟩

end

theorem ingest_agrees (clientInstanceId : String) (identity : FrameIdentity)
    (command : Option CommandIdentity) : Agrees (settler.ingest clientInstanceId identity command)
      (stream.ingest clientInstanceId identity command) := by
  unfold BatchSettler.ingest InboundStream.ingest
  simp only [InboundStream.guardInstance, mirrors.guarded, mirrors.current, if_true]
  by_cases shape : identity.malformed = true
  · rw [if_pos shape, if_pos shape]
    exact ⟨trivial, mirrors⟩
  · rw [if_neg shape, if_neg shape]
    by_cases foreign : settler.trustedInstance ≠ clientInstanceId
    · rw [if_pos foreign, if_pos foreign]
      exact ⟨trivial, mirrors⟩
    · rw [if_neg foreign, if_neg foreign]
      exact sequenced_agrees mirrors identity command

theorem takeOver_mirrors (instanceId : String) :
    Mirrors (settler.takeOverInstance instanceId) (stream.observeInstance instanceId).1 := by
  refine ⟨mirrors.guarded, ?_, mirrors.ack, mirrors.dedup⟩
  simp only [InboundStream.observeInstance, InstanceTracker.observe, mirrors.current,
    BatchSettler.takeOverInstance]
  by_cases same : settler.trustedInstance = instanceId <;> simp [same]

end

theorem step_agrees (settler : BatchSettler) (stream : InboundStream) (event : SettleStep)
    (mirrors : Mirrors settler stream) :
    Answers (settlerStep settler event).2 (streamStep stream event).2 ∧
      Mirrors (settlerStep settler event).1 (streamStep stream event).1 := by
  cases event with
  | ingest clientInstanceId identity command =>
    exact ingest_agrees mirrors clientInstanceId identity command
  | takeOver instanceId => exact ⟨trivial, takeOver_mirrors mirrors instanceId⟩

/-- From one instance, cursor zero and empty registers, the two components answer
correspondingly and hold the same cursor after every step of every run. -/
theorem settler_matches_stream (instanceId : String) (events : List SettleStep) : List.Forall₂
      (fun settled ingested => Answers settled.1 ingested.1 ∧
        settled.2.ackSequence = ingested.2.ackSequence)
      (Runs.trace settlerStep (.new instanceId 0) events)
      (Runs.trace streamStep (.withInstance instanceId) events) := by
  have locked := Runs.trace_lockstep settlerStep streamStep step_agrees
    (⟨rfl, rfl, rfl, rfl⟩ : Mirrors (.new instanceId 0) (.withInstance instanceId)) events
  apply locked.imp
  intro _ _ agrees
  refine ⟨agrees.1, ?_⟩
  rw [BatchSettler.ackSequence, InboundStream.ackSequence, agrees.2.ack]

end WinWinCode.Server
