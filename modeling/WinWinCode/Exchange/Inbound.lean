import WinWinCode.Foundation.Counting

/-!
The receiving half of the device exchange protocol, from `sequence.rs`,
`frame.rs`, `dedup.rs` and `inbound.rs` of the client port. A stream keeps the
cumulative acknowledgement, the register of settled identities and the sender
instance it currently trusts. `HashMap` is an association list without repeated
keys; sequences are naturals whose successor is checked at 64 bits. The
`debug_assert` after an accepted advance has no effect in the model, and
`observe_accept_advance` shows that it always holds.
-/

namespace WinWinCode.Exchange

open Counting

structure AckCursor where
  ackSequence : Nat

inductive SequenceVerdict where
  | accept
  | duplicate
  | gap (replayFromSequence : Nat)
  | zero

inductive AckAdvanceError where
  | overflow
  | notContiguous (ackSequence sequence : Nat)

namespace AckCursor

def new : AckCursor := ⟨0⟩

def fromAck (ackSequence : Nat) : AckCursor := ⟨ackSequence⟩

variable (cursor : AckCursor)

def nextExpected : Option Nat :=
  checkedAdd cursor.ackSequence 1

def observe (sequence : Nat) : SequenceVerdict :=
  if sequence = 0 then .zero else
    match cursor.nextExpected with
    | none => .duplicate
    | some expected =>
      if sequence = expected then .accept
      else if expected < sequence then .gap expected
      else .duplicate

def advance (sequence : Nat) : Except AckAdvanceError AckCursor :=
  match cursor.nextExpected with
  | none => .error .overflow
  | some expected =>
    if sequence = expected then .ok ⟨sequence⟩
    else .error (.notContiguous cursor.ackSequence sequence)

def advanced (sequence : Nat) : AckCursor :=
  match cursor.advance sequence with
  | .ok moved => moved
  | .error _ => cursor

variable {cursor : AckCursor} {sequence : Nat}

theorem observe_duplicate (room : cursor.ackSequence + 1 < wordLimit)
    (repeated : cursor.observe sequence = .duplicate) : sequence ≤ cursor.ackSequence := by
  have expects : cursor.nextExpected = some (cursor.ackSequence + 1) := by
    simp [nextExpected, checkedAdd, room]
  by_contra above
  have positive : sequence ≠ 0 := by omega
  by_cases same : sequence = cursor.ackSequence + 1
  · simp [observe, expects, same] at repeated
  · have beyond : cursor.ackSequence + 1 < sequence := by omega
    simp [observe, expects, positive, same, beyond] at repeated

theorem observe_behind (positive : sequence ≠ 0) (behind : sequence ≤ cursor.ackSequence) :
    cursor.observe sequence = .duplicate := by
  unfold observe
  rw [if_neg positive]
  cases expects : cursor.nextExpected with
  | none => rfl
  | some expected =>
    have value := (checkedAdd_eq_some.mp expects).2
    have different : sequence ≠ expected := by omega
    have below : ¬ expected < sequence := by omega
    simp [different, below]

section
variable (accepted : cursor.observe sequence = .accept)
include accepted

theorem observe_accept :
    cursor.nextExpected = some sequence ∧ sequence = cursor.ackSequence + 1 := by
  unfold observe at accepted
  by_cases zero : sequence = 0
  · simp [zero] at accepted
  · rw [if_neg zero] at accepted
    cases expects : cursor.nextExpected with
    | none => simp [expects] at accepted
    | some expected =>
      have value := (checkedAdd_eq_some.mp expects).2
      by_cases same : sequence = expected
      · subst same
        exact ⟨rfl, value⟩
      · by_cases above : expected < sequence <;> simp [expects, same, above] at accepted

theorem observe_accept_advance : cursor.advance sequence = .ok ⟨sequence⟩ := by
  simp [advance, (observe_accept accepted).1]

theorem advanced_of_accept : cursor.advanced sequence = ⟨sequence⟩ := by
  simp [advanced, observe_accept_advance accepted]

end

end AckCursor

structure FrameIdentity where
  messageId : String
  sequence : Nat
  payloadDigest : String

def FrameIdentity.malformed (identity : FrameIdentity) : Bool :=
  identity.sequence == 0 || identity.messageId == "" || identity.payloadDigest == ""

structure StoredFrame where
  messageId : String
  sequence : Nat
  payloadDigest : String
  frame : List UInt8
deriving DecidableEq

def StoredFrame.identity (stored : StoredFrame) : FrameIdentity :=
  ⟨stored.messageId, stored.sequence, stored.payloadDigest⟩

structure CommandIdentity where
  (idempotencyKey payloadDigest : String)

inductive DedupVerdict where
  | new
  | duplicate
  | conflict
deriving DecidableEq

structure FrameKey where
  messageId : String
  sequence : Nat
deriving DecidableEq

def FrameIdentity.key (identity : FrameIdentity) : FrameKey :=
  ⟨identity.messageId, identity.sequence⟩

structure DedupRegister where
  frames : AList (fun _ : FrameKey => String)
  commands : AList (fun _ : String => String)

namespace DedupRegister

def new : DedupRegister := ⟨∅, ∅⟩

def compareDigest (recorded : Option String) (presented : String) : DedupVerdict :=
  match recorded with
  | none => .new
  | some digest => if digest = presented then .duplicate else .conflict

variable (register : DedupRegister) (identity : FrameIdentity)

def checkFrame : DedupVerdict :=
  compareDigest (register.frames.lookup identity.key) identity.payloadDigest

def recordFrame : DedupRegister :=
  { register with frames := register.frames.insert identity.key identity.payloadDigest }

def checkCommand (command : CommandIdentity) : DedupVerdict :=
  compareDigest (register.commands.lookup command.idempotencyKey) command.payloadDigest

def recordCommand (command : CommandIdentity) : DedupRegister :=
  { register with
    commands := register.commands.insert command.idempotencyKey command.payloadDigest }

/-- `HashMap::retain` on the frame keys, with the number of keys removed. -/
def compactFramesThrough (sequence : Nat) : DedupRegister × Nat :=
  let kept : AList (fun _ : FrameKey => String) :=
    ⟨register.frames.entries.filter (fun entry => sequence < entry.1.sequence),
      register.frames.nodupKeys.sublist List.filter_sublist⟩
  ({ register with frames := kept },
    register.frames.entries.length - kept.entries.length)

def record (command : Option CommandIdentity) : DedupRegister :=
  match command with
  | none => register.recordFrame identity
  | some command => (register.recordFrame identity).recordCommand command

end DedupRegister

inductive CommandOutcome where
  | fresh
  | idempotentReplay

inductive IngestDecision where
  | accepted (ackSequence : Nat) (command : CommandOutcome)
  | duplicate (ackSequence : Nat)
  | rejectedConflict (ackSequence : Nat)
  | rejectedMalformed (ackSequence : Nat)
  | gap (ackSequence replayFromSequence : Nat)
  | reacquireRequired (ackSequence : Nat)

namespace IngestDecision

def ackSequence : IngestDecision → Nat
  | accepted ack _ => ack
  | duplicate ack => ack
  | rejectedConflict ack => ack
  | rejectedMalformed ack => ack
  | gap ack _ => ack
  | reacquireRequired ack => ack

def isAccepted : IngestDecision → Bool
  | accepted _ _ => true
  | _ => false

end IngestDecision

structure InstanceTracker where
  current : Option String

inductive InstanceVerdict where
  | firstInstance
  | resumed
  | replaced (superseded : String)

def InstanceTracker.observe (tracker : InstanceTracker) (clientInstanceId : String) :
    InstanceTracker × InstanceVerdict :=
  match tracker.current with
  | none => (⟨some clientInstanceId⟩, .firstInstance)
  | some current =>
    if current = clientInstanceId then (⟨some current⟩, .resumed)
    else (⟨some clientInstanceId⟩, .replaced current)

structure InboundStream where
  instances : InstanceTracker
  ack : AckCursor
  dedup : DedupRegister
  instanceGuard : Bool

namespace InboundStream

def new : InboundStream :=
  { instances := ⟨none⟩, ack := .new, dedup := .new, instanceGuard := true }

def withInstance (instanceId : String) : InboundStream :=
  { new with instances := ⟨some instanceId⟩ }

variable (stream : InboundStream)

def withoutInstanceGuard : InboundStream :=
  { stream with instanceGuard := false }

variable (clientInstanceId : String) (identity : FrameIdentity) (command : Option CommandIdentity)

def observeInstance : InboundStream × InstanceVerdict :=
  let observed := stream.instances.observe clientInstanceId
  ({ stream with instances := observed.1 }, observed.2)

def ackSequence : Nat := stream.ack.ackSequence

def compactDedupThrough (sequence : Nat) : InboundStream × Nat :=
  let compacted := stream.dedup.compactFramesThrough sequence
  ({ stream with dedup := compacted.1 }, compacted.2)

/-- The instance guard: `none` asks the sender to reacquire, an unknown sender
becomes the current one. -/
def guardInstance : Option InboundStream :=
  if stream.instanceGuard then
    match stream.instances.current with
    | none => some (stream.observeInstance clientInstanceId).1
    | some current => if current ≠ clientInstanceId then none else some stream
  else some stream

/-- The outcome of the idempotency check, `none` on a conflicting payload. -/
def commandOutcome : Option CommandOutcome :=
  match command with
  | none => some .fresh
  | some command =>
    match stream.dedup.checkCommand command with
    | .conflict => none
    | .duplicate => some .idempotentReplay
    | .new => some .fresh

def accept : InboundStream × IngestDecision :=
  match stream.commandOutcome command with
  | none => (stream, .rejectedConflict stream.ackSequence)
  | some outcome =>
    if stream.dedup.checkFrame identity = .conflict then
      (stream, .rejectedConflict stream.ackSequence)
    else
      let settled := { stream with
        dedup := stream.dedup.record identity command
        ack := stream.ack.advanced identity.sequence }
      (settled, .accepted settled.ackSequence outcome)

def sequenced : InboundStream × IngestDecision :=
  match stream.ack.observe identity.sequence with
  | .zero => (stream, .rejectedMalformed stream.ackSequence)
  | .gap replayFromSequence => (stream, .gap stream.ackSequence replayFromSequence)
  | .duplicate =>
    match stream.dedup.checkFrame identity with
    | .conflict => (stream, .rejectedConflict stream.ackSequence)
    | .duplicate | .new => (stream, .duplicate stream.ackSequence)
  | .accept => stream.accept identity command

def ingest : InboundStream × IngestDecision :=
  if identity.malformed then (stream, .rejectedMalformed stream.ackSequence)
  else
    match stream.guardInstance clientInstanceId with
    | none => (stream, .reacquireRequired stream.ackSequence)
    | some guarded => guarded.sequenced identity command

end InboundStream

/-- What one ingest may do to the cursor: an accepted frame is the next one and
becomes the acknowledgement, every other answer leaves the acknowledgement. -/
structure Settles (stream : InboundStream) (identity : FrameIdentity)
    (result : InboundStream × IngestDecision) : Prop where
  next : result.2.isAccepted = true → identity.sequence = stream.ackSequence + 1
  moved : result.2.isAccepted = true → result.1.ackSequence = identity.sequence
  kept : result.2.isAccepted = false → result.1.ackSequence = stream.ackSequence
  reported : result.2.ackSequence = result.1.ackSequence

variable {clientInstanceId : String} {guarded stream : InboundStream}

namespace InboundStream

section
variable (stream : InboundStream) (identity : FrameIdentity)

theorem settles_refusal (decision : IngestDecision) (refused : decision.isAccepted = false)
    (reported : decision.ackSequence = stream.ackSequence) :
    Settles stream identity (stream, decision) :=
  ⟨by simp [refused], by simp [refused], fun _ => rfl, reported⟩

variable (command : Option CommandIdentity)

theorem accept_settles (observed : stream.ack.observe identity.sequence = .accept) :
    Settles stream identity (stream.accept identity command) := by
  unfold accept
  cases outcome : stream.commandOutcome command with
  | none => exact settles_refusal stream identity _ rfl rfl
  | some _ =>
    dsimp only
    split
    · exact settles_refusal stream identity _ rfl rfl
    · have cursor := AckCursor.advanced_of_accept observed
      exact ⟨fun _ => (AckCursor.observe_accept observed).2, fun _ => by
        simp [ackSequence, cursor], by simp [IngestDecision.isAccepted], rfl⟩

theorem sequenced_settles : Settles stream identity (stream.sequenced identity command) := by
  unfold sequenced
  cases observed : stream.ack.observe identity.sequence with
  | accept => exact accept_settles stream identity command observed
  | zero | gap _ => exact settles_refusal stream identity _ rfl rfl
  | duplicate =>
    cases checked : stream.dedup.checkFrame identity <;>
      exact settles_refusal stream identity _ rfl rfl

theorem sequenced_inert : (stream.sequenced identity command).1 = stream ∨
    (stream.sequenced identity command).2.isAccepted = true := by
  unfold sequenced
  split
  · exact .inl rfl
  · exact .inl rfl
  · split <;> exact .inl rfl
  · unfold accept
    split
    · exact .inl rfl
    · split
      · exact .inl rfl
      · exact .inr rfl

end

theorem guardInstance_eq (admitted : stream.guardInstance clientInstanceId = some guarded) :
    guarded = if stream.instanceGuard ∧ stream.instances.current = none
      then { stream with instances := ⟨some clientInstanceId⟩ } else stream := by
  unfold guardInstance observeInstance InstanceTracker.observe at admitted
  cases guards : stream.instanceGuard with
  | false => simpa [guards, eq_comm] using admitted
  | true =>
    cases current : stream.instances.current with
    | none => simpa [guards, current, eq_comm] using admitted
    | some known =>
      by_cases foreign : known ≠ clientInstanceId
      · simp [guards, current, foreign] at admitted
      · simpa [guards, current, foreign, eq_comm] using admitted

theorem ingest_settles (stream : InboundStream) (clientInstanceId : String)
    (identity : FrameIdentity) (command : Option CommandIdentity) :
    Settles stream identity (stream.ingest clientInstanceId identity command) := by
  unfold ingest
  split
  · exact settles_refusal stream identity _ rfl rfl
  · cases admitted : stream.guardInstance clientInstanceId with
    | none => exact settles_refusal stream identity _ rfl rfl
    | some guarded =>
      have same : guarded.ackSequence = stream.ackSequence := by
        rw [guardInstance_eq admitted]
        split <;> rfl
      have settled := sequenced_settles guarded identity command
      exact ⟨fun accepted => by rw [settled.next accepted, same], settled.moved,
        fun refused => by rw [settled.kept refused, same], settled.reported⟩

/-- A refused frame leaves the stream as it was, but for the sender: a guarded stream
that has none takes it from any well-formed frame. -/
theorem refused_inert (stream : InboundStream) (identity : FrameIdentity)
    (command : Option CommandIdentity) (clientInstanceId : String)
    (refused : (stream.ingest clientInstanceId identity command).2.isAccepted = false) :
    (stream.ingest clientInstanceId identity command).1 =
      if identity.malformed = false ∧ stream.instanceGuard = true ∧ stream.instances.current = none
      then { stream with instances := ⟨some clientInstanceId⟩ } else stream := by
  unfold ingest at refused ⊢
  cases malformed : identity.malformed with
  | true => rfl
  | false =>
    cases admitted : stream.guardInstance clientInstanceId with
    | none =>
      have bound : ¬ (stream.instanceGuard = true ∧ stream.instances.current = none) := by
        rintro ⟨guards, unbound⟩
        simp [guardInstance, guards, unbound] at admitted
      simp [bound]
    | some guarded =>
      simp only [malformed, admitted] at refused ⊢
      -- past the guard a refusal writes nothing, so only the bound sender remains
      have kept := (sequenced_inert guarded identity command).resolve_right (by simp_all)
      simpa [guardInstance_eq admitted] using kept

def gapFrame : FrameIdentity := ⟨"message", 2, "digest"⟩

theorem refused_inert_gap : (new.ingest "sender" gapFrame none).1 =
    { new with instances := ⟨some "sender"⟩ } :=
  refused_inert new gapFrame none "sender" rfl

theorem gap_binds_sender : (new.ingest "sender" gapFrame none).2.isAccepted = false ∧
      (new.ingest "sender" gapFrame none).1 ≠ new := by
  refine ⟨rfl, fun same => ?_⟩
  cases congrArg (·.instances.current) same

end InboundStream

end WinWinCode.Exchange
