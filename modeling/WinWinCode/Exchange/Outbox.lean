import WinWinCode.Foundation.Fallible
import WinWinCode.Exchange.Inbound

/-!
The sending half of the device exchange protocol, from `outbox.rs` of the client
port. A session is stateless: every operation loads the stored snapshot,
validates it and asks the store for one durable change. Stores are given by the
`FrameOutbox` and `CompactingOutbox` traits; `InMemoryOutbox` is the reference
store, whose error type is uninhabited. The `debug_assert` on the appended
position has no effect in the model.
-/

namespace WinWinCode.Exchange

open Counting Fallible List Option

structure OutboxSnapshot where
  ackSequence : Nat := 0
  highestSequence : Nat := 0
  frames : List StoredFrame := []
deriving DecidableEq

inductive OutboxStateError where
  | zeroSequence
  | emptyMessageId
  | emptyDigest
  | emptyFrame
  | duplicateMessageId (messageId : String)
  | nonContiguous (expected found : Nat)
  | highestMismatch (stored derived : Nat)
  | ackExceedsHighest (acknowledged highest : Nat)
  | sequenceOverflow

def StoredFrame.Shaped (frame : StoredFrame) : Prop :=
  frame.sequence ≠ 0 ∧ frame.messageId ≠ "" ∧ frame.payloadDigest ≠ "" ∧ frame.frame ≠ []

variable {frame : StoredFrame} {ackSequence : Nat}

namespace OutboxSnapshot

/-- The loop over the retained frames, with the position it expects next and the
message ids it has already seen. -/
def validateFrames : Nat → List String → List StoredFrame → Except OutboxStateError Unit
  | _, _, [] => .ok ()
  | expected, messageIds, frame :: rest => do
    refuse (frame.sequence = 0) .zeroSequence
    refuse (frame.messageId = "") .emptyMessageId
    refuse (frame.payloadDigest = "") .emptyDigest
    refuse (frame.frame = []) .emptyFrame
    refuse (frame.messageId ∈ messageIds) (.duplicateMessageId frame.messageId)
    refuse (frame.sequence ≠ expected) (.nonContiguous expected frame.sequence)
    let next ← okOr (checkedAdd expected 1) .sequenceOverflow
    validateFrames next (frame.messageId :: messageIds) rest

variable (snapshot : OutboxSnapshot)

def firstSequence : Nat :=
  (snapshot.frames.head?.map (·.sequence)).getD 1

def derivedHighest : Nat :=
  (snapshot.frames.getLast?.map (·.sequence)).getD snapshot.ackSequence

def validate : Except OutboxStateError Unit := do
  refuse (snapshot.highestSequence < snapshot.ackSequence)
    (.ackExceedsHighest snapshot.ackSequence snapshot.highestSequence)
  validateFrames snapshot.firstSequence [] snapshot.frames
  refuse ((checkedAdd snapshot.ackSequence 1).any (· < snapshot.firstSequence))
    (.nonContiguous (saturatingAdd snapshot.ackSequence 1) snapshot.firstSequence)
  refuse (snapshot.highestSequence ≠ snapshot.derivedHighest)
    (.highestMismatch snapshot.highestSequence snapshot.derivedHighest)

theorem validateFrames_eq_ok {first : Nat} {messageIds : List String} {frames : List StoredFrame}
    {done : Unit} :
    validateFrames first messageIds frames = .ok done ↔ (∀ frame ∈ frames, frame.Shaped) ∧
      (∀ frame ∈ frames, frame.messageId ∉ messageIds) ∧ (frames.map (·.messageId)).Nodup ∧
      Numbered StoredFrame.sequence first frames ∧
      (frames ≠ [] → first + frames.length < wordLimit) := by
  induction frames generalizing first messageIds with
  | nil => simp [validateFrames, Numbered]
  | cons frame rest ih =>
    simp only [validateFrames, eq_ok, checkedAdd_eq_some, ih, forall_eq_or_imp, map_cons,
      nodup_cons, Numbered, length_cons, mem_cons, not_or, not_not]
    constructor
    · rintro ⟨_, position, _, message, _, digest, _, body, _, fresh, _, same, _, ⟨room, rfl⟩,
        shaped, others, distinct, numbered, fits⟩
      refine ⟨⟨⟨position, message, digest, body⟩, shaped⟩, ⟨fresh, fun other among =>
        (others other among).2⟩, ⟨?_, distinct⟩, ⟨same, numbered⟩, fun _ => ?_⟩
      · intro repeated
        obtain ⟨other, among, equal⟩ := mem_map.mp repeated
        exact (others other among).1 equal
      · cases rest with
        | nil => exact room
        | cons head tail =>
          have := fits (cons_ne_nil head tail)
          omega
    · rintro ⟨⟨⟨position, message, digest, body⟩, shaped⟩, ⟨fresh, others⟩, ⟨apart, distinct⟩,
        ⟨same, numbered⟩, fits⟩
      have room := fits (cons_ne_nil frame rest)
      refine ⟨(), position, (), message, (), digest, (), body, (), fresh, (), same, first + 1,
        ⟨by omega, rfl⟩, shaped, ?_, distinct, numbered, fun _ => by omega⟩
      intro other among
      exact ⟨fun equal => apart (mem_map.mpr ⟨other, among, equal⟩), others other among⟩

/-- What `validate` accepts. An empty outbox counts as starting after its highest
position. -/
structure Consecutive (snapshot : OutboxSnapshot) (first : Nat) : Prop where
  shaped : ∀ frame ∈ snapshot.frames, frame.Shaped
  distinct : (snapshot.frames.map (·.messageId)).Nodup
  numbered : Numbered StoredFrame.sequence first snapshot.frames
  follows : snapshot.highestSequence + 1 = first + snapshot.frames.length
  settled : snapshot.ackSequence ≤ snapshot.highestSequence
  room : snapshot.frames ≠ [] → snapshot.highestSequence + 1 < wordLimit
  opened : snapshot.frames = [] ∨ snapshot.ackSequence + 1 < wordLimit →
    first ≤ snapshot.ackSequence + 1

variable {snapshot} in
theorem validate_eq_ok : snapshot.validate = .ok () ↔ ∃ first, Consecutive snapshot first := by
  -- at the last position the check of the first frame is skipped
  have started : ¬ (checkedAdd snapshot.ackSequence 1).any (· < snapshot.firstSequence) = true ↔
      (snapshot.ackSequence + 1 < wordLimit →
        snapshot.firstSequence ≤ snapshot.ackSequence + 1) := by
    unfold checkedAdd
    split <;> simp [*]
  simp only [validate, eq_ok, validateFrames_eq_ok, started, not_lt, not_not]
  cases kept : snapshot.frames with
  | nil =>
    simp only [firstSequence, derivedHighest, kept]
    constructor
    · rintro ⟨_, settled, _, _, _, _, highest⟩
      have same : snapshot.highestSequence = snapshot.ackSequence := highest
      refine ⟨snapshot.highestSequence + 1, ?_, ?_, ?_, ?_, settled, ?_, ?_⟩
      all_goals simp [kept, same, Numbered]
    · rintro ⟨_, valid⟩
      have follows := valid.follows
      have opened := valid.opened (.inl kept)
      rw [kept, length_nil] at follows
      refine ⟨(), valid.settled, (), by simp [Numbered], (), fun _ => by simp, ?_⟩
      have settled := valid.settled
      change snapshot.highestSequence = snapshot.ackSequence
      omega
  | cons head tail =>
    have last := getLast?_eq_some_getLast (cons_ne_nil head tail)
    simp only [firstSequence, derivedHighest, kept, last, head?_cons, map_some, getD_some]
    constructor
    · rintro ⟨_, settled, _, ⟨shaped, _, distinct, numbered, room⟩, _, opened, highest⟩
      have follows := numbered_getLast? StoredFrame.sequence numbered last
      have fits := room (cons_ne_nil head tail)
      refine ⟨head.sequence, kept ▸ shaped, kept ▸ distinct, kept ▸ numbered, ?_, settled, ?_, ?_⟩
      · rw [kept, highest, follows]
      · intro _
        rwa [highest, follows]
      · exact fun early => opened (early.resolve_left (by simp [kept]))
    · rintro ⟨_, valid⟩
      have numbered := valid.numbered
      have follows := valid.follows
      have room := valid.room (by simp [kept])
      rw [kept] at numbered follows
      have ends := numbered_getLast? StoredFrame.sequence numbered last
      rw [numbered.1]
      refine ⟨(), valid.settled, (), ⟨kept ▸ valid.shaped, fun _ _ => not_mem_nil,
        kept ▸ valid.distinct, numbered, fun _ => by omega⟩, (), ?_, by omega⟩
      exact fun fits => valid.opened (.inr fits)

variable {snapshot} {first : Nat}

section
variable (valid : Consecutive snapshot first)
include valid

theorem Consecutive.acknowledge (behind : ackSequence ≤ snapshot.highestSequence)
    (ahead : snapshot.ackSequence ≤ ackSequence) :
    Consecutive { snapshot with ackSequence := ackSequence } first :=
  { valid with
    settled := behind
    opened := fun early => by
      have := valid.opened (early.imp_right fun room => by simp only at room; omega)
      simp only
      omega }

theorem Consecutive.enqueue (shaped : frame.Shaped)
    (next : frame.sequence = snapshot.highestSequence + 1)
    (fresh : ∀ old ∈ snapshot.frames, old.messageId ≠ frame.messageId)
    (room : frame.sequence + 1 < wordLimit) :
    Consecutive ⟨snapshot.ackSequence, frame.sequence, snapshot.frames ++ [frame]⟩ first where
  shaped := forall_mem_append.mpr ⟨valid.shaped, forall_mem_singleton.mpr shaped⟩
  distinct := by
    rw [map_append, nodup_append]
    refine ⟨valid.distinct, nodup_singleton _, ?_⟩
    intro _ member _ among same
    obtain ⟨frame, present, rfl⟩ := mem_map.mp member
    exact fresh frame present (same.trans (mem_singleton.mp among))
  numbered := numbered_concat _ valid.numbered (next.trans valid.follows)
  follows := by
    have := valid.follows
    rw [length_append, length_singleton]
    simp only
    omega
  settled := by
    have := valid.settled
    simp only
    omega
  room _ := room
  opened early := valid.opened (.inr (early.resolve_left (by simp)))

theorem Consecutive.compact :
    Consecutive { snapshot with frames := snapshot.frames.filter fun frame =>
        snapshot.ackSequence < frame.sequence }
      (first + (snapshot.ackSequence + 1 - first)) := by
  rw [numbered_filter_above StoredFrame.sequence valid.numbered]
  have settled := valid.settled
  have follows := valid.follows
  constructor
  · exact fun frame member => valid.shaped frame (mem_of_mem_drop member)
  · exact valid.distinct.sublist ((drop_sublist _ _).map _)
  · exact numbered_drop _ valid.numbered _
  · rw [length_drop]
    simp only
    omega
  · exact settled
  · exact fun kept => valid.room fun empty => kept (by simp [empty])
  · -- the first frame left follows the acknowledgement, unless none was there to drop
    intro early
    by_cases empty : snapshot.frames = []
    · have := valid.opened (.inl empty)
      simp only
      omega
    · rcases early with gone | room
      · have := drop_eq_nil_iff.mp gone
        have := length_pos_iff.mpr empty
        simp only
        omega
      · have := valid.opened (.inr room)
        simp only
        omega

end

end OutboxSnapshot

class FrameOutbox (Store : Type) (StoreError : outParam Type) where
  load : Store → Except StoreError (Option OutboxSnapshot)
  append : Store → (expectedHighestSequence : Nat) → StoredFrame → Except StoreError Store
  recordAcknowledgement : Store → (expectedAckSequence ackSequence : Nat) →
    Except StoreError Store

class CompactingOutbox (Store : Type) (StoreError : outParam Type) extends
    FrameOutbox Store StoreError where
  compactThrough : Store → (ackSequence : Nat) → Except StoreError (Store × Nat)

inductive OutboxInputError where
  | emptyMessageId
  | zeroSequence
  | emptyDigest
  | emptyFrame
  | duplicateMessageId (messageId : String)
  | zeroMaxFrames

inductive OutboxError (StoreError : Type) where
  | store (error : StoreError)
  | invalidInput (error : OutboxInputError)
  | corruptState (error : OutboxStateError)
  | sequenceMismatch (expected found : Nat)
  | sequenceExhausted
  | cursorAhead (requested highest : Nat)
  | ackAhead (requested highest : Nat)
  | ackRegression (requested acknowledged : Nat)

structure OutboxBatch where
  (ackSequence highestSequence : Nat)
  frames : List StoredFrame

def validateFrameShape (frame : StoredFrame) : Except OutboxInputError Unit := do
  refuse (frame.sequence = 0) .zeroSequence
  refuse (frame.messageId = "") .emptyMessageId
  refuse (frame.payloadDigest = "") .emptyDigest
  refuse (frame.frame = []) .emptyFrame

theorem validateFrameShape_eq_ok {done : Unit} :
    validateFrameShape frame = .ok done ↔ frame.Shaped := by
  simp [validateFrameShape, eq_ok, StoredFrame.Shaped]

namespace OutboxSession

section Session
variable {Store StoreError : Type}

def snapshotOf [FrameOutbox Store StoreError] (store : Store) :
    Except (OutboxError StoreError) OutboxSnapshot := do
  let loaded ← (FrameOutbox.load store).mapError .store
  let snapshot := loaded.getD {}
  snapshot.validate.mapError .corruptState
  return snapshot

def enqueue [FrameOutbox Store StoreError] (store : Store) (expectedNextSequence : Nat)
    (frame : StoredFrame) : Except (OutboxError StoreError) (Store × Nat) := do
  (validateFrameShape frame).mapError .invalidInput
  refuse (frame.sequence ≠ expectedNextSequence)
    (.sequenceMismatch expectedNextSequence frame.sequence)
  let snapshot ← snapshotOf store
  let streamExpected ← okOr (checkedAdd snapshot.highestSequence 1) .sequenceExhausted
  refuse (frame.sequence ≠ streamExpected) (.sequenceMismatch streamExpected frame.sequence)
  refuse (snapshot.frames.any (·.messageId == frame.messageId))
    (.invalidInput (.duplicateMessageId frame.messageId))
  let appended ← (FrameOutbox.append store (frame.sequence - 1) frame).mapError .store
  return (appended, frame.sequence)

def deliverable [FrameOutbox Store StoreError] (store : Store) (afterSequence maxFrames : Nat) :
    Except (OutboxError StoreError) OutboxBatch := do
  refuse (maxFrames = 0) (.invalidInput .zeroMaxFrames)
  let snapshot ← snapshotOf store
  refuse (snapshot.highestSequence < afterSequence)
    (.cursorAhead afterSequence snapshot.highestSequence)
  return {
    ackSequence := snapshot.ackSequence
    highestSequence := snapshot.highestSequence
    frames := (snapshot.frames.filter (fun frame => afterSequence < frame.sequence)).take
      maxFrames }

def acknowledge [FrameOutbox Store StoreError] (store : Store) (ackSequence : Nat) :
    Except (OutboxError StoreError) (Store × Nat) := do
  let snapshot ← snapshotOf store
  refuse (snapshot.highestSequence < ackSequence)
    (.ackAhead ackSequence snapshot.highestSequence)
  refuse (ackSequence < snapshot.ackSequence)
    (.ackRegression ackSequence snapshot.ackSequence)
  if ackSequence = snapshot.ackSequence then return (store, ackSequence) else
    let recorded ← (FrameOutbox.recordAcknowledgement store snapshot.ackSequence
      ackSequence).mapError .store
    return (recorded, ackSequence)

def compactConfirmed [CompactingOutbox Store StoreError] (store : Store) :
    Except (OutboxError StoreError) (Store × Nat) := do
  let snapshot ← snapshotOf store
  (CompactingOutbox.compactThrough store snapshot.ackSequence).mapError .store

end Session

end OutboxSession

structure InMemoryOutbox where
  state : Option OutboxSnapshot := none

namespace InMemoryOutbox

def new : InMemoryOutbox := {}

def fromSnapshot (snapshot : OutboxSnapshot) : InMemoryOutbox := ⟨some snapshot⟩

variable (outbox : InMemoryOutbox)

/-- `load().unwrap_or_default()`: an outbox never written to is an empty stream. -/
def contents : OutboxSnapshot := outbox.state.getD {}

def append (frame : StoredFrame) : InMemoryOutbox :=
  let state := outbox.contents
  ⟨some { state with frames := state.frames ++ [frame], highestSequence := frame.sequence }⟩

def recordAcknowledgement (ackSequence : Nat) : InMemoryOutbox :=
  ⟨outbox.state.map fun state => { state with ackSequence := ackSequence }⟩

def compactThrough (ackSequence : Nat) : InMemoryOutbox × Nat :=
  match outbox.state with
  | none => (outbox, 0)
  | some state =>
    let kept := state.frames.filter (fun frame => ackSequence < frame.sequence)
    (⟨some { state with frames := kept }⟩, state.frames.length - kept.length)

instance : CompactingOutbox InMemoryOutbox Empty where
  load outbox := .ok outbox.state
  append outbox _ frame := .ok (outbox.append frame)
  recordAcknowledgement outbox _ ackSequence := .ok (outbox.recordAcknowledgement ackSequence)
  compactThrough outbox ackSequence := .ok (outbox.compactThrough ackSequence)

variable {outbox : InMemoryOutbox}

theorem snapshotOf_ok {snapshot : OutboxSnapshot}
    (loaded : OutboxSession.snapshotOf outbox = .ok snapshot) : snapshot = outbox.contents := by
  simp only [OutboxSession.snapshotOf, eq_ok, mapError_eq_ok] at loaded
  obtain ⟨_, read, _, _, loaded⟩ := loaded
  cases read
  cases loaded
  rfl

variable {next : InMemoryOutbox}

theorem enqueue_ok {expected sequence : Nat}
    (done : OutboxSession.enqueue outbox expected frame = .ok (next, sequence)) :
    frame.sequence = outbox.contents.highestSequence + 1 ∧ next = outbox.append frame ∧
      frame.Shaped ∧ ∀ old ∈ outbox.contents.frames, old.messageId ≠ frame.messageId := by
  simp only [OutboxSession.enqueue, eq_ok, mapError_eq_ok, checkedAdd_eq_some,
    validateFrameShape_eq_ok, not_not] at done
  obtain ⟨_, shaped, _, _, _, loaded, _, ⟨_, successor⟩, _, position, _, fresh, _,
    written, done⟩ := done
  rw [snapshotOf_ok loaded] at successor fresh
  cases written
  cases done
  exact ⟨by rw [position, successor], rfl, shaped, by simpa using fresh⟩

theorem deliverable_ok {afterSequence maxFrames : Nat} {batch : OutboxBatch}
    (done : OutboxSession.deliverable outbox afterSequence maxFrames = .ok batch) :
    batch.frames ⊆ outbox.contents.frames := by
  obtain ⟨_, _, done⟩ := bind_eq_ok.mp done
  obtain ⟨_, loaded, done⟩ := bind_eq_ok.mp done
  obtain ⟨_, _, done⟩ := bind_eq_ok.mp done
  rw [← Except.ok.inj done, ← snapshotOf_ok loaded]
  exact ((take_sublist _ _).trans filter_sublist).subset

/-- A successful acknowledgement moves the cursor forward, never past the highest
assigned position, and changes nothing else. -/
theorem acknowledge_ok {answer : Nat}
    (done : OutboxSession.acknowledge outbox ackSequence = .ok (next, answer)) :
    ackSequence ≤ outbox.contents.highestSequence ∧ outbox.contents.ackSequence ≤ ackSequence ∧
      next.contents = { outbox.contents with ackSequence := ackSequence } := by
  obtain ⟨_, loaded, done⟩ := bind_eq_ok.mp done
  obtain ⟨_, notAhead, done⟩ := bind_eq_ok.mp done
  obtain ⟨_, notBehind, done⟩ := bind_eq_ok.mp done
  rw [refuse_eq_ok, snapshotOf_ok loaded, not_lt] at notAhead notBehind
  refine ⟨notAhead, notBehind, ?_⟩
  rw [snapshotOf_ok loaded] at done
  by_cases same : ackSequence = outbox.contents.ackSequence
  · rw [if_pos same] at done
    rw [← (Prod.mk.inj (Except.ok.inj done)).1, same]
  · rw [if_neg same] at done
    obtain ⟨recorded, written, done⟩ := bind_eq_ok.mp done
    rw [mapError_eq_ok] at written
    have stored : outbox.recordAcknowledgement ackSequence = recorded := Except.ok.inj written
    rw [← (Prod.mk.inj (Except.ok.inj done)).1, ← stored]
    cases state : outbox.state with
    | some _ => simp [contents, recordAcknowledgement, state]
    | none =>
      -- an unwritten outbox has nothing to acknowledge, so only the zero replay succeeds
      simp only [contents, state, getD_none] at notAhead same
      omega

theorem compactConfirmed_ok {removed : Nat}
    (done : OutboxSession.compactConfirmed outbox = .ok (next, removed)) :
    next.contents = { outbox.contents with
      frames := outbox.contents.frames.filter
        (outbox.contents.ackSequence < ·.sequence) } := by
  obtain ⟨_, loaded, done⟩ := bind_eq_ok.mp done
  rw [mapError_eq_ok, snapshotOf_ok loaded] at done
  have stored := Except.ok.inj done
  rw [show next = (outbox.compactThrough outbox.contents.ackSequence).1 by rw [stored]]
  cases state : outbox.state <;> simp [contents, compactThrough, state]

/-- A successful operation leaves a snapshot that is accepted again, except that an enqueued
frame must not take the last position. -/
theorem snapshot_stays_valid (snapshot : OutboxSnapshot) (valid : snapshot.validate = .ok ()) :
    (∀ expected frame next sequence,
      OutboxSession.enqueue (fromSnapshot snapshot) expected frame = .ok (next, sequence) →
      (next.contents.validate = .ok () ↔ frame.sequence + 1 < wordLimit)) ∧
    (∀ ackSequence next answer,
      OutboxSession.acknowledge (fromSnapshot snapshot) ackSequence = .ok (next, answer) →
      next.contents.validate = .ok ()) ∧
    ∀ next removed, OutboxSession.compactConfirmed (fromSnapshot snapshot) = .ok (next, removed) →
      next.contents.validate = .ok () := by
  obtain ⟨first, valid⟩ := OutboxSnapshot.validate_eq_ok.mp valid
  simp only [OutboxSnapshot.validate_eq_ok]
  refine ⟨fun expected frame next sequence done => ?_, fun ackSequence next answer done => ?_,
    fun next removed done => ?_⟩
  · obtain ⟨position, rfl, shaped, fresh⟩ := enqueue_ok done
    refine ⟨?_, fun room => ⟨first, valid.enqueue shaped position fresh room⟩⟩
    rintro ⟨_, kept⟩
    exact kept.room (append_ne_nil_of_right_ne_nil _ (cons_ne_nil frame []))
  · obtain ⟨behind, ahead, same⟩ := acknowledge_ok done
    exact ⟨first, same ▸ valid.acknowledge behind ahead⟩
  · exact ⟨_, compactConfirmed_ok done ▸ valid.compact⟩

def frameAt (sequence : Nat) : StoredFrame := ⟨"message", sequence, "digest", [0]⟩

theorem snapshot_stays_valid_first :
    ((fromSnapshot {}).append (frameAt 1)).contents.validate = .ok () :=
  ((snapshot_stays_valid {} rfl).1 1 (frameAt 1) _ 1 rfl).mpr (by decide)

def exhausted : OutboxSnapshot := { ackSequence := wordLimit - 2, highestSequence := wordLimit - 2 }

theorem last_position_corrupts : exhausted.validate = .ok () ∧
      let next := (fromSnapshot exhausted).append (frameAt (wordLimit - 1))
      OutboxSession.enqueue (fromSnapshot exhausted) (wordLimit - 1) (frameAt (wordLimit - 1)) =
        .ok (next, wordLimit - 1) ∧ next.contents.validate = .error .sequenceOverflow :=
  ⟨rfl, rfl, rfl⟩

end InMemoryOutbox

end WinWinCode.Exchange
