import WinWinCode.Foundation.Runs
import WinWinCode.Exchange.Outbox

/-!
One direction of the exchange as a system: an outbox session over an in-memory
store, an inbound stream that trusts one sender instance, and a network that
keeps every frame and every acknowledgement number it was ever handed. An event
that takes something from the network may take any of it at any time and any
number of times, so loss, duplication, delay and reordering are choices of the
event list. An event whose operation fails leaves the system as it is.

Every append is durable before the frame can be sent. The weaker writes of an
acknowledgement and of a compaction may or may not have reached the disk when
the sender stops, so a restart resumes from any snapshot written since the last
append.
-/

namespace WinWinCode.Exchange.Delivery

open Counting Fallible List InMemoryOutbox

structure Link where
  outbox : InMemoryOutbox
  stream : InboundStream
  /-- Snapshots on disk a restart may find. -/
  persisted : List OutboxSnapshot
  /-- Frames and acknowledgement numbers the network may still deliver. -/
  framesSent : List StoredFrame
  acksSent : List Nat
  /-- The frames enqueued and the frames accepted so far, in order. -/
  (enqueued accepted : List StoredFrame)

inductive LinkEvent where
  | enqueue (expectedNextSequence : Nat) (frame : StoredFrame)
  | deliver (afterSequence maxFrames : Nat)
  | acknowledge (ackSequence : Nat)
  | compactConfirmed
  | restart (snapshot : OutboxSnapshot)
  | ingest (frame : StoredFrame)
  | compactDedupThrough (sequence : Nat)

namespace Link

variable (instanceId : String) (link : Link)

def start : Link where
  outbox := .new
  stream := .withInstance instanceId
  persisted := [{}]
  framesSent := []
  acksSent := []
  enqueued := []
  accepted := []

def enqueue (expectedNextSequence : Nat) (frame : StoredFrame) : Link :=
  match OutboxSession.enqueue link.outbox expectedNextSequence frame with
  | .error _ => link
  | .ok (outbox, _) =>
    { link with
      outbox := outbox
      persisted := [outbox.contents]
      enqueued := link.enqueued ++ [frame] }

def deliver (afterSequence maxFrames : Nat) : Link :=
  match OutboxSession.deliverable link.outbox afterSequence maxFrames with
  | .error _ => link
  | .ok batch => { link with framesSent := link.framesSent ++ batch.frames }

def written (result : Except (OutboxError Empty) (InMemoryOutbox × Nat)) : Link :=
  match result with
  | .error _ => link
  | .ok (outbox, _) =>
    { link with outbox := outbox, persisted := outbox.contents :: link.persisted }

def acknowledge (ackSequence : Nat) : Link :=
  if ackSequence ∈ link.acksSent then
    link.written (OutboxSession.acknowledge link.outbox ackSequence)
  else link

def compactConfirmed : Link :=
  link.written (OutboxSession.compactConfirmed link.outbox)

def restart (snapshot : OutboxSnapshot) : Link :=
  if snapshot ∈ link.persisted then { link with outbox := .fromSnapshot snapshot } else link

def ingest (frame : StoredFrame) : Link :=
  if frame ∈ link.framesSent then
    let result := link.stream.ingest instanceId frame.identity none
    { link with
      stream := result.1
      acksSent := result.2.ackSequence :: link.acksSent
      accepted := if result.2.isAccepted then link.accepted ++ [frame] else link.accepted }
  else link

def step : LinkEvent → Link
  | .enqueue expectedNextSequence frame => link.enqueue expectedNextSequence frame
  | .deliver afterSequence maxFrames => link.deliver afterSequence maxFrames
  | .acknowledge ackSequence => link.acknowledge ackSequence
  | .compactConfirmed => link.compactConfirmed
  | .restart snapshot => link.restart snapshot
  | .ingest frame => link.ingest instanceId frame
  | .compactDedupThrough sequence =>
    { link with stream := (link.stream.compactDedupThrough sequence).1 }

def run (events : List LinkEvent) : Link :=
  Runs.after (step instanceId) (start instanceId) events

end Link

/-- A stored snapshot of the stream `enqueued`, of which the receiver has settled
the first `settled` frames: only frames the receiver has settled are gone. -/
structure Covers (enqueued : List StoredFrame) (settled : Nat)
    (snapshot : OutboxSnapshot) : Prop where
  highest : snapshot.highestSequence = enqueued.length
  acknowledged : snapshot.ackSequence ≤ settled
  retained : ∃ compacted, compacted ≤ snapshot.ackSequence ∧
    snapshot.frames = enqueued.drop compacted

structure Sound (link : Link) : Prop where
  numbered : Numbered StoredFrame.sequence 1 link.enqueued
  settled : link.stream.ackSequence ≤ link.enqueued.length
  accepted : link.accepted = link.enqueued.take link.stream.ackSequence
  outbox : Covers link.enqueued link.stream.ackSequence link.outbox.contents
  persisted : ∀ snapshot ∈ link.persisted,
    Covers link.enqueued link.stream.ackSequence snapshot
  frames : link.framesSent ⊆ link.enqueued
  acks : ∀ ackSequence ∈ link.acksSent, ackSequence ≤ link.stream.ackSequence

variable {enqueued : List StoredFrame} {link : Link} {settled : Nat} {snapshot : OutboxSnapshot}

theorem Covers.mono {later : Nat} (covers : Covers enqueued settled snapshot)
    (grows : settled ≤ later) : Covers enqueued later snapshot :=
  ⟨covers.highest, covers.acknowledged.trans grows, covers.retained⟩

variable {frame : StoredFrame}

theorem Covers.append {outbox : InMemoryOutbox} (covers : Covers enqueued settled outbox.contents)
    (within : settled ≤ enqueued.length)
    (position : frame.sequence = outbox.contents.highestSequence + 1) :
    Covers (enqueued ++ [frame]) settled (outbox.append frame).contents := by
  obtain ⟨highest, acknowledged, compacted, below, frames⟩ := covers
  constructor
  · simp [InMemoryOutbox.append, InMemoryOutbox.contents] at position highest ⊢
    omega
  · exact acknowledged
  · refine ⟨compacted, below, ?_⟩
    rw [drop_append_of_le_length (by omega), ← frames]
    rfl

theorem Covers.compact (numbered : Numbered StoredFrame.sequence 1 enqueued)
    (covers : Covers enqueued settled snapshot) : Covers enqueued settled { snapshot with
      frames := snapshot.frames.filter (snapshot.ackSequence < ·.sequence) } := by
  obtain ⟨highest, acknowledged, compacted, _, frames⟩ := covers
  refine ⟨highest, acknowledged, snapshot.ackSequence, le_refl _, ?_⟩
  have cut := numbered_filter_above StoredFrame.sequence
    (numbered_drop StoredFrame.sequence numbered compacted) snapshot.ackSequence
  dsimp only
  rw [frames, cut, drop_drop]
  congr 1
  omega

theorem start_sound (instanceId : String) : Sound (Link.start instanceId) := by
  have empty : Covers [] 0 {} := ⟨rfl, le_refl 0, 0, le_refl 0, rfl⟩
  refine ⟨trivial, le_refl 0, rfl, empty, ?_, nil_subset _, ?_⟩
  · intro _ member
    rw [mem_singleton.mp member]
    exact empty
  · intro _ member
    cases member

section
variable (sound : Sound link)
include sound

theorem enqueue_sound (expected : Nat) (frame : StoredFrame) :
    Sound (link.enqueue expected frame) := by
  unfold Link.enqueue
  cases done : OutboxSession.enqueue link.outbox expected frame with
  | error _ => exact sound
  | ok _ =>
    obtain ⟨position, next, _⟩ := enqueue_ok done
    have covers := sound.outbox.append sound.settled position
    rw [← next] at covers
    have follows : frame.sequence = 1 + link.enqueued.length := by
      rw [position, sound.outbox.highest, add_comm]
    constructor
    · exact numbered_concat _ sound.numbered follows
    · have bound := sound.settled
      simp only [length_append, length_singleton]
      omega
    · rw [sound.accepted]
      exact (take_append_of_le_length sound.settled).symm
    · exact covers
    · intro _ member
      rw [mem_singleton.mp member]
      exact covers
    · exact List.Subset.trans sound.frames (subset_append_left _ _)
    · exact sound.acks

theorem deliver_sound (afterSequence maxFrames : Nat) :
    Sound (link.deliver afterSequence maxFrames) := by
  unfold Link.deliver
  cases done : OutboxSession.deliverable link.outbox afterSequence maxFrames with
  | error _ => exact sound
  | ok batch =>
    obtain ⟨_, _, frames⟩ := sound.outbox.retained
    have sent : batch.frames ⊆ link.enqueued := by
      intro _ member
      have kept := deliverable_ok done member
      rw [frames] at kept
      exact mem_of_mem_drop kept
    exact { sound with frames := append_subset.mpr ⟨sound.frames, sent⟩ }

theorem written_sound {result : Except (OutboxError Empty) (InMemoryOutbox × Nat)}
    (covers : ∀ outbox answer, result = .ok (outbox, answer) →
      Covers link.enqueued link.stream.ackSequence outbox.contents) :
    Sound (link.written result) := by
  cases result with
  | error _ => exact sound
  | ok success =>
    have stored := covers success.1 success.2 rfl
    exact { sound with
      outbox := stored
      persisted := forall_mem_cons.mpr ⟨stored, sound.persisted⟩ }

theorem acknowledge_sound (ackSequence : Nat) : Sound (link.acknowledge ackSequence) := by
  unfold Link.acknowledge
  by_cases arrived : ackSequence ∈ link.acksSent
  · rw [if_pos arrived]
    apply written_sound sound
    intro outbox _ done
    obtain ⟨_, forward, contents⟩ := acknowledge_ok done
    obtain ⟨compacted, below, frames⟩ := sound.outbox.retained
    rw [contents]
    exact ⟨sound.outbox.highest, sound.acks ackSequence arrived,
      compacted, below.trans forward, frames⟩
  · rw [if_neg arrived]
    exact sound

theorem compactConfirmed_sound : Sound link.compactConfirmed := by
  apply written_sound sound
  intro outbox _ done
  rw [compactConfirmed_ok done]
  exact sound.outbox.compact sound.numbered

theorem restart_sound (snapshot : OutboxSnapshot) : Sound (link.restart snapshot) := by
  unfold Link.restart
  by_cases found : snapshot ∈ link.persisted
  · rw [if_pos found]
    exact { sound with outbox := sound.persisted snapshot found }
  · rw [if_neg found]
    exact sound

end

theorem take_settled (numbered : Numbered StoredFrame.sequence 1 enqueued)
    (member : frame ∈ enqueued) (next : frame.sequence = settled + 1) :
    settled < enqueued.length ∧ enqueued.take (settled + 1) = enqueued.take settled ++ [frame] := by
  obtain ⟨position, _, found⟩ := numbered_position StoredFrame.sequence numbered member
  have same : position = settled := by omega
  subst same
  obtain ⟨inside, _⟩ := List.getElem?_eq_some_iff.mp found
  exact ⟨inside, by rw [List.take_add_one, found]; rfl⟩

theorem ingest_sound (sound : Sound link) (instanceId : String) (frame : StoredFrame) :
    Sound (link.ingest instanceId frame) := by
  unfold Link.ingest
  by_cases arrived : frame ∈ link.framesSent
  · rw [if_pos arrived]
    have settles := link.stream.ingest_settles instanceId frame.identity none
    cases verdict : (link.stream.ingest instanceId frame.identity none).2.isAccepted with
    | false =>
      have kept := settles.kept verdict
      refine { sound with settled := ?_, accepted := ?_, outbox := ?_, persisted := ?_, acks := ?_ }
      · exact kept.le.trans sound.settled
      · simp only [verdict, Bool.false_eq_true, if_false, kept]
        exact sound.accepted
      · exact sound.outbox.mono kept.ge
      · exact fun snapshot member => (sound.persisted snapshot member).mono kept.ge
      · simp only [mem_cons, forall_eq_or_imp, settles.reported, kept, le_refl, true_and]
        exact sound.acks
    | true =>
      -- the accepted frame is an enqueued one, so it is the one at the cursor
      have next : frame.sequence = link.stream.ackSequence + 1 := settles.next verdict
      have moved := settles.moved verdict
      rw [show frame.identity.sequence = frame.sequence from rfl, next] at moved
      obtain ⟨_, extended⟩ := take_settled sound.numbered (sound.frames arrived) next
      have grows : link.stream.ackSequence ≤
          (link.stream.ingest instanceId frame.identity none).1.ackSequence := by omega
      refine { sound with settled := ?_, accepted := ?_, outbox := ?_, persisted := ?_, acks := ?_ }
      · dsimp only
        omega
      · simp only [verdict, if_true, moved]
        rw [extended, sound.accepted]
      · exact sound.outbox.mono grows
      · exact fun snapshot member => (sound.persisted snapshot member).mono grows
      · simp only [mem_cons, forall_eq_or_imp, settles.reported, le_refl, true_and]
        exact fun ackSequence member => (sound.acks ackSequence member).trans grows
  · rw [if_neg arrived]
    exact sound

theorem step_sound (instanceId : String) (link : Link) (event : LinkEvent)
    (sound : Sound link) : Sound (link.step instanceId event) := by
  cases event with
  | enqueue expected frame => exact enqueue_sound sound expected frame
  | deliver afterSequence maxFrames => exact deliver_sound sound afterSequence maxFrames
  | acknowledge ackSequence => exact acknowledge_sound sound ackSequence
  | compactConfirmed => exact compactConfirmed_sound sound
  | restart snapshot => exact restart_sound sound snapshot
  | ingest frame => exact ingest_sound sound instanceId frame
  | compactDedupThrough _ => exact ⟨sound.numbered, sound.settled, sound.accepted,
      sound.outbox, sound.persisted, sound.frames, sound.acks⟩

theorem run_sound (instanceId : String) (events : List LinkEvent) :
    Sound (Link.run instanceId events) :=
  Runs.after_invariant (Link.step instanceId) (step_sound instanceId) (start_sound instanceId)
    events

/-- In every interleaving the accepted frames are a prefix of the enqueued ones,
numbered one to the receiver's cursor; the three cursors stay ordered; and no
frame the receiver still needs has left the outbox. -/
theorem delivery_in_order (instanceId : String) (events : List LinkEvent) :
    ((Link.run instanceId events).accepted <+: (Link.run instanceId events).enqueued ∧
      (Link.run instanceId events).accepted.map StoredFrame.sequence =
        List.range' 1 (Link.run instanceId events).stream.ackSequence) ∧
    ((Link.run instanceId events).outbox.contents.ackSequence ≤
        (Link.run instanceId events).stream.ackSequence ∧
      (Link.run instanceId events).stream.ackSequence ≤
        (Link.run instanceId events).outbox.contents.highestSequence) ∧
    ∀ frame ∈ (Link.run instanceId events).enqueued,
      (Link.run instanceId events).stream.ackSequence < frame.sequence →
        frame ∈ (Link.run instanceId events).outbox.contents.frames := by
  have sound := run_sound instanceId events
  generalize Link.run instanceId events = link at sound
  refine ⟨⟨?_, ?_⟩, ⟨sound.outbox.acknowledged, ?_⟩, ?_⟩
  · rw [sound.accepted]
    exact take_prefix _ _
  · rw [sound.accepted, numbered_map _ (numbered_take _ sound.numbered _), length_take,
      min_eq_left sound.settled]
  · rw [sound.outbox.highest]
    exact sound.settled
  · intro _ member _
    obtain ⟨compacted, _, frames⟩ := sound.outbox.retained
    obtain ⟨position, _, found⟩ := numbered_position StoredFrame.sequence sound.numbered member
    have acknowledged := sound.outbox.acknowledged
    rw [frames, mem_iff_getElem?]
    refine ⟨position - compacted, ?_⟩
    rw [getElem?_drop, show compacted + (position - compacted) = position by omega]
    exact found

end WinWinCode.Exchange.Delivery
