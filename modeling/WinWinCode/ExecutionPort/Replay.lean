import WinWinCode.Foundation.Counting
import WinWinCode.Foundation.Fallible
import WinWinCode.Foundation.Programs

/-!
The replay state machine of the execution port. A stream retains frames numbered
without gap and one acknowledgement watermark. The machine is written against a
store that reads a whole snapshot, or only the rows a query selects, and that
appends a frame or records an acknowledgement as one write. A call runs on the
store's state and leaves it behind whether it answers or fails.
-/

namespace WinWinCode.ExecutionPort

open Fallible Counting Programs List
open Program (lift)

structure ReplayStreamKey where
  value : String
deriving DecidableEq

structure ReplayFrame where
  eventId : String
  sequence : Nat
  digest : String
  frame : List UInt8
deriving DecidableEq

def ReplayFrame.sameEventIdentityAndDigest (left right : ReplayFrame) : Bool :=
  left.eventId == right.eventId && left.sequence == right.sequence && left.digest == right.digest

theorem ReplayFrame.sameEventIdentityAndDigest_iff {left right : ReplayFrame} :
    left.sameEventIdentityAndDigest right ↔
      left.eventId = right.eventId ∧ left.sequence = right.sequence ∧
        left.digest = right.digest := by
  simp [sameEventIdentityAndDigest, and_assoc]

inductive ReplayStateError where
  | zeroSequence
  | emptyEventId
  | emptyDigest
  | nonContiguous (expected found : Nat)
  | duplicateEventId (eventId : String)
  | highestMismatch (stored derived : Nat)
  | ackExceedsHighest (acknowledged highest : Nat)
  | sequenceOverflow
deriving DecidableEq

inductive ReplayInputError where
  | emptyStream
  | emptyEventId
  | zeroSequence
  | emptyDigest
  | zeroMaxEvents
deriving DecidableEq

inductive ReplayError (AuthorityError StoreError : Type) where
  | authority (error : AuthorityError)
  | store (error : StoreError)
  | invalidInput (error : ReplayInputError)
  | corruptState (error : ReplayStateError)
  | cursorAhead (requested highest : Nat)
  | ackAhead (requested highest : Nat)
  | ackRegression (requested acknowledged : Nat)
deriving DecidableEq

structure ReplaySnapshot where
  ackSequence : Nat := 0
  highestSequence : Nat := 0
  events : List ReplayFrame := []
deriving DecidableEq, Inhabited

namespace ReplaySnapshot

/-- The loop of `validate`: `expected` is the next number, `eventIds` the ids seen. -/
def validateEvents : List ReplayFrame → Nat → List String → Except ReplayStateError Unit
  | [], _, _ => .ok ()
  | event :: rest, expected, eventIds => do
    refuse (event.sequence = 0) .zeroSequence
    refuse (event.eventId = "") .emptyEventId
    refuse (event.digest = "") .emptyDigest
    refuse (event.eventId ∈ eventIds) (.duplicateEventId event.eventId)
    refuse (event.sequence ≠ expected) (.nonContiguous expected event.sequence)
    let next ← okOr (checkedAdd expected 1) .sequenceOverflow
    validateEvents rest next (event.eventId :: eventIds)

variable (snapshot : ReplaySnapshot)

def firstSequence : Nat :=
  match snapshot.events.head? with
  | some event => event.sequence
  | none => 1

def derivedHighest : Nat :=
  match snapshot.events.getLast? with
  | some event => event.sequence
  | none => snapshot.ackSequence

def validate : Except ReplayStateError Unit := do
  refuse (snapshot.highestSequence < snapshot.ackSequence)
    (.ackExceedsHighest snapshot.ackSequence snapshot.highestSequence)
  validateEvents snapshot.events snapshot.firstSequence []
  -- The first retained frame follows the acknowledged ones at the latest; an
  -- acknowledgement of the last 64-bit number leaves nothing to compare with.
  refuse ((checkedAdd snapshot.ackSequence 1).any (· < snapshot.firstSequence))
    (.nonContiguous (saturatingAdd snapshot.ackSequence 1) snapshot.firstSequence)
  refuse (snapshot.highestSequence ≠ snapshot.derivedHighest)
    (.highestMismatch snapshot.highestSequence snapshot.derivedHighest)

def eventById (eventId : String) : Option ReplayFrame :=
  snapshot.events.find? (·.eventId == eventId)

def eventBySequence (sequence : Nat) : Option ReplayFrame :=
  snapshot.events.find? (·.sequence == sequence)

def eventsAfter (afterSequence maxEvents : Nat) : List ReplayFrame :=
  (snapshot.events.filter (fun event => afterSequence < event.sequence)).take maxEvents

/-- A history that can be replayed: numbered without gap up to the highest sequence, with
the frames before the first one acknowledged. -/
structure Sound (snapshot : ReplaySnapshot) : Prop where
  numbered : Numbered ReplayFrame.sequence snapshot.firstSequence snapshot.events
  started : 0 < snapshot.firstSequence
  follows : snapshot.firstSequence ≤ snapshot.ackSequence + 1
  acknowledged : snapshot.ackSequence ≤ snapshot.highestSequence
  highest : snapshot.highestSequence = snapshot.derivedHighest
  distinct : (snapshot.events.map ReplayFrame.eventId).Nodup
  named : ∀ event ∈ snapshot.events, event.eventId ≠ "" ∧ event.digest ≠ ""

theorem validateEvents_eq_ok {events : List ReplayFrame} {expected : Nat} {eventIds : List String}
    {done : Unit} : validateEvents events expected eventIds = .ok done ↔
      Numbered ReplayFrame.sequence expected events ∧
      (∀ event ∈ events, event.sequence ≠ 0 ∧ event.eventId ≠ "" ∧ event.digest ≠ "") ∧
      (events.map ReplayFrame.eventId).Nodup ∧
      (∀ event ∈ events, event.eventId ∉ eventIds) ∧
      (events ≠ [] → expected + events.length < wordLimit) := by
  induction events generalizing expected eventIds with
  | nil => simp [validateEvents, Numbered]
  | cons event rest ih =>
    simp only [validateEvents, eq_ok, checkedAdd_eq_some, ih, Numbered, forall_mem_cons, map_cons,
      nodup_cons, length_cons, mem_map, exists_const, ne_eq, not_not]
    constructor
    · rintro ⟨nonzero, named, digested, fresh, here, _, ⟨fits, rfl⟩, numbered, filled,
        distinct, apart, room⟩
      refine ⟨⟨here, numbered⟩, ⟨⟨nonzero, named, digested⟩, filled⟩, ⟨?_, distinct⟩,
        ⟨fresh, fun later member seen =>
          apart later member (mem_cons_of_mem event.eventId seen)⟩, fun _ => ?_⟩
      · rintro ⟨later, member, same⟩
        exact apart later member (mem_cons.mpr (Or.inl same))
      · by_cases ended : rest = []
        · simp [ended, fits]
        · have := room ended
          omega
    · rintro ⟨⟨here, numbered⟩, ⟨⟨nonzero, named, digested⟩, filled⟩, ⟨alone, distinct⟩,
        ⟨fresh, apart⟩, room⟩
      have fits := room (by simp)
      refine ⟨nonzero, named, digested, fresh, here, expected + 1, ⟨by omega, rfl⟩, numbered,
        filled, distinct, ?_, fun _ => by omega⟩
      intro later member seen
      rcases mem_cons.mp seen with same | seen
      · exact alone ⟨later, member, same⟩
      · exact apart later member seen

/-- `validate` accepts the histories that can be replayed and that end before the last
64-bit number. -/
theorem validate_eq_ok {snapshot : ReplaySnapshot} : snapshot.validate = .ok () ↔ snapshot.Sound ∧
      (snapshot.events ≠ [] → snapshot.firstSequence + snapshot.events.length < wordLimit) := by
  simp only [validate, eq_ok, validateEvents_eq_ok, exists_const, not_mem_nil, not_false_eq_true,
    implies_true, true_and, not_lt, ne_eq, not_not]
  have bounded : snapshot.events ≠ [] ∨ snapshot.firstSequence = 1 := by
    cases events : snapshot.events with
    | nil => exact .inr (by simp [firstSequence, events])
    | cons event rest => exact .inl (cons_ne_nil event rest)
  constructor
  · rintro ⟨acknowledged, ⟨numbered, filled, distinct, room⟩, follows, highest⟩
    refine ⟨⟨numbered, ?_, ?_, acknowledged, highest, distinct,
      fun event member => (filled event member).2⟩, room⟩
    · cases events : snapshot.events with
      | nil => simp [firstSequence, events]
      | cons event _ =>
        have first := (filled event (by simp [events])).1
        simp only [firstSequence, events, head?_cons]
        omega
    · cases next : checkedAdd snapshot.ackSequence 1 with
      | none =>
        have full : ¬ snapshot.ackSequence + 1 < wordLimit := by
          intro fits
          rw [checkedAdd, if_pos fits] at next
          cases next
        rcases bounded with some_ | _
        · have := room some_
          omega
        · omega
      | some _ =>
        rw [next] at follows
        rw [(checkedAdd_eq_some.mp next).2] at follows
        simpa using follows
  · rintro ⟨sound, room⟩
    refine ⟨sound.acknowledged, ⟨sound.numbered, ?_, sound.distinct, room⟩, ?_, sound.highest⟩
    · intro event member
      obtain ⟨_, _, _⟩ := numbered_position ReplayFrame.sequence sound.numbered member
      have := sound.started
      exact ⟨by omega, sound.named event member⟩
    · cases next : checkedAdd snapshot.ackSequence 1 with
      | none => simp
      | some _ =>
        rw [(checkedAdd_eq_some.mp next).2]
        simpa using sound.follows

end ReplaySnapshot

inductive ReplayDecision where
  | accepted (highestSequence : Nat)
  | duplicate (highestSequence : Nat) (original : ReplayFrame)
  | gap (highestSequence replayFromSequence : Nat)
  | conflict (highestSequence : Nat)
deriving DecidableEq

structure ReplayBatch where
  (ackSequence highestSequence : Nat)
  events : List ReplayFrame
deriving DecidableEq

inductive ReplayReadQuery where
  | watermarks
  | conflict (eventId : String) (sequence : Nat)
  | after (sequence maxEvents : Nat)

structure ReplayAuthority (Context AuthorityError : Type) where
  validateActiveLease : ReplayStreamKey → Context → Except AuthorityError Unit

structure ReplayStore (Store StoreError : Type) where
  load : ReplayStreamKey → Program Store StoreError (Option ReplaySnapshot)
  loadIndexed : ReplayStreamKey → ReplayReadQuery →
    Program Store StoreError (Option ReplaySnapshot)
  append : ReplayStreamKey → Nat → ReplayFrame → Program Store StoreError Unit
  recordAcknowledgement : ReplayStreamKey → Nat → Nat → Program Store StoreError Unit

section Machine
variable {Store StoreError Context AuthorityError : Type} (store : ReplayStore Store StoreError)

/-- The store as it answers without an index: `load_indexed` declines every query. -/
def ReplayStore.unindexed : ReplayStore Store StoreError :=
  { store with loadIndexed := fun _ _ => pure none }

variable (authority : ReplayAuthority Context AuthorityError) (stream : ReplayStreamKey)
  (context : Context)

def validateFrame (frame : ReplayFrame) : Except ReplayInputError Unit := do
  refuse (stream.value = "") .emptyStream
  refuse (frame.eventId = "") .emptyEventId
  refuse (frame.sequence = 0) .zeroSequence
  refuse (frame.digest = "") .emptyDigest

def loadSnapshot : Program Store (ReplayError AuthorityError StoreError) ReplaySnapshot := do
  let found ← (store.load stream).mapError .store
  lift ((found.getD {}).validate.mapError .corruptState)
  pure (found.getD {})

def loadSelected (query : ReplayReadQuery) :
    Program Store (ReplayError AuthorityError StoreError) ReplaySnapshot := do
  match ← (store.loadIndexed stream query).mapError .store with
  | none => loadSnapshot store stream
  | some snapshot =>
    lift (refuse (snapshot.highestSequence < snapshot.ackSequence)
      (.corruptState (.ackExceedsHighest snapshot.ackSequence snapshot.highestSequence)))
    pure snapshot

/-- `accept` once the rows that the frame may collide with are loaded. -/
def acceptLoaded (frame : ReplayFrame) (snapshot : ReplaySnapshot) :
    Program Store (ReplayError AuthorityError StoreError) ReplayDecision := do
  let expected ← lift
    (okOr (checkedAdd snapshot.highestSequence 1) (.corruptState .sequenceOverflow))
  match snapshot.eventById frame.eventId with
  | some original =>
    if original.sameEventIdentityAndDigest frame then
      pure (.duplicate snapshot.highestSequence original)
    else
      pure (.conflict snapshot.highestSequence)
  | none =>
    if (snapshot.eventBySequence frame.sequence).isSome then
      pure (.conflict snapshot.highestSequence)
    else if expected < frame.sequence then
      pure (.gap snapshot.highestSequence expected)
    else if frame.sequence < expected then
      pure (.conflict snapshot.highestSequence)
    else do
      (store.append stream snapshot.highestSequence frame).mapError .store
      pure (.accepted frame.sequence)

def accept (frame : ReplayFrame) :
    Program Store (ReplayError AuthorityError StoreError) ReplayDecision := do
  lift ((authority.validateActiveLease stream context).mapError .authority)
  lift ((validateFrame stream frame).mapError .invalidInput)
  let snapshot ← loadSelected store stream (.conflict frame.eventId frame.sequence)
  acceptLoaded store stream frame snapshot

def resumeLoaded (afterSequence maxEvents : Nat) (snapshot : ReplaySnapshot) :
    Except (ReplayError AuthorityError StoreError) ReplayBatch := do
  refuse (snapshot.highestSequence < afterSequence)
    (.cursorAhead afterSequence snapshot.highestSequence)
  pure ⟨snapshot.ackSequence, snapshot.highestSequence,
    snapshot.eventsAfter afterSequence maxEvents⟩

def resume (afterSequence maxEvents : Nat) :
    Program Store (ReplayError AuthorityError StoreError) ReplayBatch := do
  lift ((authority.validateActiveLease stream context).mapError .authority)
  lift (refuse (maxEvents = 0) (.invalidInput .zeroMaxEvents))
  let snapshot ← loadSelected store stream (.after afterSequence maxEvents)
  lift (resumeLoaded afterSequence maxEvents snapshot)

def acknowledgeLoaded (ackSequence : Nat) (snapshot : ReplaySnapshot) :
    Program Store (ReplayError AuthorityError StoreError) Nat := do
  lift (refuse (snapshot.highestSequence < ackSequence)
    (.ackAhead ackSequence snapshot.highestSequence))
  lift (refuse (ackSequence < snapshot.ackSequence)
    (.ackRegression ackSequence snapshot.ackSequence))
  if ackSequence = snapshot.ackSequence then
    pure ackSequence
  else do
    (store.recordAcknowledgement stream snapshot.ackSequence ackSequence).mapError .store
    pure ackSequence

def acknowledge (ackSequence : Nat) :
    Program Store (ReplayError AuthorityError StoreError) Nat := do
  lift ((authority.validateActiveLease stream context).mapError .authority)
  lift (refuse (stream.value = "") (.invalidInput .emptyStream))
  let snapshot ← loadSelected store stream .watermarks
  acknowledgeLoaded store stream ackSequence snapshot

end Machine

end WinWinCode.ExecutionPort
