import WinWinCode.ExecutionPort.Replay

/-!
What the replay machine does to a stream. A stream only moves by appending the
next frame or by raising its acknowledgement, and both keep it sound. The store's
contract says which snapshot it retains for each stream: reads answer from it,
writes change it as asked or fail and leave it. Under that contract every call of
the machine is judged by what it answers about the retained stream and by how it
moves it.
-/

namespace WinWinCode.ExecutionPort

open Fallible Counting Programs ReplayReadQuery List

variable {early late : ReplaySnapshot} {frame : ReplayFrame} {event : ReplayFrame}

namespace ReplaySnapshot

def extend (snapshot : ReplaySnapshot) (frame : ReplayFrame) : ReplaySnapshot :=
  { snapshot with highestSequence := frame.sequence, events := snapshot.events ++ [frame] }

def acknowledgedThrough (snapshot : ReplaySnapshot) (ackSequence : Nat) : ReplaySnapshot :=
  { snapshot with ackSequence := ackSequence }

inductive Step (stream : ReplayStreamKey) (snapshot : ReplaySnapshot) : ReplaySnapshot → Prop
  | append (frame : ReplayFrame) (next : frame.sequence = snapshot.highestSequence + 1)
      (fits : frame.sequence < wordLimit) (fresh : snapshot.eventById frame.eventId = none)
      (named : frame.eventId ≠ "" ∧ frame.digest ≠ "") (addressed : stream.value ≠ "") :
      Step stream snapshot (snapshot.extend frame)
  | acknowledge (ackSequence : Nat) (advances : snapshot.ackSequence ≤ ackSequence)
      (reached : ackSequence ≤ snapshot.highestSequence) :
      Step stream snapshot (snapshot.acknowledgedThrough ackSequence)

variable {snapshot : ReplaySnapshot}

theorem eventById_eq_none {eventId : String} :
    snapshot.eventById eventId = none ↔ eventId ∉ snapshot.events.map ReplayFrame.eventId := by
  simp [eventById, find?_eq_none]

section
variable (sound : snapshot.Sound)
include sound

theorem Sound.highest_succ (kept : snapshot.events ≠ []) :
    snapshot.highestSequence + 1 = snapshot.firstSequence + snapshot.events.length := by
  have last := getLast?_eq_some_getLast kept
  rw [sound.highest, derivedHighest, last]
  exact numbered_getLast? ReplayFrame.sequence sound.numbered last

theorem Sound.eventById_mem (member : event ∈ snapshot.events) :
    snapshot.eventById event.eventId = some event := by
  cases found : snapshot.eventById event.eventId with
  | none => exact absurd (mem_map_of_mem member) (eventById_eq_none.mp found)
  | some other =>
    have same : other.eventId = event.eventId := by simpa using find?_some found
    rw [inj_on_of_nodup_map sound.distinct (mem_of_find?_eq_some found) member same]

theorem Sound.eventBySequence_mem (member : event ∈ snapshot.events) :
    snapshot.eventBySequence event.sequence = some event := by
  cases found : snapshot.eventBySequence event.sequence with
  | none =>
    rw [eventBySequence, find?_eq_none] at found
    exact absurd (by simp) (found event member)
  | some other =>
    have same : other.sequence = event.sequence := by simpa using find?_some found
    rw [numbered_injective ReplayFrame.sequence sound.numbered
      (mem_of_find?_eq_some found) member same]

theorem Sound.extend (next : frame.sequence = snapshot.highestSequence + 1)
    (fresh : snapshot.eventById frame.eventId = none)
    (named : frame.eventId ≠ "" ∧ frame.digest ≠ "") : (snapshot.extend frame).Sound := by
  have acknowledged := sound.acknowledged
  have numbered : Numbered ReplayFrame.sequence (snapshot.extend frame).firstSequence
        (snapshot.extend frame).events ∧ 0 < (snapshot.extend frame).firstSequence ∧
      (snapshot.extend frame).firstSequence ≤ snapshot.ackSequence + 1 := by
    by_cases kept : snapshot.events = []
    · -- The first frame of a stream without frames follows what was acknowledged.
      have highest : snapshot.highestSequence = snapshot.ackSequence := by
        rw [sound.highest, derivedHighest, kept]
        rfl
      simp [ReplaySnapshot.extend, firstSequence, kept, Numbered]
      omega
    · have first : (snapshot.extend frame).firstSequence = snapshot.firstSequence := by
        obtain ⟨_, _, events⟩ := exists_cons_of_ne_nil kept
        simp [firstSequence, ReplaySnapshot.extend, events]
      rw [first]
      refine ⟨?_, sound.started, sound.follows⟩
      exact numbered_concat ReplayFrame.sequence sound.numbered
        (next.trans (sound.highest_succ kept))
  exact {
    numbered := numbered.1
    started := numbered.2.1
    follows := numbered.2.2
    acknowledged := by
      change snapshot.ackSequence ≤ frame.sequence
      omega
    highest := by simp [derivedHighest, ReplaySnapshot.extend]
    distinct := by
      rw [ReplaySnapshot.extend, map_append, map_singleton]
      exact sound.distinct.append (nodup_singleton _)
        (disjoint_singleton.mpr (eventById_eq_none.mp fresh))
    named := by
      intro event member
      rcases mem_append.mp member with old | new
      · exact sound.named event old
      · exact mem_singleton.mp new ▸ named }

theorem Sound.acknowledgedThrough {ackSequence : Nat}
    (advances : snapshot.ackSequence ≤ ackSequence)
    (reached : ackSequence ≤ snapshot.highestSequence) :
    (snapshot.acknowledgedThrough ackSequence).Sound where
  __ := sound
  follows := by
    have := sound.follows
    change snapshot.firstSequence ≤ ackSequence + 1
    omega
  acknowledged := reached
  highest := by
    have highest := sound.highest
    unfold derivedHighest at highest ⊢
    cases last : snapshot.events.getLast? with
    | none =>
      -- Without frames the highest sequence is the acknowledged one, which stays.
      simp only [last] at highest
      simp only [ReplaySnapshot.acknowledgedThrough, last]
      omega
    | some _ => simpa only [ReplaySnapshot.acknowledgedThrough, last] using highest

end

structure Complete (stream : ReplayStreamKey) (snapshot : ReplaySnapshot) : Prop where
  sound : snapshot.Sound
  whole : snapshot.highestSequence = snapshot.events.length
  fits : snapshot.highestSequence < wordLimit
  addressed : snapshot.events ≠ [] → stream.value ≠ ""

theorem complete_empty (stream : ReplayStreamKey) : Complete stream {} where
  sound := {
    numbered := trivial
    started := one_pos
    follows := le_refl 1
    acknowledged := le_refl 0
    highest := rfl
    distinct := nodup_nil
    named := forall_mem_nil _ }
  whole := rfl
  fits := by decide
  addressed := fun kept => absurd rfl kept

variable {stream : ReplayStreamKey}

section
variable (complete : snapshot.Complete stream)
include complete

theorem Complete.firstSequence : snapshot.firstSequence = 1 := by
  by_cases kept : snapshot.events = []
  · simp [ReplaySnapshot.firstSequence, kept]
  · have succ := complete.sound.highest_succ kept
    have whole := complete.whole
    omega

theorem Complete.numbered : Numbered ReplayFrame.sequence 1 snapshot.events :=
  complete.firstSequence ▸ complete.sound.numbered

theorem Complete.step {next : ReplaySnapshot} (step : snapshot.Step stream next) :
    next.Complete stream := by
  cases step with
  | append _ next fits fresh named addressed =>
    refine ⟨complete.sound.extend next fresh named, ?_, fits, fun _ => addressed⟩
    have whole := complete.whole
    simp only [extend, length_append, length_singleton]
    omega
  | acknowledge _ advances reached =>
    exact ⟨complete.sound.acknowledgedThrough advances reached, complete.whole, complete.fits,
      complete.addressed⟩

end

/-- What was retained stays in place and what was acknowledged stays acknowledged. -/
def Grows (early late : ReplaySnapshot) : Prop :=
  early.events <+: late.events ∧ early.ackSequence ≤ late.ackSequence

theorem Step.grows (step : early.Step stream late) : early.Grows late := by
  cases step with
  | append frame => exact ⟨prefix_append early.events [frame], le_refl _⟩
  | acknowledge _ advances => exact ⟨prefix_refl _, advances⟩

open Relation in
theorem grows_of_steps (steps : ReflTransGen (Step stream) early late) : early.Grows late := by
  induction steps with
  | refl => exact ⟨prefix_refl _, le_refl _⟩
  | tail _ step grown => exact ⟨grown.1.trans step.grows.1, le_trans grown.2 step.grows.2⟩

open Relation in
theorem Complete.steps (complete : early.Complete stream)
    (steps : ReflTransGen (Step stream) early late) : late.Complete stream := by
  induction steps with
  | refl => exact complete
  | tail _ step kept => exact kept.step step

end ReplaySnapshot

/-- What a snapshot must show of a retained stream to answer a query about it. -/
def ReplayReadQuery.Answered (query : ReplayReadQuery) (retained snapshot : ReplaySnapshot) :
    Prop :=
  snapshot.ackSequence = retained.ackSequence ∧
  snapshot.highestSequence = retained.highestSequence ∧
  match query with
  | .watermarks => True
  | .conflict eventId sequence =>
    snapshot.eventById eventId = retained.eventById eventId ∧
      snapshot.eventBySequence sequence = retained.eventBySequence sequence
  | .after sequence maxEvents =>
    snapshot.eventsAfter sequence maxEvents = retained.eventsAfter sequence maxEvents

theorem ReplayReadQuery.answered_self (query : ReplayReadQuery) (retained : ReplaySnapshot) :
    query.Answered retained retained := by
  cases query <;> exact ⟨rfl, rfl, by simp⟩

variable {retained right left : ReplaySnapshot}

abbrev Streams := ReplayStreamKey → ReplaySnapshot

/-- How a store's state is read as streams, and which of its states occur. -/
structure ReplayView (Store : Type) where
  Valid : Store → Prop
  retained : Store → Streams

def ReplayView.Holding {Store : Type} (view : ReplayView Store)
    (streams : Streams) (state : Store) : Prop :=
  view.Valid state ∧ view.retained state = streams

section Contract
variable {Store StoreError Context AuthorityError : Type}

/-- The store's contract. A read changes no stream and, if it answers, answers from the
stream it was asked for. A write either fails and changes no stream, or does to the one
stream exactly what it was asked. -/
structure ReplayStore.Correct (store : ReplayStore Store StoreError) (view : ReplayView Store) :
    Prop where
  load : ∀ streams stream, Triple (view.Holding streams) (store.load stream)
    (fun found state => found.getD {} = streams stream ∧ view.Holding streams state)
    (view.Holding streams)
  loadIndexed : ∀ streams stream query, Triple (view.Holding streams)
    (store.loadIndexed stream query)
    (fun found state => (∀ snapshot, found = some snapshot →
      query.Answered (streams stream) snapshot) ∧ view.Holding streams state)
    (view.Holding streams)
  append : ∀ streams stream frame,
    frame.sequence = (streams stream).highestSequence + 1 →
    Triple (view.Holding streams) (store.append stream (streams stream).highestSequence frame)
      (fun _ => view.Holding (Function.update streams stream ((streams stream).extend frame)))
      (view.Holding streams)
  recordAcknowledgement : ∀ streams stream ackSequence,
    (streams stream).ackSequence < ackSequence →
    ackSequence ≤ (streams stream).highestSequence →
    Triple (view.Holding streams)
      (store.recordAcknowledgement stream (streams stream).ackSequence ackSequence)
      (fun _ => view.Holding
        (Function.update streams stream ((streams stream).acknowledgedThrough ackSequence)))
      (view.Holding streams)

/-- The numbers of a query are within a limit, and a page is not empty. -/
def ReplayReadQuery.Fits (limit : Nat) : ReplayReadQuery → Prop
  | .watermarks => True
  | .conflict _ sequence => sequence ≤ limit
  | .after sequence maxEvents => sequence ≤ limit ∧ 0 < maxEvents

/-- Reads of this stream succeed, for numbers within the limit. -/
structure ReplayStore.Answering (store : ReplayStore Store StoreError) (view : ReplayView Store)
    (stream : ReplayStreamKey) (limit : Nat) : Prop where
  load : ∀ state, view.Valid state → ∃ found, (store.load stream state).2 = .ok found
  loadIndexed : ∀ query state, view.Valid state → query.Fits limit →
    ∃ found, (store.loadIndexed stream query state).2 = .ok found

/-- The paths of `accept`, each with the condition on the retained stream it is taken under. -/
inductive Decided (retained : ReplaySnapshot) (frame : ReplayFrame) : ReplayDecision → Prop
  | duplicate (original : ReplayFrame) (found : retained.eventById frame.eventId = some original)
      (same : original.sameEventIdentityAndDigest frame = true) :
      Decided retained frame (.duplicate retained.highestSequence original)
  | changed (original : ReplayFrame) (found : retained.eventById frame.eventId = some original)
      (different : original.sameEventIdentityAndDigest frame = false) :
      Decided retained frame (.conflict retained.highestSequence)
  | occupied (original : ReplayFrame) (fresh : retained.eventById frame.eventId = none)
      (found : retained.eventBySequence frame.sequence = some original) :
      Decided retained frame (.conflict retained.highestSequence)
  | gap (fresh : retained.eventById frame.eventId = none)
      (ahead : retained.highestSequence + 1 < frame.sequence) :
      Decided retained frame
        (.gap retained.highestSequence (retained.highestSequence + 1))
  | stale (fresh : retained.eventById frame.eventId = none)
      (behind : frame.sequence < retained.highestSequence + 1) :
      Decided retained frame (.conflict retained.highestSequence)
  | accepted (fresh : retained.eventById frame.eventId = none)
      (next : frame.sequence = retained.highestSequence + 1)
      (fits : frame.sequence < wordLimit) : Decided retained frame (.accepted frame.sequence)

/-- The stream a decision leaves behind. -/
def ReplayDecision.leaves (decision : ReplayDecision) (retained : ReplaySnapshot)
    (frame : ReplayFrame) : ReplaySnapshot :=
  match decision with
  | .accepted _ => retained.extend frame
  | .duplicate _ _ | .gap _ _ | .conflict _ => retained

variable {store : ReplayStore Store StoreError} {view : ReplayView Store}

section
variable (correct : store.Correct view) (streams : Streams)
  (stream : ReplayStreamKey)
include correct

theorem loadSnapshot_judged : Triple (view.Holding streams)
      (loadSnapshot store stream : Program Store (ReplayError AuthorityError StoreError) _)
      (fun snapshot state => snapshot = streams stream ∧ view.Holding streams state)
      (view.Holding streams) := by
  apply triple_bind (triple_mapError (correct.load streams stream))
  intro _
  apply triple_given
  intro same
  apply triple_checked
  intro _ _
  exact triple_pure fun state holding => ⟨same, holding⟩

theorem loadSelected_judged (query : ReplayReadQuery) : Triple (view.Holding streams)
      (loadSelected store stream query : Program Store (ReplayError AuthorityError StoreError) _)
      (fun snapshot state => query.Answered (streams stream) snapshot ∧ view.Holding streams state)
      (view.Holding streams) := by
  apply triple_bind (triple_mapError (correct.loadIndexed streams stream query))
  intro found
  apply triple_given
  intro answered
  cases found with
  | none =>
    apply triple_mono (loadSnapshot_judged correct streams stream)
    · rintro snapshot state ⟨rfl, holding⟩
      exact ⟨query.answered_self _, holding⟩
    · exact fun _ holding => holding
  | some snapshot =>
    apply triple_checked
    intro _ _
    exact triple_pure fun state holding => ⟨answered snapshot rfl, holding⟩

theorem acceptLoaded_judged (frame : ReplayFrame) {snapshot : ReplaySnapshot}
    (answered : (conflict frame.eventId frame.sequence).Answered (streams stream) snapshot) :
    Triple (view.Holding streams) (acceptLoaded store stream frame snapshot :
        Program Store (ReplayError AuthorityError StoreError) _)
      (fun decision state => Decided (streams stream) frame decision ∧ view.Holding
          (Function.update streams stream (decision.leaves (streams stream) frame)) state)
      (view.Holding streams) := by
  obtain ⟨_, highest, byId, bySequence⟩ := answered
  -- A decision other than acceptance leaves every stream as it was.
  have unmoved : ∀ decision : ReplayDecision, Decided (streams stream) frame decision →
      decision.leaves (streams stream) frame = streams stream →
      Triple (view.Holding streams)
        (pure decision : Program Store (ReplayError AuthorityError StoreError) _)
        (fun decision state => Decided (streams stream) frame decision ∧ view.Holding
            (Function.update streams stream (decision.leaves (streams stream) frame)) state)
        (view.Holding streams) := by
    intro _ decided same
    apply triple_pure
    intro state holding
    rw [same, Function.update_eq_self]
    exact ⟨decided, holding⟩
  unfold acceptLoaded
  rw [byId, bySequence, highest]
  apply triple_checked
  intro _ counted
  rw [okOr_eq_ok, checkedAdd_eq_some] at counted
  obtain ⟨fits, rfl⟩ := counted
  cases found : (streams stream).eventById frame.eventId with
  | some original =>
    dsimp only
    split
    · rename_i same
      exact unmoved _ (.duplicate original found same) rfl
    · rename_i different
      exact unmoved _ (.changed original found (Bool.eq_false_iff.mpr different)) rfl
  | none =>
    dsimp only
    split
    · rename_i occupied
      obtain ⟨original, present⟩ := Option.isSome_iff_exists.mp occupied
      exact unmoved _ (.occupied original found present) rfl
    split
    · rename_i ahead
      exact unmoved _ (.gap found ahead) rfl
    split
    · rename_i behind
      exact unmoved _ (.stale found behind) rfl
    · rename_i free notAhead notBehind
      have next : frame.sequence = (streams stream).highestSequence + 1 := by omega
      apply triple_bind (triple_mapError (correct.append streams stream frame next))
      intro _
      exact triple_pure fun state holding => ⟨.accepted found next (next ▸ fits), holding⟩

end

theorem validateFrame_eq_ok {stream : ReplayStreamKey} {done : Unit} :
    validateFrame stream frame = .ok done ↔ stream.value ≠ "" ∧ frame.eventId ≠ "" ∧
      frame.sequence ≠ 0 ∧ frame.digest ≠ "" := by
  simp only [validateFrame, eq_ok, exists_const, ne_eq]

section
variable (correct : store.Correct view) (authority : ReplayAuthority Context AuthorityError)
  (streams : Streams) (stream : ReplayStreamKey) (context : Context)
include correct

theorem accept_judged (frame : ReplayFrame) :
    Triple (view.Holding streams) (accept store authority stream context frame)
      (fun decision state => validateFrame stream frame = .ok () ∧
        Decided (streams stream) frame decision ∧
        view.Holding
          (Function.update streams stream (decision.leaves (streams stream) frame)) state)
      (view.Holding streams) := by
  apply triple_checked
  intro _ _
  apply triple_checked
  intro _ checked
  rw [mapError_eq_ok] at checked
  apply triple_bind (loadSelected_judged correct streams stream _)
  intro _
  apply triple_given
  intro answered
  apply triple_mono (acceptLoaded_judged correct streams stream frame answered)
  · exact fun _ _ decided => ⟨checked, decided⟩
  · exact fun _ holding => holding

theorem resume_judged (afterSequence maxEvents : Nat) : Triple (view.Holding streams)
      (resume store authority stream context afterSequence maxEvents)
      (fun batch state => batch = ⟨(streams stream).ackSequence, (streams stream).highestSequence,
          (streams stream).eventsAfter afterSequence maxEvents⟩ ∧ view.Holding streams state)
      (view.Holding streams) := by
  apply triple_checked
  intro _ _
  apply triple_checked
  intro _ _
  apply triple_bind (loadSelected_judged correct streams stream _)
  intro _
  apply triple_given
  rintro ⟨ack, highest, events⟩
  refine triple_lift ?_ (fun _ holding => holding)
  intro _ done _ holding
  rw [resumeLoaded, refuse_bind_eq_ok, pure_eq_ok, ack, highest, events] at done
  exact ⟨done.2.symm, holding⟩

theorem acknowledge_judged (ackSequence : Nat) :
    Triple (view.Holding streams) (acknowledge store authority stream context ackSequence)
      (fun _ state => ((streams stream).ackSequence ≤ ackSequence ∧
          ackSequence ≤ (streams stream).highestSequence) ∧
        view.Holding
          (Function.update streams stream ((streams stream).acknowledgedThrough ackSequence)) state)
      (view.Holding streams) := by
  apply triple_checked
  intro _ _
  apply triple_checked
  intro _ _
  apply triple_bind (loadSelected_judged correct streams stream _)
  intro _
  apply triple_given
  rintro ⟨ack, highest, _⟩
  unfold acknowledgeLoaded
  rw [ack, highest]
  apply triple_checked
  intro _ reached
  rw [refuse_eq_ok, not_lt] at reached
  apply triple_checked
  intro _ advances
  rw [refuse_eq_ok, not_lt] at advances
  split
  · rename_i same
    apply triple_pure
    intro state holding
    rw [same]
    exact ⟨⟨le_refl _, same ▸ reached⟩, (Function.update_eq_self stream streams).symm ▸ holding⟩
  · rename_i different
    apply triple_bind (triple_mapError
      (correct.recordAcknowledgement streams stream ackSequence (by omega) reached))
    intro _
    exact triple_pure fun state holding => ⟨⟨advances, reached⟩, holding⟩

end

end Contract

end WinWinCode.ExecutionPort
