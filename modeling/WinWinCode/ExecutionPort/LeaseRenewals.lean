import WinWinCode.ExecutionPort.RuntimeReplay
import WinWinCode.ExecutionPort.ReplayRuns

/-!
Replay across lease renewals. One execution retains events while its lease is
renewed; its stream keeps its name, so the events of every stamp of the lease lie in
one stream. A frame is returned to a request only under the stamp it was retained
under: a page is replayed exactly when all of it carries the stamp of the request,
and is refused as foreign otherwise.
-/

namespace WinWinCode.ExecutionPort

open Fallible Counting Programs Relation List
open Program (bind_ok bind_lift_ok mapError_ok)
open Storage (ExecutionLeaseStamp SessionIdentity toUnsigned)

variable {Store StoreError AuthorityError : Type}

/-- What the worker supplies for an event; the rest of the message is its identity. -/
structure EventDraft where
  event : ExecutionEventRecord
  (messageId sentAt : String)

def EventDraft.message (draft : EventDraft) (identity : RuntimeReplayIdentity) :
    RuntimeEventMessage :=
  ⟨identity.codexThreadId, draft.event, identity.lease, draft.messageId, draft.sentAt,
    identity.sessionIdentity, identity.workerSessionId⟩

/-- An execution under its current lease, with the messages that were answered accepted. -/
structure ExecutionRun (Store : Type) where
  store : Store
  identity : RuntimeReplayIdentity
  accepted : List RuntimeEventMessage

inductive ExecutionCall (AuthorityError : Type) where
  | retain (authority : ReplayAuthority RuntimeReplayIdentity AuthorityError) (draft : EventDraft)
  | renew (renewal : LeaseRenewMessage) (now : String)
  | retainOther (authority : ReplayAuthority RuntimeReplayIdentity AuthorityError)
      (message : RuntimeEventMessage)
  | resume (authority : ReplayAuthority RuntimeReplayIdentity AuthorityError)
      (request : RuntimeReplayRequestMessage)
  | acknowledge (authority : ReplayAuthority RuntimeReplayIdentity AuthorityError)
      (message : RuntimeAckMessage)

/-- The run after a call, answered or failed. A renewal that is not valid is dropped; a
message retained for another execution is one of another stream. -/
def performCall (codec : RuntimeCodec) (store : ReplayStore Store StoreError)
    (run : ExecutionRun Store) : ExecutionCall AuthorityError → ExecutionRun Store
  | .retain authority draft =>
    match retainRuntimeEvent codec store authority (draft.message run.identity) run.store with
    | (reached, .ok (.accepted _)) =>
      { run with
        store := reached
        accepted := run.accepted ++ [draft.message run.identity] }
    | (reached, _) => { run with store := reached }
  | .renew renewal now =>
    if validLeaseRenewal run.identity.lease renewal now = true then
      { run with identity := { run.identity with lease := renewal.lease } }
    else run
  | .retainOther authority message =>
    if runtimeStreamKey (identityOfEvent message) = runtimeStreamKey run.identity then run
    else { run with store := (retainRuntimeEvent codec store authority message run.store).1 }
  | .resume authority request =>
    { run with store := (resumeRuntime codec store authority request run.store).1 }
  | .acknowledge authority message =>
    { run with store := (acknowledgeRuntime codec store authority message run.store).1 }

def retainedFrame (codec : RuntimeCodec) (message : RuntimeEventMessage) : ReplayFrame :=
  ⟨message.event.eventId, message.event.sequence.toNat, codec.eventDigest message.event,
    codec.encode message⟩

def RuntimeCodec.Faithful (codec : RuntimeCodec) (messages : List RuntimeEventMessage) : Prop :=
  ∀ message ∈ messages, codec.decode (codec.encode message) = some message ∧
    codec.encode message ≠ []

/-- The execution under another expiry of its lease. -/
def RuntimeReplayIdentity.until (identity : RuntimeReplayIdentity) (expiresAt : String) :
    RuntimeReplayIdentity :=
  { identity with lease := expiring identity.lease expiresAt }

@[simp] theorem runtimeStreamKey_until (identity : RuntimeReplayIdentity) (expiresAt : String) :
    runtimeStreamKey (identity.until expiresAt) = runtimeStreamKey identity := rfl

@[simp] theorem identityOfEvent_message (draft : EventDraft) (identity : RuntimeReplayIdentity) :
    identityOfEvent (draft.message identity) = identity := rfl

variable {message : RuntimeEventMessage}

theorem sequence_of_validateEvent (checked : validateEvent message = .ok ()) :
    toUnsigned message.event.sequence = some message.event.sequence.toNat ∧
      message.event.sequence.toNat ≤ Text.maxSafeInteger := by
  simp only [validateEvent, eq_ok, exists_const] at checked
  obtain ⟨_, _, _, _, _, _, sequence, found, _, _⟩ := checked
  have nonneg : 0 ≤ message.event.sequence := by
    by_contra negative
    simp [toUnsigned, negative] at found
  have value : toUnsigned message.event.sequence = some message.event.sequence.toNat :=
    if_pos nonneg
  rw [value, Option.some.injEq] at found
  exact ⟨value, by omega⟩

/-! What a frame decodes to. -/

variable {messages : List RuntimeEventMessage}

section Decoding
variable {codec : RuntimeCodec} {identity : RuntimeReplayIdentity}

/-- The stamp is the one thing left to compare on a frame that the worker retained. -/
theorem decodeFrame_retained (decodes : codec.decode (codec.encode message) = some message)
    (filled : codec.encode message ≠ []) (checked : validateEvent message = .ok ()) :
    (decodeFrame codec identity (retainedFrame codec message) :
      Except (RuntimeReplayError AuthorityError StoreError) RuntimeEventMessage) =
      if identityOfEvent message = identity then .ok message
      else .error (.frame message.event.sequence.toNat .identityMismatch) := by
  have sequence := (sequence_of_validateEvent checked).1
  -- Every check before the last one passes, because the frame was made from the message.
  have canonical : ¬ codec.encode message ≠ (retainedFrame codec message).frame := not_not.mpr rfl
  have digested : ¬ codec.eventDigest message.event ≠ (retainedFrame codec message).digest :=
    not_not.mpr rfl
  have placed : ¬ (message.event.sequence.toNat ≠ (retainedFrame codec message).sequence ∨
      message.event.eventId ≠ (retainedFrame codec message).eventId) := by
    simp [retainedFrame]
  unfold decodeFrame
  rw [refuse_bind_of_not (show ¬ (retainedFrame codec message).frame = [] from filled),
    okOr_bind_of_some (show codec.decode (retainedFrame codec message).frame = _ from decodes),
    refuse_bind_of_not canonical, refuse_bind_of_not digested, okOr_bind_of_some sequence,
    refuse_bind_of_not placed]
  by_cases same : identityOfEvent message = identity
  · rw [if_pos same, refuse_bind_of_not (not_not.mpr same)]
    rfl
  · rw [if_neg same, refuse, if_pos same]
    rfl

/-- Decoding stops at the first frame that was retained under another identity. -/
theorem decodeFrames_retained (faithful : codec.Faithful messages)
    (checked : ∀ message ∈ messages, validateEvent message = .ok ()) :
    ((messages.map (retainedFrame codec)).mapM (decodeFrame codec identity) :
      Except (RuntimeReplayError AuthorityError StoreError) (List RuntimeEventMessage)) =
      match messages.find? (identityOfEvent · ≠ identity) with
      | none => .ok messages
      | some foreign => .error (.frame foreign.event.sequence.toNat .identityMismatch) := by
  induction messages with
  | nil => rfl
  | cons message rest ih =>
    have head := faithful message mem_cons_self
    have tail := ih (fun later member => faithful later (mem_cons_of_mem _ member))
      (fun later member => checked later (mem_cons_of_mem _ member))
    rw [map_cons, mapM_cons,
      decodeFrame_retained head.1 head.2 (checked message mem_cons_self), tail]
    by_cases same : identityOfEvent message = identity
    · rw [if_pos same, find?_cons_of_neg (by simp [same])]
      cases rest.find? (identityOfEvent · ≠ identity) <;> rfl
    · rw [if_neg same, find?_cons_of_pos (by simp [same])]
      rfl

end Decoding

/-! What a call does to the stream of the execution. -/

/-- A stream that was acknowledged further, at most. -/
def Quiet (stream : ReplayStreamKey) (early late : Streams) : Prop :=
  ReflTransGen (ReplaySnapshot.Step stream) (early stream) (late stream) ∧
    (late stream).events = (early stream).events

theorem quiet_refl (stream : ReplayStreamKey) (streams : Streams) : Quiet stream streams streams :=
  ⟨ReflTransGen.refl, rfl⟩

variable {stream : ReplayStreamKey}

def ReplayView.Quieted (view : ReplayView Store) (stream : ReplayStreamKey)
    (early : Streams) (state : Store) : Prop :=
  view.Valid state ∧ Quiet stream early (view.retained state)

section Calls
variable {store : ReplayStore Store StoreError} {view : ReplayView Store} {codec : RuntimeCodec}
  {key : ReplayStreamKey} {early : Streams}

variable (view key early) in
abbrev Quietens {Error Answer : Type} (program : Program Store Error Answer) : Prop :=
  Triple (view.Quieted key early) program (fun _ => view.Quieted key early) (view.Quieted key early)

/-- A judgement about the streams a program starts from, read as one about where they came from. -/
theorem quieted_of_judged {Error Answer : Type} {program : Program Store Error Answer}
    {after : Streams → Answer → Store → Prop}
    (judged : ∀ streams, Triple (view.Holding streams) program (after streams)
      (view.Holding streams))
    (quiet : ∀ streams answer late, after streams answer late → view.Quieted key streams late) :
    Quietens view key early program := by
  rintro state ⟨valid, moved⟩
  have settled : Triple (view.Holding (view.retained state)) program
      (fun _ => view.Quieted key early) (view.Quieted key early) := by
    apply triple_mono (judged (view.retained state))
    · intro answer late reached
      obtain ⟨valid', moved'⟩ := quiet _ answer late reached
      exact ⟨valid', moved.1.trans moved'.1, moved'.2.trans moved.2⟩
    · rintro _ ⟨valid', same⟩
      exact ⟨valid', same ▸ moved⟩
  exact settled state ⟨valid, rfl⟩

section
variable (correct : store.Correct view)
  (authority : ReplayAuthority RuntimeReplayIdentity AuthorityError)
include correct

theorem resume_quiet (stream : ReplayStreamKey) (identity : RuntimeReplayIdentity)
    (afterSequence maxEvents : Nat) : Quietens view key early
      (resume store authority stream identity afterSequence maxEvents) := by
  apply quieted_of_judged fun streams =>
    resume_judged correct authority streams stream identity afterSequence maxEvents
  rintro streams _ _ ⟨_, valid, same⟩
  exact ⟨valid, same ▸ quiet_refl key streams⟩

theorem acknowledge_quiet (stream : ReplayStreamKey) (identity : RuntimeReplayIdentity)
    (ackSequence : Nat) :
    Quietens view key early (acknowledge store authority stream identity ackSequence) := by
  apply quieted_of_judged fun streams =>
    acknowledge_judged correct authority streams stream identity ackSequence
  rintro _ _ _ ⟨⟨advances, within⟩, valid, same⟩
  refine ⟨valid, same ▸ ?_⟩
  by_cases here : key = stream
  · subst here
    refine ⟨?_, by rw [Function.update_self]; rfl⟩
    rw [Function.update_self]
    exact ReflTransGen.single (.acknowledge ackSequence advances within)
  · refine ⟨?_, by rw [Function.update_of_ne here]⟩
    rw [Function.update_of_ne here]

theorem resumeRuntime_quiet (request : RuntimeReplayRequestMessage) :
    Quietens view key early (resumeRuntime codec store authority request) := by
  apply triple_bind keeps_lift
  intro _
  apply triple_bind keeps_lift
  intro _
  apply triple_bind (triple_mapError (resume_quiet correct authority _ _ _ _))
  intro _
  -- the two watermarks and the events of the answer
  iterate 3 refine triple_bind keeps_lift fun _ => ?_
  exact triple_pure fun _ holds => holds

theorem applyAck_quiet (message : RuntimeAckMessage) (validated : ValidatedAck)
    (before : ReplayBatch) :
    Quietens view key early (applyAck store authority message validated before) := by
  have settled : ∀ answer : Nat × Option ReplayBatch, Quietens view key early
      (pure answer : Program Store (RuntimeReplayError AuthorityError StoreError) _) :=
    fun _ => triple_pure fun _ holds => holds
  unfold applyAck
  cases message.status with
  | duplicate =>
    dsimp only
    split
    · exact settled _
    · exact triple_bind (triple_mapError (acknowledge_quiet correct authority _ _ _))
        fun _ => settled _
  | accepted =>
    exact triple_bind (triple_mapError (acknowledge_quiet correct authority _ _ _))
      fun _ => settled _
  | gap =>
    cases validated.replayFromSequence with
    | none => exact triple_fail fun _ holds => holds
    | some replayFrom =>
      exact triple_bind (triple_mapError (resume_quiet correct authority _ _ _ _))
        fun _ => settled _
  | rejectedConflict | rejectedExpiredLease | rejectedStaleFencingToken
  | rejectedWorkerInstance => exact settled _

theorem acknowledgeRuntime_quiet (message : RuntimeAckMessage) :
    Quietens view key early (acknowledgeRuntime codec store authority message) := by
  apply triple_bind keeps_lift
  intro validated
  apply triple_bind (triple_mapError (resume_quiet correct authority _ _ _ _))
  intro before
  apply triple_bind (applyAck_quiet correct authority message validated before)
  rintro ⟨_, _⟩
  apply triple_bind (triple_mapError (resume_quiet correct authority _ _ _ _))
  intro _
  exact keeps_lift

theorem retainRuntimeEvent_judged (streams : Streams) (message : RuntimeEventMessage) :
    Triple (view.Holding streams) (retainRuntimeEvent codec store authority message)
      (fun decision state => validateEvent message = .ok () ∧
        ReflTransGen (ReplaySnapshot.Step (runtimeStreamKey (identityOfEvent message)))
          (streams (runtimeStreamKey (identityOfEvent message)))
          (decision.leaves (streams (runtimeStreamKey (identityOfEvent message)))
            (retainedFrame codec message)) ∧
        view.Holding (Function.update streams (runtimeStreamKey (identityOfEvent message))
          (decision.leaves (streams (runtimeStreamKey (identityOfEvent message)))
            (retainedFrame codec message))) state) (view.Holding streams) := by
  apply triple_checked
  intro _ validated
  have checked := mapError_eq_ok.mp validated
  apply triple_checked
  intro sequence found
  have value : sequence = message.event.sequence.toNat := by
    rw [okOr_eq_ok, (sequence_of_validateEvent checked).1, Option.some.injEq] at found
    exact found.symm
  subst value
  apply triple_mono (triple_mapError (accept_judged correct authority streams
    (runtimeStreamKey (identityOfEvent message)) (identityOfEvent message)
    (retainedFrame codec message))) _ (fun _ holding => holding)
  rintro _ _ ⟨framed, decided, holding⟩
  exact ⟨checked, decided_steps framed decided, holding⟩

end

end Calls

/-! The run of one execution. -/

variable {afterSequence : Nat} {request : RuntimeReplayRequestMessage} {reached : Store}
  {identity : RuntimeReplayIdentity} {snapshot : ReplaySnapshot} {validated : ValidatedAck}

section Runs
variable {store : ReplayStore Store StoreError} {view : ReplayView Store} {codec : RuntimeCodec}

/-- A stream that holds the frames of the accepted messages and nothing else. -/
structure Retains (codec : RuntimeCodec) (stream : ReplayStreamKey)
    (accepted : List RuntimeEventMessage) (snapshot : ReplaySnapshot) : Prop where
  complete : snapshot.Complete stream
  frames : snapshot.events = accepted.map (retainedFrame codec)
  checked : ∀ message ∈ accepted, validateEvent message = .ok ()

/-- The stream of the execution holds what was accepted, under stamps that differ from the
first one in their expiry only. -/
structure Tracked (view : ReplayView Store) (codec : RuntimeCodec) (start : RuntimeReplayIdentity)
    (run : ExecutionRun Store) : Prop where
  valid : view.Valid run.store
  retains : Retains codec (runtimeStreamKey start) run.accepted
    (view.retained run.store (runtimeStreamKey start))
  identified : ∀ message ∈ run.accepted, ∃ expiresAt,
    identityOfEvent message = start.until expiresAt
  renewed : ∃ expiresAt, run.identity = start.until expiresAt

variable {start : RuntimeReplayIdentity} {run : ExecutionRun Store}
  {accepted : List RuntimeEventMessage}

section
variable (tracked : Tracked view codec start run)
include tracked

theorem Tracked.streamKey : runtimeStreamKey run.identity = runtimeStreamKey start := by
  obtain ⟨_, same⟩ := tracked.renewed
  rw [same, runtimeStreamKey_until]

theorem Tracked.quiet
    (quieted : view.Quieted (runtimeStreamKey start) (view.retained run.store) reached) :
    Tracked view codec start { run with store := reached } where
  __ := tracked
  valid := quieted.1
  retains := {
    complete := tracked.retains.complete.steps quieted.2.1
    frames := quieted.2.2.trans tracked.retains.frames
    checked := tracked.retains.checked }

theorem Tracked.unmoved (holding : view.Holding (view.retained run.store) reached) :
    Tracked view codec start { run with store := reached } :=
  tracked.quiet ⟨holding.1, holding.2 ▸ quiet_refl _ _⟩

theorem Tracked.accept {draft : EventDraft}
    (checked : validateEvent (draft.message run.identity) = .ok ())
    (steps : ReflTransGen (ReplaySnapshot.Step (runtimeStreamKey start))
      (view.retained run.store (runtimeStreamKey start))
      ((view.retained run.store (runtimeStreamKey start)).extend
        (retainedFrame codec (draft.message run.identity))))
    (holding : view.Holding (Function.update (view.retained run.store) (runtimeStreamKey start)
      ((view.retained run.store (runtimeStreamKey start)).extend
        (retainedFrame codec (draft.message run.identity)))) reached) : Tracked view codec start
      { run with store := reached, accepted := run.accepted ++ [draft.message run.identity] } := by
  have kept : view.retained reached (runtimeStreamKey start) =
      (view.retained run.store (runtimeStreamKey start)).extend
        (retainedFrame codec (draft.message run.identity)) := by
    rw [holding.2, Function.update_self]
  constructor
  · exact holding.1
  · constructor
    · rw [kept]
      exact tracked.retains.complete.steps steps
    · rw [kept, map_append, ← tracked.retains.frames]
      rfl
    · intro message member
      rcases mem_append.mp member with earlier | last
      · exact tracked.retains.checked message earlier
      · rw [mem_singleton.mp last]
        exact checked
  · intro message member
    rcases mem_append.mp member with earlier | last
    · exact tracked.identified message earlier
    · rw [mem_singleton.mp last]
      exact tracked.renewed
  · exact tracked.renewed

end

theorem renew_tracked (tracked : Tracked view codec start run) (renewal : LeaseRenewMessage)
    (now : String) : Tracked view codec start
      (performCall codec store run (.renew renewal now : ExecutionCall AuthorityError)) := by
  simp only [performCall]
  split
  · rename_i valid
    obtain ⟨expiresAt, same⟩ := tracked.renewed
    have moved := (lease_of_validLeaseRenewal valid).1
    refine ⟨tracked.valid, tracked.retains, tracked.identified, renewal.lease.expiresAt, ?_⟩
    rw [moved, same]
    rfl
  · exact tracked

theorem Retains.bounded (retains : Retains codec stream accepted snapshot) :
    accepted.length ≤ Text.maxSafeInteger := by
  cases last : accepted.getLast? with
  | none =>
    rw [getLast?_eq_none_iff.mp last]
    exact Nat.zero_le _
  | some message =>
    have found : snapshot.events.getLast? = some (retainedFrame codec message) := by
      rw [retains.frames, getLast?_map, last]
      rfl
    have numbered := numbered_getLast? ReplayFrame.sequence retains.complete.numbered found
    have member := mem_of_getLast? last
    have safe := (sequence_of_validateEvent (retains.checked message member)).2
    rw [retains.frames, length_map] at numbered
    change message.event.sequence.toNat + 1 = _ at numbered
    omega

theorem Retains.whole (retains : Retains codec stream accepted snapshot) :
    snapshot.highestSequence = accepted.length := by
  rw [retains.complete.whole, retains.frames, length_map]

theorem toAckSequence_safe {sequence : Nat} (safe : sequence ≤ Text.maxSafeInteger) :
    (toAckSequence sequence : Except (RuntimeReplayError AuthorityError StoreError) Int) =
      .ok sequence := by
  rw [toAckSequence, if_pos]
  exact lt_of_le_of_lt safe (by decide)

def page (accepted : List RuntimeEventMessage) (afterSequence maxEvents : Nat) :
    List RuntimeEventMessage :=
  (accepted.drop afterSequence).take maxEvents

theorem page_subset {maxEvents : Nat} : page accepted afterSequence maxEvents ⊆ accepted :=
  fun _ member => mem_of_mem_drop (mem_of_mem_take member)

section
variable (correct : store.Correct view)
include correct

theorem retain_tracked (tracked : Tracked view codec start run)
    (authority : ReplayAuthority RuntimeReplayIdentity AuthorityError) (draft : EventDraft) :
    Tracked view codec start (performCall codec store run (.retain authority draft)) := by
  have judged := @retainRuntimeEvent_judged _ _ _ store view codec correct authority
    (view.retained run.store) (draft.message run.identity) run.store ⟨tracked.valid, rfl⟩
  rw [identityOfEvent_message, tracked.streamKey] at judged
  simp only [performCall]
  cases outcome : retainRuntimeEvent codec store authority (draft.message run.identity)
      run.store with
  | mk _ result =>
    rw [outcome] at judged
    cases result with
    | error _ => exact tracked.unmoved judged
    | ok decision =>
      obtain ⟨checked, steps, holding⟩ := judged
      cases decision with
      | accepted _ => exact tracked.accept checked steps holding
      -- The other decisions leave the stream as it was.
      | duplicate _ _ =>
        exact tracked.unmoved (Function.update_eq_self _ (view.retained run.store) ▸ holding)
      | gap _ _ =>
        exact tracked.unmoved (Function.update_eq_self _ (view.retained run.store) ▸ holding)
      | conflict _ =>
        exact tracked.unmoved (Function.update_eq_self _ (view.retained run.store) ▸ holding)

theorem retainOther_tracked (tracked : Tracked view codec start run)
    (authority : ReplayAuthority RuntimeReplayIdentity AuthorityError)
    (message : RuntimeEventMessage) :
    Tracked view codec start (performCall codec store run (.retainOther authority message)) := by
  simp only [performCall, tracked.streamKey]
  split
  · exact tracked
  · rename_i other
    apply tracked.quiet
    apply Triple.reached (triple_mono
      (retainRuntimeEvent_judged correct authority (view.retained run.store) message) _ _)
      ⟨tracked.valid, rfl⟩
    · rintro _ late ⟨_, _, valid, same⟩
      have elsewhere : view.retained late (runtimeStreamKey start) =
          view.retained run.store (runtimeStreamKey start) := by
        rw [same, Function.update_of_ne (Ne.symm other)]
      refine ⟨valid, ?_, by rw [elsewhere]⟩
      rw [elsewhere]
    · rintro _ ⟨valid, same⟩
      exact ⟨valid, same ▸ quiet_refl _ _⟩

theorem performCall_tracked (run : ExecutionRun Store) (call : ExecutionCall AuthorityError)
    (tracked : Tracked view codec start run) :
    Tracked view codec start (performCall codec store run call) := by
  have here : view.Quieted (runtimeStreamKey start) (view.retained run.store) run.store :=
    ⟨tracked.valid, quiet_refl _ _⟩
  cases call with
  | retain authority draft => exact retain_tracked correct tracked authority draft
  | renew renewal now => exact renew_tracked tracked renewal now
  | retainOther authority message => exact retainOther_tracked correct tracked authority message
  | resume authority request =>
    exact tracked.quiet (Triple.reached (resumeRuntime_quiet correct authority request) here)
  | acknowledge authority message =>
    exact tracked.quiet (Triple.reached (acknowledgeRuntime_quiet correct authority message) here)

theorem run_tracked {initial : Store} (valid : view.Valid initial)
    (fresh : view.retained initial (runtimeStreamKey start) = {})
    (calls : List (ExecutionCall AuthorityError)) :
    Tracked view codec start (Runs.after (performCall codec store) ⟨initial, start, []⟩ calls) := by
  apply Runs.after_invariant _ (fun run call tracked => performCall_tracked correct run call tracked)
  refine ⟨valid, ⟨?_, ?_, forall_mem_nil _⟩, forall_mem_nil _, start.lease.expiresAt, rfl⟩
  · exact fresh ▸ ReplaySnapshot.complete_empty _
  · exact fresh ▸ rfl

theorem resume_page (answering : store.Answering view stream accepted.length) {streams : Streams}
    (retains : Retains codec stream accepted (streams stream))
    (authority : ReplayAuthority RuntimeReplayIdentity AuthorityError)
    (active : authority.validateActiveLease stream identity = .ok ()) {maxEvents : Nat}
    (within : afterSequence ≤ accepted.length) (positive : 0 < maxEvents) {state : Store}
    (holding : view.Holding streams state) :
    ∃ reached, resume store authority stream identity afterSequence maxEvents state =
        (reached, .ok ⟨(streams stream).ackSequence, accepted.length,
          (page accepted afterSequence maxEvents).map (retainedFrame codec)⟩) ∧
      view.Holding streams reached := by
  have length : (streams stream).events.length = accepted.length := by
    rw [retains.frames, length_map]
  have room : (streams stream).events.length + 1 < wordLimit := by
    have safe := retains.bounded
    rw [length]
    exact lt_of_le_of_lt (Nat.succ_le_succ safe) (by decide)
  rcases resume_total correct answering authority identity active retains.complete room
    length.le (length ▸ within) positive state holding with ⟨reached, batch, ran, events, kept⟩
  have batchIs := (resume_judged correct authority streams stream identity afterSequence
    maxEvents).of_ok holding ran
  refine ⟨reached, ?_, kept⟩
  rw [batchIs.1] at events
  change (streams stream).eventsAfter afterSequence maxEvents = _ at events
  rw [ran, batchIs.1, events, retains.whole, retains.frames, page, map_take, map_drop]

end

/-- How a request for a page is answered under a stamp: with the page when all of it was
retained under that stamp, and as foreign otherwise. -/
structure AnsweredUnder {Answer : Type} (lease : ExecutionLeaseStamp)
    (messages : List RuntimeEventMessage)
    (answer : Except (RuntimeReplayError AuthorityError StoreError) Answer) (replayed : Answer) :
    Prop where
  whole : answer = .ok replayed ↔ ∀ message ∈ messages, message.lease = lease
  foreign : (∃ message ∈ messages, message.lease ≠ lease) →
    ∃ sequence, answer = .error (.frame sequence .identityMismatch)

theorem Tracked.answered {Answer : Type} (tracked : Tracked view codec start run)
    (faithful : codec.Faithful run.accepted) (among : messages ⊆ run.accepted)
    (build : List RuntimeEventMessage → Answer)
    {answer : Except (RuntimeReplayError AuthorityError StoreError) Answer}
    (made : answer = (messages.map (retainedFrame codec)).mapM (decodeFrame codec run.identity) >>=
      fun events => .ok (build events)) :
    AnsweredUnder run.identity.lease messages answer (build messages) := by
  -- The messages are of one execution, so their stamps decide whether the identities agree.
  have stamp : ∀ message ∈ messages,
      (identityOfEvent message = run.identity ↔ message.lease = run.identity.lease) := by
    intro message member
    obtain ⟨expiresAt, same⟩ := tracked.identified message (among member)
    obtain ⟨expiresAt', renewed⟩ := tracked.renewed
    rw [renewed]
    constructor
    · intro equal
      exact congrArg RuntimeReplayIdentity.lease equal
    · intro equal
      have lease : message.lease = (start.until expiresAt).lease :=
        congrArg RuntimeReplayIdentity.lease same
      have expiry : expiresAt = expiresAt' :=
        congrArg ExecutionLeaseStamp.expiresAt (lease.symm.trans equal)
      rw [same, expiry]
  rw [decodeFrames_retained (fun message member => faithful message (among member))
    fun message member => tracked.retains.checked message (among member)] at made
  cases found : messages.find? (identityOfEvent · ≠ run.identity) with
  | none =>
    have same : ∀ message ∈ messages, message.lease = run.identity.lease := by
      intro message member
      exact (stamp message member).mp (by simpa using find?_eq_none.mp found message member)
    rw [found] at made
    exact ⟨⟨fun _ => same, fun _ => made⟩,
      fun ⟨message, member, different⟩ => absurd (same message member) different⟩
  | some foreign =>
    have member := mem_of_find?_eq_some found
    have different : foreign.lease ≠ run.identity.lease := by
      rw [Ne, ← stamp foreign member]
      simpa using find?_some found
    rw [found] at made
    refine ⟨⟨fun answered => ?_, fun same => absurd (same foreign member) different⟩,
      fun _ => ⟨_, made⟩⟩
    cases answered.symm.trans made

theorem maxEvents_of_validateRequest (validated : validateRequest request = .ok afterSequence) :
    toUnsigned request.maxEvents = some request.maxEvents.toNat ∧ 0 < request.maxEvents.toNat := by
  simp only [validateRequest, eq_ok, not_not] at validated
  obtain ⟨_, _, _, _, _, _, _, _, _, _, _, ⟨_, _⟩, _⟩ := validated
  exact ⟨if_pos (by omega), by omega⟩

variable {message : RuntimeAckMessage}

theorem replayFrom_of_validateAck (checked : validateAck message = .ok validated)
    (gap : message.status = .gap) :
    validated.replayFromSequence = some (validated.ackSequence + 1) := by
  simp only [validateAck, validateReplayFrom, if_pos gap, eq_ok] at checked
  rcases checked with ⟨_, _, _, _, _, _, _, _, _, _, ackSequence, _, _, safe, _,
    ⟨_, _, _, _, _, _, _, follows, rfl⟩, rfl⟩
  have room : ackSequence + 1 ≤ wordLimit - 1 :=
    le_trans (Nat.succ_le_succ (Nat.le_of_not_lt safe)) (by decide)
  rw [not_or, not_not, saturatingAdd, min_eq_left room] at follows
  rw [follows.2]

section Answers
variable (correct : store.Correct view)
  (answering : store.Answering view (runtimeStreamKey start) run.accepted.length)
  (tracked : Tracked view codec start run) (faithful : codec.Faithful run.accepted)
  (authority : ReplayAuthority RuntimeReplayIdentity AuthorityError)
  (active : authority.validateActiveLease (runtimeStreamKey run.identity) run.identity = .ok ())
  {ackSequence : Nat}
  (acknowledged : (view.retained run.store (runtimeStreamKey start)).ackSequence = ackSequence)

include tracked acknowledged in
theorem ackSequence_safe : ackSequence ≤ Text.maxSafeInteger := by
  have retains := tracked.retains
  rw [← acknowledged]
  exact le_trans (retains.whole ▸ retains.complete.sound.acknowledged) retains.bounded

include correct answering tracked faithful active acknowledged

theorem resumeRuntime_answered (asked : identityOfRequest request = run.identity)
    (validated : validateRequest request = .ok afterSequence)
    (within : afterSequence ≤ run.accepted.length) : AnsweredUnder run.identity.lease
      (page run.accepted afterSequence request.maxEvents.toNat)
      (resumeRuntime codec store authority request run.store).2 ⟨ackSequence, run.accepted.length,
        page run.accepted afterSequence request.maxEvents.toNat⟩ := by
  have retains := tracked.retains
  have most := maxEvents_of_validateRequest validated
  rw [tracked.streamKey] at active
  rcases resume_page correct answering retains authority active within most.2
    ⟨tracked.valid, rfl⟩ with ⟨reached, ran, _⟩
  rw [acknowledged] at ran
  apply tracked.answered faithful page_subset
    (RuntimeReplayBatch.mk ackSequence run.accepted.length)
  unfold resumeRuntime
  rw [bind_lift_ok (mapError_eq_ok.mpr validated),
    bind_lift_ok (okOr_eq_ok.mpr most.1)]
  simp only [asked, tracked.streamKey]
  rw [bind_ok (mapError_ok ran),
    bind_lift_ok (toAckSequence_safe (ackSequence_safe tracked acknowledged)),
    bind_lift_ok (toAckSequence_safe retains.bounded)]
  generalize List.mapM (decodeFrame codec run.identity) _ = decoded
  cases decoded <;> rfl

theorem acknowledgeRuntime_answered (asked : identityOfAck message = run.identity)
    (checked : validateAck message = .ok validated) (gap : message.status = .gap)
    (within : validated.ackSequence ≤ run.accepted.length) : AnsweredUnder run.identity.lease
      (page run.accepted validated.ackSequence maxReplayEvents.toNat)
      (acknowledgeRuntime codec store authority message run.store).2
      ⟨.gap, ackSequence, run.accepted.length, message.replayFromSequence,
        some ⟨ackSequence, run.accepted.length,
          page run.accepted validated.ackSequence maxReplayEvents.toNat⟩⟩ := by
  have retains := tracked.retains
  rw [tracked.streamKey] at active
  -- The watermarks are read before and after the frames; nothing moves in between.
  rcases resume_page correct answering retains authority active (Nat.zero_le _) Nat.one_pos
    ⟨tracked.valid, rfl⟩ with ⟨first, ranBefore, holding⟩
  rcases resume_page correct answering retains authority active within
    (show 0 < maxReplayEvents.toNat by decide) holding with ⟨second, ranPage, holding'⟩
  rcases resume_page correct answering retains authority active (Nat.zero_le _) Nat.one_pos
    holding' with ⟨third, ranAfter, _⟩
  rw [acknowledged] at ranBefore ranPage ranAfter
  have ackOk := @toAckSequence_safe StoreError AuthorityError _
    (ackSequence_safe tracked acknowledged)
  have highestOk := @toAckSequence_safe StoreError AuthorityError _ retains.bounded
  apply tracked.answered faithful page_subset
    (fun events => RuntimeReplayAckReceipt.mk .gap ackSequence run.accepted.length
      message.replayFromSequence (some ⟨ackSequence, run.accepted.length, events⟩))
  have applied : applyAck store authority message validated
      ⟨ackSequence, run.accepted.length, (page run.accepted 0 1).map (retainedFrame codec)⟩ first =
      (second, .ok (ackSequence, some ⟨ackSequence, run.accepted.length,
          (page run.accepted validated.ackSequence maxReplayEvents.toNat).map
            (retainedFrame codec)⟩)) := by
    simp only [applyAck, gap, replayFrom_of_validateAck checked gap, Nat.add_sub_cancel, asked,
      tracked.streamKey]
    rw [bind_ok (mapError_ok ranPage)]
    rfl
  unfold acknowledgeRuntime
  rw [bind_lift_ok (mapError_eq_ok.mpr checked)]
  simp only [asked, tracked.streamKey]
  rw [bind_ok (mapError_ok ranBefore), bind_ok applied,
    bind_ok (mapError_ok ranAfter)]
  simp only [Program.lift, ackReceipt, asked, gap, runtimeBatch, Option.mapM_some, ackOk, highestOk]
  cases (page run.accepted validated.ackSequence maxReplayEvents.toNat).map
    (retainedFrame codec) |>.mapM (decodeFrame codec run.identity) <;> rfl

end Answers

/-- In every run of an execution under renewals, a request or a gap within the stream is
answered with the accepted messages it asks for exactly when they were all retained under the
stamp it carries. Otherwise it fails on a frame that the same execution retained. -/
theorem replayed_iff_same_stamp (correct : store.Correct view)
    (start : RuntimeReplayIdentity) (initial : Store) (valid : view.Valid initial)
    (fresh : view.retained initial (runtimeStreamKey start) = {})
    (calls : List (ExecutionCall AuthorityError)) (run : ExecutionRun Store)
    (ran : Runs.after (performCall codec store) ⟨initial, start, []⟩ calls = run)
    (answering : store.Answering view (runtimeStreamKey start) run.accepted.length)
    (faithful : codec.Faithful run.accepted)
    (authority : ReplayAuthority RuntimeReplayIdentity AuthorityError)
    (active : authority.validateActiveLease (runtimeStreamKey run.identity) run.identity = .ok ()) :
    (∀ request afterSequence, identityOfRequest request = run.identity →
      validateRequest request = .ok afterSequence → afterSequence ≤ run.accepted.length →
      AnsweredUnder run.identity.lease (page run.accepted afterSequence request.maxEvents.toNat)
        (resumeRuntime codec store authority request run.store).2
        ⟨(view.retained run.store (runtimeStreamKey start)).ackSequence, run.accepted.length,
          page run.accepted afterSequence request.maxEvents.toNat⟩) ∧
    (∀ message validated, identityOfAck message = run.identity →
      validateAck message = .ok validated → message.status = .gap →
      validated.ackSequence ≤ run.accepted.length →
      AnsweredUnder run.identity.lease
        (page run.accepted validated.ackSequence maxReplayEvents.toNat)
        (acknowledgeRuntime codec store authority message run.store).2
        ⟨.gap, (view.retained run.store (runtimeStreamKey start)).ackSequence,
          run.accepted.length, message.replayFromSequence,
          some ⟨(view.retained run.store (runtimeStreamKey start)).ackSequence, run.accepted.length,
            page run.accepted validated.ackSequence maxReplayEvents.toNat⟩⟩) := by
  have tracked : Tracked view codec start run := ran ▸ run_tracked correct valid fresh calls
  constructor
  · intro _ _ asked validated within
    exact resumeRuntime_answered correct answering tracked faithful authority active rfl
      asked validated within
  · intro _ _ asked checked gap within
    exact acknowledgeRuntime_answered correct answering tracked faithful authority active rfl
      asked checked gap within

end Runs

section Renewed

def leaseAuthority (current : ExecutionLeaseStamp) : ReplayAuthority RuntimeReplayIdentity Unit :=
  ⟨fun _ identity =>
    if retainedLeaseMatchesCurrent identity.lease current then .ok () else .error ()⟩

def sampleExecution : RuntimeReplayIdentity := ⟨firstLease, "session", sampleSession, "thread"⟩

def sampleDraft (sequence : Nat) : EventDraft :=
  ⟨⟨.activity, String.ofList (replicate sequence 'e'), "2026-01-01T00:01:00.000Z", none, sequence,
    "started"⟩, "message", "2026-01-01T00:01:00.000Z"⟩

def tableCodec (messages : List RuntimeEventMessage) : RuntimeCodec where
  encode message := [UInt8.ofNat (messages.idxOf message)]
  decode
    | [position] => messages[position.toNat]?
    | _ => none
  encodeEvent _ := []
  hexDigest _ := "00"

def firstMessage : RuntimeEventMessage := (sampleDraft 1).message sampleExecution

def secondMessage : RuntimeEventMessage :=
  (sampleDraft 2).message (sampleExecution.until renewedLease.expiresAt)

def sampleCodec : RuntimeCodec := tableCodec [firstMessage, secondMessage]

def retainSample : ExecutionCall Unit := .retain (leaseAuthority firstLease) (sampleDraft 1)

def renewSample : ExecutionCall Unit := .renew sampleRenewal "2026-01-01T00:06:00.000Z"

def retainRenewed : ExecutionCall Unit := .retain (leaseAuthority renewedLease) (sampleDraft 2)

def afterSample (calls : List (ExecutionCall Unit)) : ExecutionRun Streams :=
  Runs.after (performCall sampleCodec streamStore) ⟨fun _ => {}, sampleExecution, []⟩ calls

def sampleRequest (afterSequence : Int) : RuntimeReplayRequestMessage :=
  ⟨afterSequence, renewedLease, 10, "message", "request", "2026-01-01T00:07:00.000Z",
    sampleSession, "session"⟩

def sampleGap : RuntimeAckMessage :=
  ⟨0, renewedLease, "xmsg_00000000000000000000000000", some 1, "2026-01-01T00:07:00.000Z",
    sampleSession, .gap, "session"⟩

/-- What was retained after a renewal is replayed to a request that asks for nothing older. -/
theorem replayed_iff_same_stamp_renewed :
    (afterSample [retainSample, renewSample, retainRenewed]).accepted =
      [firstMessage, secondMessage] ∧
    (resumeRuntime sampleCodec streamStore (leaseAuthority renewedLease) (sampleRequest 1)
      (afterSample [retainSample, renewSample, retainRenewed]).store).2 =
      .ok ⟨0, 2, [secondMessage]⟩ := by
  have runs : (afterSample [retainSample, renewSample, retainRenewed]).accepted =
      [firstMessage, secondMessage] ∧
      (afterSample [retainSample, renewSample, retainRenewed]).identity =
        sampleExecution.until renewedLease.expiresAt ∧
      (streamView.retained (afterSample [retainSample, renewSample, retainRenewed]).store
        (runtimeStreamKey sampleExecution)).ackSequence = 0 := by
    decide +kernel
  generalize ran : afterSample [retainSample, renewSample, retainRenewed] = run at runs
  obtain ⟨accepted, identity, acknowledged⟩ := runs
  have faithful : sampleCodec.Faithful run.accepted := by
    unfold RuntimeCodec.Faithful
    rw [accepted]
    decide +kernel
  have active : (leaseAuthority renewedLease).validateActiveLease
      (runtimeStreamKey run.identity) run.identity = .ok () := by
    rw [identity]
    decide +kernel
  have answered := (replayed_iff_same_stamp streamStore_correct sampleExecution (fun _ => {})
    trivial rfl [retainSample, renewSample, retainRenewed] run ran (streamStore_answering _ _)
    faithful (leaseAuthority renewedLease) active).1 (sampleRequest 1) 1
    (by rw [identity]; decide +kernel) (by decide +kernel) (by rw [accepted]; decide)
  rw [accepted, acknowledged, identity] at answered
  exact ⟨accepted, answered.whole.mpr (by decide +kernel)⟩

/-- After a valid renewal the event that was accepted before it is refused as foreign, to a
request and to a gap under the renewed lease. -/
theorem renewal_hides_retained_event :
    validLeaseRenewal firstLease sampleRenewal "2026-01-01T00:06:00.000Z" = true ∧
    (afterSample [retainSample, renewSample]).accepted = [firstMessage] ∧
    (afterSample [retainSample, renewSample]).identity.lease = renewedLease ∧
    (resumeRuntime sampleCodec streamStore (leaseAuthority renewedLease)
      (sampleRequest 0) (afterSample [retainSample, renewSample]).store).2 =
      .error (.frame 1 .identityMismatch) ∧
    (acknowledgeRuntime sampleCodec streamStore (leaseAuthority renewedLease)
      sampleGap (afterSample [retainSample, renewSample]).store).2 =
      .error (.frame 1 .identityMismatch) := by
  decide +kernel

end Renewed

end WinWinCode.ExecutionPort
