import WinWinCode.ExecutionPort.ReplayStreams
import WinWinCode.Foundation.Runs

/-!
Runs of the replay machine over a correct store. Every call moves each stream by
the steps of `ReplaySnapshot.Step` only, so a stream that starts empty stays
numbered from one, keeps what it retained and never lowers its acknowledgement.
From such a stream a frame that is offered again is recognised, one that collides
with a retained frame is refused, and resuming page after page returns the whole
history.
-/

namespace WinWinCode.ExecutionPort

open Fallible Counting Programs Relation ReplayFrame ReplaySnapshot ReflTransGen List Runs

variable {Store StoreError Context AuthorityError : Type}

inductive ReplayCall (Context AuthorityError : Type) where
  | accept (authority : ReplayAuthority Context AuthorityError) (stream : ReplayStreamKey)
      (context : Context) (frame : ReplayFrame)
  | resume (authority : ReplayAuthority Context AuthorityError) (stream : ReplayStreamKey)
      (context : Context) (afterSequence maxEvents : Nat)
  | acknowledge (authority : ReplayAuthority Context AuthorityError) (stream : ReplayStreamKey)
      (context : Context) (ackSequence : Nat)

def performed (store : ReplayStore Store StoreError) (state : Store) :
    ReplayCall Context AuthorityError → Store
  | .accept authority stream context frame => (accept store authority stream context frame state).1
  | .resume authority stream context afterSequence maxEvents =>
    (resume store authority stream context afterSequence maxEvents state).1
  | .acknowledge authority stream context ackSequence =>
    (acknowledge store authority stream context ackSequence state).1

/-- Read the whole stream page after page, each from the last frame of the one before. -/
def replayAll (store : ReplayStore Store StoreError)
    (authority : ReplayAuthority Context AuthorityError) (stream : ReplayStreamKey)
    (context : Context) (maxEvents : Nat) :
    Nat → Nat → Program Store (ReplayError AuthorityError StoreError) (List ReplayFrame)
  | 0, _ => pure []
  | fuel + 1, cursor => do
    let batch ← resume store authority stream context cursor maxEvents
    match batch.events.getLast? with
    | none => pure []
    | some last => do
      let rest ← replayAll store authority stream context maxEvents fuel last.sequence
      pure (batch.events ++ rest)

def Moved (early late : Streams) : Prop :=
  ∀ stream, ReflTransGen (ReplaySnapshot.Step stream) (early stream) (late stream)

theorem moved_refl (streams : Streams) : Moved streams streams :=
  fun _ => refl

variable {stream : ReplayStreamKey}

theorem moved_update {streams : Streams} {snapshot : ReplaySnapshot}
    (steps : ReflTransGen (ReplaySnapshot.Step stream) (streams stream) snapshot) :
    Moved streams (Function.update streams stream snapshot) := by
  intro other
  by_cases same : other = stream
  · subst same
    rwa [Function.update_self]
  · rw [Function.update_of_ne same]

variable {frame original : ReplayFrame} {retained : ReplaySnapshot} {decision : ReplayDecision}

section Safety
variable {store : ReplayStore Store StoreError} {view : ReplayView Store}

theorem decided_steps (checked : validateFrame stream frame = .ok ())
    (decided : Decided retained frame decision) :
    ReflTransGen (ReplaySnapshot.Step stream) retained (decision.leaves retained frame) := by
  cases decided with
  | accepted fresh next fits =>
    obtain ⟨addressed, identified, _, digested⟩ := validateFrame_eq_ok.mp checked
    exact single (.append frame next fits fresh ⟨identified, digested⟩ addressed)
  | duplicate | changed | occupied | gap | stale => exact refl

theorem performed_moved (correct : store.Correct view) (state : Store)
    (call : ReplayCall Context AuthorityError) (valid : view.Valid state) :
    view.Valid (performed store state call) ∧
      Moved (view.retained state) (view.retained (performed store state call)) := by
  let reached : Store → Prop := fun late =>
    view.Valid late ∧ Moved (view.retained state) (view.retained late)
  have unmoved : ∀ late, view.Holding (view.retained state) late → reached late :=
    fun late holding => ⟨holding.1, holding.2 ▸ moved_refl _⟩
  have settles : ∀ {Answer : Type}
      {program : Program Store (ReplayError AuthorityError StoreError) Answer}
      {after : Answer → Store → Prop},
      Triple (view.Holding (view.retained state)) program after
        (view.Holding (view.retained state)) →
      (∀ answer late, after answer late → reached late) → reached (program state).1 := by
    intro Answer _ _ judged answered
    exact Triple.reached (triple_mono judged answered unmoved) ⟨valid, rfl⟩
  cases call with
  | accept authority stream context frame =>
    have judged := accept_judged correct authority (view.retained state) stream context frame
    apply settles judged
    rintro _ late ⟨checked, decided, holding⟩
    exact ⟨holding.1, holding.2 ▸ moved_update (decided_steps checked decided)⟩
  | resume authority stream context afterSequence maxEvents =>
    have judged := resume_judged correct authority (view.retained state) stream context
      afterSequence maxEvents
    apply settles judged
    rintro _ late ⟨_, holding⟩
    exact unmoved late holding
  | acknowledge authority stream context ackSequence =>
    have judged := acknowledge_judged correct authority (view.retained state) stream context
      ackSequence
    apply settles judged
    rintro _ _ ⟨⟨advances, within⟩, holding⟩
    exact ⟨holding.1, holding.2 ▸
      moved_update (single (.acknowledge ackSequence advances within))⟩

theorem run_moved (correct : store.Correct view) {state : Store} (valid : view.Valid state)
    (calls : List (ReplayCall Context AuthorityError)) :
    view.Valid (after (performed store) state calls) ∧
      Moved (view.retained state) (view.retained (after (performed store) state calls)) := by
  constructor
  · exact after_invariant (performed store)
      (fun state call valid => (performed_moved correct state call valid).1) valid calls
  · exact @after_related _ _ (performed store) view.Valid _
      (fun early late => Moved (view.retained early) (view.retained late))
      (fun _ => moved_refl _) (fun first second stream => (first stream).trans (second stream))
      (fun state call valid => (performed_moved correct state call valid).1)
      (fun state call valid => (performed_moved correct state call valid).2) valid calls

/-- A frame that shares its id or its sequence with a retained frame, and is not that frame
again, only conflicts. -/
theorem conflict_of_collision (complete : retained.Complete stream)
    (member : original ∈ retained.events)
    (collides : original.eventId = frame.eventId ∨ original.sequence = frame.sequence)
    (different : original.sameEventIdentityAndDigest frame = false)
    (decided : Decided retained frame decision) :
    decision = .conflict retained.highestSequence := by
  have byId := complete.sound.eventById_mem member
  have bySequence := complete.sound.eventBySequence_mem member
  obtain ⟨_, _, at_⟩ := numbered_position sequence complete.numbered member
  have within := (List.getElem?_eq_some_iff.mp at_).1
  have whole := complete.whole
  cases decided with
  | duplicate found foundIs same =>
    -- The frame found by id is the collided one, or else the collided one has its sequence.
    rcases collides with sameId | sameSequence
    · rw [← sameId, byId] at foundIs
      rw [Option.some.inj foundIs, same] at different
      cases different
    · have sequenced := (sameEventIdentityAndDigest_iff.mp same).2.1
      have one := numbered_injective sequence complete.numbered
        (List.mem_of_find?_eq_some foundIs) member (sequenced.trans sameSequence.symm)
      rw [← one, same] at different
      cases different
  | changed | occupied | stale => rfl
  | gap fresh _ | accepted fresh _ =>
    rcases collides with sameId | _
    · rw [← sameId, byId] at fresh
      cases fresh
    · omega

end Safety

variable {maxEvents : Nat}

section Liveness
variable {store : ReplayStore Store StoreError} {view : ReplayView Store}
  {streams : Streams} {limit : Nat}

theorem validate_of_complete (complete : retained.Complete stream)
    (room : retained.events.length + 1 < wordLimit) : retained.validate = .ok () := by
  rw [validate_eq_ok]
  refine ⟨complete.sound, fun _ => ?_⟩
  rw [complete.firstSequence]
  omega

theorem loadSelected_total (correct : store.Correct view)
    (answering : store.Answering view stream limit) {query : ReplayReadQuery}
    (fits : query.Fits limit) (validated : (streams stream).validate = .ok ()) :
    Total (view.Holding streams)
      (loadSelected store stream query : Program Store (ReplayError AuthorityError StoreError) _)
      (fun snapshot state => query.Answered (streams stream) snapshot ∧
        view.Holding streams state) := by
  have acknowledged := (validate_eq_ok.mp validated).1.acknowledged
  have indexed := (correct.loadIndexed streams stream query).total
    fun state holding => answering.loadIndexed query state holding.1 fits
  apply total_bind (total_mapError indexed)
  intro found
  apply total_given
  intro answered
  cases found with
  | none =>
    have loaded := (correct.load streams stream).total
      fun state holding => answering.load state holding.1
    apply total_bind (total_mapError loaded)
    intro _
    apply total_given
    intro same
    rw [same]
    apply total_checked (mapError_eq_ok.mpr validated)
    exact total_pure fun state holding => ⟨query.answered_self _, holding⟩
  | some snapshot =>
    have shown := answered snapshot rfl
    have ordered : refuse (snapshot.highestSequence < snapshot.ackSequence)
        (.corruptState (.ackExceedsHighest snapshot.ackSequence snapshot.highestSequence) :
          ReplayError AuthorityError StoreError) = .ok () := by
      rw [refuse_eq_ok, shown.1, shown.2.1]
      omega
    apply total_checked ordered
    exact total_pure fun state holding => ⟨shown, holding⟩

theorem sequenceAfter_eq_ok (complete : retained.Complete stream)
    (room : retained.events.length + 1 < wordLimit) : okOr (checkedAdd retained.highestSequence 1)
      (.corruptState .sequenceOverflow : ReplayError AuthorityError StoreError) =
        .ok (retained.highestSequence + 1) := by
  rw [okOr_eq_ok, checkedAdd_eq_some, complete.whole]
  exact ⟨room, rfl⟩

section
variable (correct : store.Correct view) (answering : store.Answering view stream limit)
  (authority : ReplayAuthority Context AuthorityError) (context : Context)
  (active : authority.validateActiveLease stream context = .ok ())
  (complete : (streams stream).Complete stream)
  (room : (streams stream).events.length + 1 < wordLimit)
  (fits : (streams stream).events.length ≤ limit)
include correct answering active complete room fits

theorem accept_retained_total (member : original ∈ (streams stream).events)
    (same : original.sameEventIdentityAndDigest frame) :
    Total (view.Holding streams) (accept store authority stream context frame)
      (fun decision state => decision = .duplicate (streams stream).highestSequence original ∧
        view.Holding streams state) := by
  have byId := complete.sound.eventById_mem member
  have named := complete.sound.named original member
  have addressed := complete.addressed (ne_nil_of_mem member)
  obtain ⟨_, _, at_⟩ := numbered_position sequence complete.numbered member
  have inside := (List.getElem?_eq_some_iff.mp at_).1
  obtain ⟨id, sequence, digest⟩ := sameEventIdentityAndDigest_iff.mp same
  rw [id] at byId
  have checked : validateFrame stream frame = .ok () := by
    rw [validateFrame_eq_ok, ← id, ← sequence, ← digest]
    exact ⟨addressed, named.1, by omega, named.2⟩
  apply total_checked (mapError_eq_ok.mpr active)
  apply total_checked (mapError_eq_ok.mpr checked)
  have asked : (ReplayReadQuery.conflict frame.eventId frame.sequence).Fits limit := by
    change frame.sequence ≤ limit
    omega
  apply total_bind (loadSelected_total correct answering asked (validate_of_complete complete room))
  intro _
  apply total_given
  rintro ⟨_, highest, foundById, _⟩
  unfold acceptLoaded
  rw [foundById, byId, highest]
  apply total_checked (sequenceAfter_eq_ok complete room)
  dsimp only
  rw [if_pos same]
  exact total_pure fun state holding => ⟨rfl, holding⟩

theorem resume_total {afterSequence : Nat} (within : afterSequence ≤ (streams stream).events.length)
    (positive : 0 < maxEvents) : Total (view.Holding streams)
      (resume store authority stream context afterSequence maxEvents) (fun batch state =>
        batch.events = ((streams stream).events.drop afterSequence).take maxEvents ∧
          view.Holding streams state) := by
  apply total_checked (mapError_eq_ok.mpr active)
  have some_ : refuse (maxEvents = 0)
      (.invalidInput .zeroMaxEvents : ReplayError AuthorityError StoreError) = .ok () := by
    rw [refuse_eq_ok]
    omega
  apply total_checked some_
  have asked : (ReplayReadQuery.after afterSequence maxEvents).Fits limit :=
    ⟨within.trans fits, positive⟩
  apply total_bind (loadSelected_total correct answering asked (validate_of_complete complete room))
  intro snapshot
  apply total_given
  rintro ⟨_, highest, events⟩
  have ahead : ¬ snapshot.highestSequence < afterSequence := by
    rw [highest, complete.whole]
    omega
  have resumed : (resumeLoaded afterSequence maxEvents snapshot :
      Except (ReplayError AuthorityError StoreError) ReplayBatch) =
      .ok ⟨snapshot.ackSequence, snapshot.highestSequence,
        snapshot.eventsAfter afterSequence maxEvents⟩ := by
    rw [resumeLoaded, refuse_bind_eq_ok]
    exact ⟨ahead, rfl⟩
  intro state holding
  refine ⟨state, _, Program.lift_ok resumed state, ?_, holding⟩
  rw [events, eventsAfter, numbered_filter_above sequence complete.numbered, Nat.add_sub_cancel]

/-- Page after page returns the frames after the cursor, each once and in order. -/
theorem replayAll_total (positive : 0 < maxEvents) (fuel cursor : Nat)
    (within : cursor ≤ (streams stream).events.length)
    (enough : (streams stream).events.length < cursor + fuel) :
    Total (view.Holding streams) (replayAll store authority stream context maxEvents fuel cursor)
      (fun frames state => frames = (streams stream).events.drop cursor ∧
        view.Holding streams state) := by
  induction fuel generalizing cursor with
  | zero => omega
  | succ _ ih =>
    apply total_bind (resume_total correct answering authority context active complete room
      fits within positive)
    intro batch
    apply total_given
    intro page
    have numbered := numbered_take sequence
      (numbered_drop sequence complete.numbered cursor) maxEvents
    rw [← page] at numbered
    cases ended : batch.events.getLast? with
    | none =>
      -- An empty page of a positive size means that no frame is left.
      apply total_pure
      intro _ holding
      rw [getLast?_eq_none_iff.mp ended, eq_comm, take_eq_nil_iff] at page
      exact ⟨(page.resolve_left (by omega)).symm, holding⟩
    | some last =>
      have numberedLast := numbered_getLast? sequence numbered ended
      have lengths : batch.events.length =
          min maxEvents ((streams stream).events.length - cursor) := by
        rw [page, length_take, length_drop]
      have kept : batch.events ≠ [] := by
        intro empty
        rw [empty] at ended
        cases ended
      have longer := length_pos_iff.mpr kept
      apply total_bind (ih last.sequence (by omega) (by omega))
      intro _
      apply total_given
      intro others
      apply total_pure
      intro _ holding
      refine ⟨?_, holding⟩
      rw [others, show last.sequence = cursor + batch.events.length by omega, ← drop_drop]
      nth_rewrite 1 [page]
      rw [lengths]
      have cut : ((streams stream).events.drop cursor).take maxEvents =
          ((streams stream).events.drop cursor).take
            (min maxEvents ((streams stream).events.length - cursor)) := by
        rw [← length_drop, ← take_take, take_length]
      rw [cut, take_append_drop]

end

end Liveness

section

/-- The streams themselves as a store: it has no index, and no call fails. -/
def streamStore : ReplayStore Streams Empty where
  load stream := fun streams => (streams, .ok (some (streams stream)))
  loadIndexed _ _ := pure none
  append stream _ frame := fun streams =>
    (Function.update streams stream ((streams stream).extend frame), .ok ())
  recordAcknowledgement stream _ ackSequence := fun streams =>
    (Function.update streams stream ((streams stream).acknowledgedThrough ackSequence), .ok ())

def streamView : ReplayView Streams := ⟨fun _ => True, id⟩

theorem streamStore_correct : streamStore.Correct streamView where
  load := by
    rintro _ _ _ ⟨_, rfl⟩
    exact ⟨rfl, trivial, rfl⟩
  loadIndexed _ _ _ _ holding := ⟨fun _ found => (nomatch found), holding⟩
  append := by
    rintro _ _ _ _ _ ⟨_, rfl⟩
    exact ⟨trivial, rfl⟩
  recordAcknowledgement := by
    rintro _ _ _ _ _ _ ⟨_, rfl⟩
    exact ⟨trivial, rfl⟩

theorem streamStore_answering (stream : ReplayStreamKey) (limit : Nat) :
    streamStore.Answering streamView stream limit where
  load streams _ := ⟨some (streams stream), rfl⟩
  loadIndexed _ _ _ _ := ⟨none, rfl⟩

def activeAuthority : ReplayAuthority Unit Unit := ⟨fun _ _ => .ok ()⟩

def sampleStream : ReplayStreamKey := ⟨"runtime"⟩

def sampleFrame (sequence : Nat) (bytes : List UInt8) : ReplayFrame :=
  ⟨String.ofList (List.replicate sequence 'e'), sequence, "digest", bytes⟩

def sampleCalls (count : Nat) : List (ReplayCall Unit Unit) :=
  (List.range' 1 count).map fun sequence =>
    .accept activeAuthority sampleStream () (sampleFrame sequence [])

def sampleRun (calls : List (ReplayCall Unit Unit)) : Streams :=
  after (performed streamStore) (fun _ => {}) calls

variable {streams : Streams}

theorem streamStore_accept (checked : validateFrame sampleStream frame = .ok ()) :
    accept streamStore activeAuthority sampleStream () frame streams =
      (Program.lift ((streams sampleStream).validate.mapError .corruptState) >>= fun _ =>
        acceptLoaded streamStore sampleStream frame (streams sampleStream)) streams := by
  change Program.bind (Program.lift ((validateFrame sampleStream frame).mapError _)) _ streams = _
  rw [checked]
  change Program.bind (Program.bind (Program.lift ((streams sampleStream).validate.mapError
    ReplayError.corruptState)) _) _ streams = Program.bind _ _ streams
  cases (streams sampleStream).validate <;> rfl

theorem streamStore_accept_next (complete : (streams sampleStream).Complete sampleStream)
    (room : (streams sampleStream).events.length + 1 < wordLimit)
    (checked : validateFrame sampleStream frame = .ok ())
    (fresh : (streams sampleStream).eventById frame.eventId = none)
    (next : frame.sequence = (streams sampleStream).events.length + 1) :
    (accept streamStore activeAuthority sampleStream () frame streams).1 =
      Function.update streams sampleStream ((streams sampleStream).extend frame) := by
  -- The retained numbers end at the length, so the next one is not among them.
  have unused : (streams sampleStream).eventBySequence
      ((streams sampleStream).events.length + 1) = none := by
    rw [eventBySequence, List.find?_eq_none]
    intro other member same
    obtain ⟨_, _, at_⟩ := numbered_position sequence complete.numbered member
    have inside := (List.getElem?_eq_some_iff.mp at_).1
    have := eq_of_beq same
    omega
  rw [streamStore_accept checked, acceptLoaded,
    Program.bind_lift_ok (mapError_eq_ok.mpr (validate_of_complete complete room)),
    Program.bind_lift_ok (sequenceAfter_eq_ok complete room), fresh, complete.whole, next]
  simp only [unused, Option.isSome_none, Bool.false_eq_true, if_false, lt_irrefl]
  rfl

theorem sampleCalls_retained (count : Nat) (fits : count < wordLimit) :
    sampleRun (sampleCalls count) sampleStream =
      ⟨0, count, (List.range' 1 count).map (sampleFrame · [])⟩ := by
  induction count with
  | zero => rfl
  | succ count ih =>
    have before := ih (Nat.lt_of_succ_lt fits)
    have empty : streamView.Valid fun _ => {} := trivial
    have complete := (complete_empty sampleStream).steps
      ((run_moved streamStore_correct empty (sampleCalls count)).2 sampleStream)
    change (sampleRun (sampleCalls count) sampleStream).Complete sampleStream at complete
    unfold sampleRun sampleCalls at before complete ⊢
    rw [List.range'_1_concat, List.map_append, after_append, List.map_singleton,
      add_comm 1 count]
    generalize after (performed streamStore) _ _ = streams at before complete ⊢
    have counted : (streams sampleStream).events.length = count := by simp [before]
    have checked : validateFrame sampleStream (sampleFrame (count + 1) []) = .ok () :=
      validateFrame_eq_ok.mpr
        ⟨by decide, by simp [sampleFrame], Nat.succ_ne_zero count, by simp [sampleFrame]⟩
    have fresh : (streams sampleStream).eventById (sampleFrame (count + 1) []).eventId = none := by
      rw [eventById_eq_none, before, List.map_map, List.mem_map]
      rintro ⟨_, member, same⟩
      have length := congrArg String.length same
      simp [sampleFrame] at length
      have := mem_range'_1.mp member
      omega
    change (accept streamStore activeAuthority sampleStream () (sampleFrame (count + 1) [])
      streams).1 sampleStream = _
    rw [streamStore_accept_next complete (counted ▸ fits) checked fresh (counted ▸ rfl),
      Function.update_self, before]
    simp [extend, sampleFrame]

/-- A stream that reaches the last 64-bit number can no longer be read. -/
theorem streamStore_accept_full {count : Nat}
    (shown : streams sampleStream = ⟨0, count, (List.range' 1 count).map (sampleFrame · [])⟩)
    (positive : 0 < count) (full : wordLimit ≤ count + 1) :
    sampleFrame 1 [] ∈ (streams sampleStream).events ∧
      ∃ error, (accept streamStore activeAuthority sampleStream () (sampleFrame 1 []) streams).2 =
        .error (.corruptState error) := by
  have first : sampleFrame 1 [] ∈ (streams sampleStream).events := by
    rw [shown, mem_map]
    exact ⟨1, mem_range'_1.mpr (by omega), rfl⟩
  refine ⟨first, ?_⟩
  cases validated : (streams sampleStream).validate with
  | ok _ =>
    have numbered := validate_eq_ok.mp validated
    have started := numbered.1.started
    have room := numbered.2 (ne_nil_of_mem first)
    rw [shown] at room started
    simp only [length_map, length_range'] at room
    omega
  | error error =>
    rw [streamStore_accept (by decide +kernel), validated]
    exact ⟨error, rfl⟩

end

section
variable (store : ReplayStore Store StoreError) (view : ReplayView Store)

/-- What holds of a stream in a state that a run from an empty stream reached. The last
three parts are about the next calls. Those that promise an answer ask for a lease that is
active, a stream that ends before the last 64-bit number, and reads of the stream that
succeed for numbers up to its length. -/
structure StreamGuarantees (Context AuthorityError : Type) (stream : ReplayStreamKey)
    (state : Store) : Prop where
  numbered : (view.retained state stream).events.map sequence =
    List.range' 1 (view.retained state stream).events.length
  distinct : ((view.retained state stream).events.map eventId).Nodup
  acknowledged : (view.retained state stream).ackSequence ≤
    (view.retained state stream).events.length
  duplicates : ∀ (authority : ReplayAuthority Context AuthorityError) (context : Context)
    (frame original : ReplayFrame), original ∈ (view.retained state stream).events →
    original.sameEventIdentityAndDigest frame = true →
    authority.validateActiveLease stream context = .ok () →
    (view.retained state stream).events.length + 1 < wordLimit →
    store.Answering view stream (view.retained state stream).events.length →
    ∃ reached, accept store authority stream context frame state =
        (reached, .ok (.duplicate (view.retained state stream).events.length original)) ∧
      view.retained reached = view.retained state
  refused : ∀ (authority : ReplayAuthority Context AuthorityError) (context : Context)
    (frame original : ReplayFrame), original ∈ (view.retained state stream).events →
    original.eventId = frame.eventId ∨ original.sequence = frame.sequence →
    original.sameEventIdentityAndDigest frame = false →
    view.retained (accept store authority stream context frame state).1 = view.retained state ∧
      ∀ decision, (accept store authority stream context frame state).2 = .ok decision →
        decision = .conflict (view.retained state stream).events.length
  pages : ∀ (authority : ReplayAuthority Context AuthorityError) (context : Context)
    (maxEvents fuel : Nat), authority.validateActiveLease stream context = .ok () →
    0 < maxEvents → (view.retained state stream).events.length + 1 < wordLimit →
    store.Answering view stream (view.retained state stream).events.length →
    (view.retained state stream).events.length < fuel →
    ∃ reached, replayAll store authority stream context maxEvents fuel 0 state =
        (reached, .ok (view.retained state stream).events) ∧
      view.retained reached = view.retained state

variable {store view}

theorem accept_collision (correct : store.Correct view) {state : Store} (valid : view.Valid state)
    (complete : (view.retained state stream).Complete stream)
    (authority : ReplayAuthority Context AuthorityError) (context : Context)
    (member : original ∈ (view.retained state stream).events)
    (collides : original.eventId = frame.eventId ∨ original.sequence = frame.sequence)
    (different : original.sameEventIdentityAndDigest frame = false) :
    view.retained (accept store authority stream context frame state).1 = view.retained state ∧
      ∀ decision, (accept store authority stream context frame state).2 = .ok decision →
        decision = .conflict (view.retained state stream).events.length := by
  have judged := accept_judged correct authority (view.retained state) stream context frame
    state ⟨valid, rfl⟩
  cases outcome : accept store authority stream context frame state with
  | mk _ result =>
    rw [outcome] at judged
    cases result with
    | error _ => exact ⟨judged.2, fun _ answered => nomatch answered⟩
    | ok _ =>
      obtain ⟨_, decided, holding⟩ := judged
      have conflict := conflict_of_collision complete member collides different decided
      rw [conflict, complete.whole] at holding ⊢
      rw [ReplayDecision.leaves, Function.update_eq_self] at holding
      exact ⟨holding.2, fun answer answered => (Except.ok.inj answered).symm⟩

/-- Every run of the machine on an empty stream of a correct store keeps the stream's
guarantees, and whatever is called later only extends what is retained. -/
theorem replay_stream_guarantees (correct : store.Correct view) (stream : ReplayStreamKey)
    {start : Store} (valid : view.Valid start) (empty : view.retained start stream = {})
    (calls later : List (ReplayCall Context AuthorityError)) :
    StreamGuarantees store view Context AuthorityError stream
        (after (performed store) start calls) ∧
      (view.retained (after (performed store) start calls) stream).Grows
        (view.retained (after (performed store) start (calls ++ later)) stream) := by
  have reached := run_moved correct valid calls
  rw [after_append]
  generalize after (performed store) start calls = state at reached
  have steps := reached.2 stream
  rw [empty] at steps
  have complete := (complete_empty stream).steps steps
  constructor
  · exact {
      numbered := numbered_map sequence complete.numbered
      distinct := complete.sound.distinct
      acknowledged := complete.whole ▸ complete.sound.acknowledged
      duplicates := by
        intro authority context frame original member same active room answering
        rcases accept_retained_total correct answering authority context active complete room
          le_rfl member same state ⟨reached.1, rfl⟩ with ⟨late, decision, ran, rfl, holding⟩
        exact ⟨late, complete.whole ▸ ran, holding.2⟩
      refused := fun authority context frame original member collides different =>
        accept_collision correct reached.1 complete authority context member collides different
      pages := by
        intro authority context _ fuel active positive room answering _
        rcases replayAll_total correct answering authority context active complete room le_rfl
          positive fuel 0 (Nat.zero_le _) (by omega) state ⟨reached.1, rfl⟩ with
          ⟨late, frames, ran, rfl, holding⟩
        exact ⟨late, ran, holding.2⟩ }
  · exact grows_of_steps ((run_moved correct reached.1 later).2 stream)

theorem replay_stream_guarantees_stored : sampleRun [] sampleStream = {} ∧
      StreamGuarantees streamStore streamView Unit Unit sampleStream (sampleRun (sampleCalls 2)) :=
  ⟨rfl, (replay_stream_guarantees streamStore_correct sampleStream trivial rfl (sampleCalls 2)
    []).1⟩

/-- A frame is compared by its id, sequence and digest: other bytes under the same three are
a duplicate. And at the last 64-bit number a retained frame is no longer recognised. -/
theorem frame_bytes_not_compared : (∃ calls retained offered, retained ∈
        (sampleRun calls sampleStream).events ∧
      offered ≠ retained ∧ offered.sequence = retained.sequence ∧
      (accept streamStore activeAuthority sampleStream () offered (sampleRun calls)).2 =
        .ok (.duplicate 1 retained)) ∧
    (∃ calls retained error, retained ∈ (sampleRun calls sampleStream).events ∧
      (accept streamStore activeAuthority sampleStream () retained (sampleRun calls)).2 =
        .error (.corruptState error)) := by
  constructor
  · refine ⟨sampleCalls 1, sampleFrame 1 [], sampleFrame 1 [0], ?_, by decide, rfl, ?_⟩
    · decide +kernel
    · decide +kernel
  · have shown := sampleCalls_retained (wordLimit - 1) (by decide)
    obtain ⟨first, error, failed⟩ := streamStore_accept_full shown (by decide) (by decide)
    exact ⟨sampleCalls (wordLimit - 1), sampleFrame 1 [], error, first, failed⟩

end

end WinWinCode.ExecutionPort
