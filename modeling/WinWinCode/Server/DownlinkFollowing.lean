import WinWinCode.Server.DownlinkLedger

/-!
The devices of the downlink over every run. As long as a node's requests carry
cursors its device reported, the device meets no gap, its accepted frames are the
front of the node's log, and polling brings it the rest.
-/

namespace WinWinCode.Server

open Counting Exchange Fallible Programs Storage Tables Text List Runs

variable {Body Rest : Type} {batch log : List ClientDownlinkFrame} {device : DownlinkDevice}

namespace DownlinkDevice

/-- A device that has accepted the front of a log up to its cursor. -/
structure Follows (log : List ClientDownlinkFrame) (device : DownlinkDevice) : Prop where
  accepted : device.accepted = log.take device.cursor.ackSequence
  within : device.cursor.ackSequence ≤ log.length
  gapless : device.sawGap = false

theorem Follows.append (follows : device.Follows log) (more : List ClientDownlinkFrame) :
    device.Follows (log ++ more) := by
  refine ⟨?_, ?_, follows.gapless⟩
  · rw [take_append_of_le_length follows.within, follows.accepted]
  · rw [length_append]
    exact Nat.le_add_right_of_le follows.within

/-- Working through a stretch of the log that begins at or before the cursor: every
frame up to its end is accepted and nothing else changes. -/
theorem ingest_stretch (numbered : Numbered ClientDownlinkFrame.sequence 1 log)
    (bounded : log.length ≤ maxSafeInteger) {first : Nat} (stretch : batch <+: log.drop first)
    (follows : device.Follows log) (behind : first ≤ device.cursor.ackSequence) :
    (device.ingestDownlink batch).Follows log ∧ (device.ingestDownlink batch).cursor.ackSequence =
        max device.cursor.ackSequence (first + batch.length) := by
  induction batch generalizing first device with
  | nil =>
    refine ⟨follows, ?_⟩
    rw [length_nil, add_zero, max_eq_left behind]
    rfl
  | cons frame rest ih =>
    obtain ⟨tail, split⟩ := stretch
    rw [cons_append] at split
    have place : frame.sequence = first + 1 := by
      have shifted := numbered_drop _ numbered first
      rw [← split] at shifted
      rw [shifted.1, add_comm]
    have next : log.drop (first + 1) = rest ++ tail := by
      rw [← drop_drop, ← split]
      rfl
    have inside : first < log.length := by
      by_contra outside
      rw [drop_eq_nil_of_le (Nat.not_lt.mp outside)] at split
      exact cons_ne_nil _ _ split
    have onward : rest <+: log.drop (first + 1) := ⟨tail, next.symm⟩
    by_cases old : first + 1 ≤ device.cursor.ackSequence
    · have skipped : device.cursor.observe frame.sequence = .duplicate :=
        AckCursor.observe_behind (by omega) (by omega)
      have same : device.ingestDownlink (frame :: rest) = device.ingestDownlink rest := by
        rw [ingestDownlink, skipped]
      rw [same]
      obtain ⟨kept, reached⟩ := ih onward follows old
      refine ⟨kept, reached.trans ?_⟩
      rw [length_cons]
      congr 1
      omega
    · -- the frame is the next one, and becomes the last accepted
      have here : device.cursor.ackSequence = first := by omega
      have room : device.cursor.ackSequence + 1 < wordLimit := by
        unfold maxSafeInteger at bounded
        unfold wordLimit
        omega
      have taken : device.cursor.observe frame.sequence = .accept := by
        rw [place, ← here]
        simp [AckCursor.observe, AckCursor.nextExpected, checkedAdd, room]
      let moved : DownlinkDevice :=
        { device with cursor := ⟨frame.sequence⟩, accepted := device.accepted ++ [frame] }
      have same : device.ingestDownlink (frame :: rest) = moved.ingestDownlink rest := by
        rw [ingestDownlink, taken]
        dsimp only
        rw [AckCursor.observe_accept_advance taken]
      have extended : moved.Follows log := by
        refine ⟨?_, ?_, follows.gapless⟩
        · change device.accepted ++ [frame] = log.take frame.sequence
          have found : log[first]? = some frame := by
            rw [← head?_drop, ← split]
            rfl
          rw [follows.accepted, here, place, take_add_one, found]
          rfl
        · change frame.sequence ≤ log.length
          omega
      have ahead : first + 1 ≤ moved.cursor.ackSequence := place.ge
      obtain ⟨kept, reached⟩ := ih onward extended ahead
      rw [same]
      refine ⟨kept, reached.trans ?_⟩
      change max frame.sequence (first + 1 + rest.length) = _
      rw [length_cons]
      omega

end DownlinkDevice

variable {down : Nat} {next : ClientStore Rest} {up : Nat}

namespace DownlinkSystem

/-- A node whose device follows its log, and whose reports and batches under way are
no older than they may be. -/
structure Tracked (node : String) (system : DownlinkSystem Rest) : Prop where
  follows : (system.devices node).Follows (system.assignedTo node)
  acked : system.store.downlinkAck node ≤ (system.devices node).cursor.ackSequence
  reports : ∀ ack, (node, ack) ∈ system.reports → ack ≤ (system.devices node).cursor.ackSequence
  batches : ∀ batch, (node, batch) ∈ system.batches →
    ∃ first, first ≤ (system.devices node).cursor.ackSequence ∧
      batch <+: (system.assignedTo node).drop first

theorem start_tracked (node : String) (rest : Rest) : Tracked node (start rest) := by
  constructor
  · exact ⟨rfl, le_refl _, rfl⟩
  · exact le_refl _
  · exact fun _ member => absurd member not_mem_nil
  · exact fun _ member => absurd member not_mem_nil

section Tracking
variable {host : ExchangeHost Body Rest} {trimmed : String → Prop} {system : DownlinkSystem Rest}
  {node : String}

theorem acked_raised {store : ClientStore Rest} {moved : String} {cursor : Nat}
    (acked : store.downlinkAck node ≤ cursor) (carried : moved = node → down ≤ cursor) :
    (store.raised moved up down).downlinkAck node ≤ cursor := by
  have raise : (store.raised moved up down).downlinkAck node = _ :=
    ExchangeTables.downlinkAck_raise store.toExchangeTables moved node up down
  rw [raise]
  split
  · rename_i mine
    rw [← mine.1]
    exact Nat.max_le.mpr ⟨acked, carried mine.1.symm⟩
  · exact acked

section
variable (tracked : Tracked node system)
include tracked

theorem Tracked.written (acked : next.downlinkAck node ≤ (system.devices node).cursor.ackSequence) :
    Tracked node (system.written next) :=
  ⟨tracked.follows, acked, tracked.reports, tracked.batches⟩

theorem Tracked.ingested {frames : List ClientDownlinkFrame}
    (ingested : Ingested host system.store next frames) :
    Tracked node (system.answered next frames) := by
  have grown := assignedTo_answered system next frames node
  constructor
  · rw [grown]
    exact tracked.follows.append _
  · change next.downlinkAck node ≤ _
    rcases ingested with ⟨_, ⟨rfl, _⟩ | ⟨_, _, appended, _⟩, still⟩
    · exact (still.acks node).trans_le tracked.acked
    · rw [still.acks, appended.exchange]
      exact tracked.acked
  · exact tracked.reports
  · intro batch member
    obtain ⟨first, behind, stretch⟩ := tracked.batches batch member
    rw [grown]
    refine ⟨first, behind, ?_⟩
    rw [drop_append]
    exact stretch.trans (prefix_append _ _)

theorem Tracked.exchange (sound : Sound host trimmed system) {moved : String} (faults : List Bool)
    (carried : moved = node → down ≤ (system.devices node).cursor.ackSequence) :
    Tracked node (system.exchange host moved up down faults) := by
  have raised : (system.store.raised moved up down).downlinkAck node ≤
      (system.devices node).cursor.ackSequence := acked_raised tracked.acked carried
  rcases exchange_cases sound.json moved up down faults with
    ⟨reached, batch, within, exchanged, ends⟩ | same | ⟨faulty, within, small, ends⟩
  · have acks : reached.downlinkAck node = (system.store.raised moved up down).downlinkAck node := by
      rw [exchanged.reached]
      rfl
    have written := tracked.written (acks.trans_le raised)
    rw [ends]
    refine ⟨written.follows, written.acked, written.reports, ?_⟩
    intro delivered member
    rcases mem_append.mp member with old | new
    · exact written.batches delivered old
    · obtain ⟨rfl, rfl⟩ := Prod.mk.inj (mem_singleton.mp new)
      refine ⟨_, raised, ?_⟩
      obtain ⟨_, retains, _⟩ := sound.streams node
      have above := retains.raise node up down fun _ => retains.highest ▸ within
      rw [ClientDownlink.deliverable_ok above above.settled exchanged.batch]
      exact List.take_prefix _ _
  · rwa [same]
  · rw [ends]
    exact tracked.written raised

theorem Tracked.receive (sound : Sound host trimmed system) {receiver : String}
    (sent : (receiver, batch) ∈ system.batches) (count : Nat) :
    Tracked node (system.receive receiver (batch.take count)) := by
  by_cases mine : node = receiver
  · subst mine
    obtain ⟨_, retains, _⟩ := sound.streams node
    obtain ⟨_, behind, stretch⟩ := tracked.batches batch sent
    have moved := DownlinkDevice.ingest_stretch retains.numbered retains.bounded
      ((List.take_prefix count batch).trans stretch) tracked.follows behind
    have device : (system.receive node (batch.take count)).devices node =
        (system.devices node).ingestDownlink (batch.take count) := by
      simp [DownlinkSystem.receive]
    have onward : (system.devices node).cursor.ackSequence ≤
        ((system.receive node (batch.take count)).devices node).cursor.ackSequence := by
      rw [device, moved.2]
      exact le_max_left _ _
    constructor
    · rw [device]
      exact moved.1
    · exact tracked.acked.trans onward
    · exact fun ack member => (tracked.reports ack member).trans onward
    · intro other member
      obtain ⟨start, early, piece⟩ := tracked.batches other member
      exact ⟨start, early.trans onward, piece⟩
  · have device : (system.receive receiver (batch.take count)).devices node =
        system.devices node := by
      simp [DownlinkSystem.receive, mine]
    constructor
    · rw [device]
      exact tracked.follows
    · rw [device]
      exact tracked.acked
    · rw [device]
      exact tracked.reports
    · rw [device]
      exact tracked.batches

theorem Tracked.report (reporter : String) :
    Tracked node (system.step host (.report reporter)) := by
  refine ⟨tracked.follows, tracked.acked, ?_, tracked.batches⟩
  intro ack member
  rcases mem_append.mp member with old | new
  · exact tracked.reports ack old
  · obtain ⟨rfl, rfl⟩ := Prod.mk.inj (mem_singleton.mp new)
    exact le_refl _

end

end Tracking

end DownlinkSystem

/-- The event sends the server no cursor for the node but one its device reported. -/
def DownlinkEvent.Honest (node : String) : DownlinkEvent → Prop
  | .exchange other _ _ _ => other ≠ node
  | _ => True

namespace DownlinkSystem

section Tracking
variable {host : ExchangeHost Body Rest} {trimmed : String → Prop} {system : DownlinkSystem Rest}
  {node : String}

theorem Tracked.step (tracked : Tracked node system) (sound : Sound host trimmed system)
    (event : DownlinkEvent) (honest : event.Honest node) :
    Tracked node (system.step host event) := by
  by_cases transacts : event.isTransaction = true
  · obtain ⟨next, frames, ingested, ends⟩ := step_ingests sound event transacts
    rw [ends]
    exact tracked.ingested ingested
  cases event with
  | enroll | reserve | complete | append => exact absurd rfl transacts
  | exchange sender up down faults =>
    exact tracked.exchange sound faults fun mine => absurd mine honest
  | report reporter => exact tracked.report reporter
  | poll report up faults =>
    rw [DownlinkSystem.step]
    cases sent : system.reports[report]? with
    | none => exact tracked
    | some carried =>
      apply tracked.exchange sound faults
      rintro rfl
      exact tracked.reports carried.2 (mem_of_getElem? sent)
  | receive batch count =>
    rw [DownlinkSystem.step]
    cases sent : system.batches[batch]? with
    | none => exact tracked
    | some delivered => exact tracked.receive sound (mem_of_getElem? sent) count

theorem run_tracked (host : ExchangeHost Body Rest) (rest : Rest) (events : List DownlinkEvent)
    (honest : ∀ event ∈ events, event.Honest node) :
    Tracked node (after (step host) (start rest) events) := by
  let Both (system : DownlinkSystem Rest) : Prop :=
    Sound host (fun _ => False) system ∧ Tracked node system
  have both : Both (after (step host) (start rest) events) := by
    apply after_invariant_of _ (·.Honest node) _
      ⟨start_sound host _ rest, start_tracked node rest⟩ events honest
    exact fun system event honest ⟨sound, tracked⟩ =>
      ⟨sound.step event fun _ => False.elim, tracked.step sound event honest⟩
  exact both.2

end Tracking

/-- One undisturbed round of a node: its device reports, the server serves the report,
and the device works through the answer, up to `count` frames of it. -/
def round (host : ExchangeHost Body Rest) (node : String) (count : Nat)
    (system : DownlinkSystem Rest) : DownlinkSystem Rest :=
  after (step host) system
    [.report node, .poll system.reports.length 0 [], .receive system.batches.length count]

section Progress
variable {host : ExchangeHost Body Rest} {trimmed : String → Prop} {system : DownlinkSystem Rest}
  {node : String}

section
variable (sound : Sound host trimmed system)
include sound

theorem Sound.serves (given : system.assignedTo node ≠ [])
    (within : down ≤ (system.assignedTo node).length) :
    ∃ reached batch, InRange system.store node down ∧
      Exchanged host system.store node 0 down batch reached ∧
      system.exchange host node 0 down [] =
        { system.written reached with batches := system.batches ++ [(node, batch)] } := by
  obtain ⟨_, retains, _⟩ := sound.streams node
  obtain ⟨canonical, known⟩ := sound.served node given
  obtain ⟨row, found⟩ := Option.ne_none_iff_exists'.mp known
  have highest := retains.highest
  have bounded := retains.bounded
  have ack : system.store.downlinkAck node = row.serverToClientAckSequence := by
    rw [ExchangeTables.downlinkAck, found]
    rfl
  have range : InRange system.store node down := within.trans_eq highest.symm
  have safeDown : row.serverToClientAckSequence ≤ maxSafeInteger := by omega
  have safeHighest : system.store.highestDownlink node ≤ maxSafeInteger := by omega
  let world : World Rest := ⟨system.store, [], []⟩
  have calm : world.faults = [] := rfl
  rcases downlinkExchange_succeeds calm sound.json canonical found
    (sound.cursors row (Table.find_eq_some found).1) safeDown safeHighest (Nat.zero_le _) range with
    ⟨world, batch, ran⟩
  have start : At (fun reached _ => reached = system.store) ⟨system.store, [], []⟩ := rfl
  have judged := (judged_downlinkExchange host system.store node 0 down).of_ok start ran
  refine ⟨world.store, batch, judged.1, judged.2, ?_⟩
  rw [exchange, ran]

theorem exchanged_batch {reached : ClientStore Rest} (within : InRange system.store node down)
    (beyond : system.store.downlinkAck node ≤ down)
    (exchanged : Exchanged host system.store node up down batch reached) :
    batch = ((system.assignedTo node).drop down).take host.maxFramesPerExchange := by
  obtain ⟨_, retains, _⟩ := sound.streams node
  have above := retains.raise node up down fun _ => retains.highest ▸ within
  have ack : (system.store.raised node up down).downlinkAck node = _ :=
    ExchangeTables.downlinkAck_raise system.store.toExchangeTables node node up down
  rw [if_pos ⟨rfl, exchanged.known⟩, Nat.max_eq_right beyond] at ack
  rw [ClientDownlink.deliverable_ok above above.settled exchanged.batch, ack]

/-- After an undisturbed round the device has at least one more frame, or all of them. -/
theorem round_progress (tracked : Tracked node system) (window : host.maxFramesPerExchange ≠ 0)
    {count : Nat} (some_taken : count ≠ 0) : Sound host trimmed (round host node count system) ∧
      Tracked node (round host node count system) ∧
      (round host node count system).assignedTo node = system.assignedTo node ∧
      min ((system.devices node).cursor.ackSequence + 1) (system.assignedTo node).length ≤
        ((round host node count system).devices node).cursor.ackSequence := by
  -- the system after the report, after the answer, and after the device took it
  let reported := system.step host (.report node)
  let answered := reported.step host (.poll system.reports.length 0 [])
  let received := answered.step host (.receive system.batches.length count)
  have sound₁ : Sound host trimmed reported := sound.step _ fun _ _ => trivial
  have tracked₁ : Tracked node reported := tracked.step sound _ trivial
  have sound₂ : Sound host trimmed answered := sound₁.step _ fun _ _ => rfl
  have tracked₂ : Tracked node answered := tracked₁.step sound₁ _ trivial
  have sent : answered = reported.exchange host node 0
      (system.devices node).cursor.ackSequence [] := by
    simp [answered, reported, step]
  have assigned : answered.assignedTo node = system.assignedTo node := by
    rw [sent, assignedTo_exchange]
    rfl
  have same : received.assignedTo node = answered.assignedTo node := by
    simp only [received, step]
    split <;> rfl
  have sound₃ : Sound host trimmed received := sound₂.step _ fun _ _ => trivial
  have tracked₃ : Tracked node received := tracked₂.step sound₂ _ trivial
  refine ⟨sound₃, tracked₃, same.trans assigned, ?_⟩
  change _ ≤ (received.devices node).cursor.ackSequence
  by_cases given : system.assignedTo node = []
  · simp [given]
  rcases sound₁.serves given tracked.follows.within with
    ⟨reached, batch, within, exchanged, ends⟩
  have delivered : answered.batches[system.batches.length]? = some (node, batch) := by
    rw [sent, ends]
    exact getElem?_concat_length
  have taken : received = answered.receive node (batch.take count) := by
    simp only [received, step, delivered]
  have content := exchanged_batch sound₁ within tracked.acked exchanged
  obtain ⟨_, retains, _⟩ := sound₂.streams node
  have device : received.devices node =
      (system.devices node).ingestDownlink (batch.take count) := by
    rw [taken, sent, ends]
    simp [receive, reported, step]
  have stretch : batch.take count <+:
      (answered.assignedTo node).drop (system.devices node).cursor.ackSequence := by
    rw [assigned, content]
    exact (List.take_prefix _ _).trans (List.take_prefix _ _)
  have follows : (system.devices node).Follows (answered.assignedTo node) := by
    rw [assigned]
    exact tracked.follows
  have moved := DownlinkDevice.ingest_stretch retains.numbered retains.bounded stretch follows
    (le_refl _)
  have length : (batch.take count).length = min count (min host.maxFramesPerExchange
      ((system.assignedTo node).length - (system.devices node).cursor.ackSequence)) := by
    rw [content, length_take, length_take, length_drop]
    rfl
  rw [device, moved.2, length]
  omega

theorem rounds_deliver (tracked : Tracked node system) (window : host.maxFramesPerExchange ≠ 0)
    {count : Nat} (some_taken : count ≠ 0) {rounds : Nat}
    (enough : (system.assignedTo node).length - (system.devices node).cursor.ackSequence ≤ rounds) :
    (((round host node count)^[rounds] system).devices node).accepted = system.assignedTo node := by
  induction rounds generalizing system with
  | zero =>
    have within := tracked.follows.within
    rw [Function.iterate_zero, id, tracked.follows.accepted]
    exact take_of_length_le (by omega)
  | succ _ ih =>
    rcases round_progress sound tracked window some_taken with
      ⟨sound', tracked', same, advanced⟩
    rw [Function.iterate_succ_apply, ← same]
    apply ih sound' tracked'
    rw [same]
    omega

end

end Progress

/-- Every position of a node is assigned once and in order. Its retained frames are the
assigned ones above the acknowledgement; after a storage fault some at or below it may
linger. A device whose requests carry cursors it reported sees no gap and accepts the
front of the stream, and undisturbed rounds bring it the rest. -/
theorem downlink_streams_exact (host : ExchangeHost Body Rest) (rest : Rest)
    (events : List DownlinkEvent) (node : String) :
    let system := after (step host) (start rest) events
    let log := system.assignedTo node
    let ack := system.store.downlinkAck node
    let device := system.devices node
    log.map (·.sequence) = List.range' 1 log.length ∧
    (∃ dropped, dropped ≤ ack ∧ ack ≤ log.length ∧
      system.store.downlinkRows node = log.drop dropped) ∧
    ((∀ event ∈ events, event.Calm) →
      system.store.downlinkRows node = log.filter (ack < ·.sequence) ∧
      (system.store.downlinkRows node).map (·.sequence) =
        List.range' (ack + 1) (log.length - ack)) ∧
    ((∀ event ∈ events, event.Honest node) → device.sawGap = false ∧
      device.accepted = log.take device.cursor.ackSequence ∧
      device.cursor.ackSequence ≤ log.length ∧
      (host.maxFramesPerExchange ≠ 0 → ∀ count rounds, count ≠ 0 →
        log.length - device.cursor.ackSequence ≤ rounds →
        (((round host node count)^[rounds] system).devices node).accepted = log)) := by
  intro _ _ ack _
  have sound := run_sound host rest events
  obtain ⟨dropped, retains, exactly⟩ := sound.streams node
  refine ⟨numbered_map _ retains.numbered, ?_, ?_, ?_⟩
  · exact ⟨dropped, retains.settled, retains.acked, retains.rows⟩
  · intro calm
    have rows := retains.rows
    rw [exactly calm] at rows
    have above := numbered_filter_above ClientDownlinkFrame.sequence retains.numbered ack
    rw [Nat.add_sub_cancel] at above
    have shifted := numbered_map _ (numbered_drop _ retains.numbered ack)
    rw [length_drop, add_comm] at shifted
    exact ⟨rows.trans above.symm, by rw [rows]; exact shifted⟩
  · intro honest
    have tracked := run_tracked host rest events honest
    refine ⟨tracked.follows.gapless, tracked.follows.accepted, tracked.follows.within, ?_⟩
    intro window _ _ some_taken enough
    exact rounds_deliver sound tracked window some_taken enough

end DownlinkSystem

end WinWinCode.Server
