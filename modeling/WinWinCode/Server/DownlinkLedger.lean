import WinWinCode.Server.DownlinkExchange

/-!
Downlink positions over every run, the server's side: each node's positions are
assigned once and in order, and the retained frames are the log behind what was
dropped.
-/

namespace WinWinCode.Server

open Counting Exchange Fallible Programs Storage Tables Text ClientRegistry List Table
open ExchangeTables

variable {Body Rest : Type}

def DownlinkEvent.isTransaction : DownlinkEvent → Bool
  | .enroll _ _ _ | .reserve _ _ _ _ _ | .complete _ _ _ _ _ | .append _ _ => true
  | _ => false

variable {node : String} {next : ClientStore Rest} {down : Nat} {stored : ClientDownlinkFrame}
  {up : Nat} {store : ClientStore Rest} {tables : ExchangeTables} {key : Option String}

namespace DownlinkSystem

/-- The server's side of the system. The frames of a `trimmed` node are dropped exactly
up to its acknowledgement. -/
structure Sound (host : ExchangeHost Body Rest) (trimmed : String → Prop)
    (system : DownlinkSystem Rest) : Prop where
  streams : ∀ node, ∃ dropped, Retains (system.assignedTo node) dropped system.store node ∧
    (trimmed node → dropped = system.store.downlinkAck node)
  json : ∀ row ∈ system.store.downlink.rows, host.isJson row.frame = true
  served : ∀ node, system.assignedTo node ≠ [] →
    isCanonicalId "cnd_" node = true ∧ system.store.cursorRow node ≠ none
  enrolled : ∀ node, system.store.nodeRow node ≠ none → system.store.cursorRow node ≠ none
  cursors : ∀ row ∈ system.store.cursors.rows, row.clientToServerAckSequence ≤ maxSafeInteger
  frames : ∀ row ∈ system.store.frames.rows, row.sequence ≤ maxSafeInteger

theorem start_sound (host : ExchangeHost Body Rest) (trimmed : String → Prop) (rest : Rest) :
    Sound host trimmed (start rest) := by
  constructor
  · exact fun node => ⟨0, ⟨trivial, Nat.zero_le _, le_refl _, le_refl _, rfl⟩, fun _ => rfl⟩
  · exact forall_mem_nil _
  · exact fun _ given => absurd rfl given
  · exact fun _ given => absurd rfl given
  · exact forall_mem_nil _
  · exact forall_mem_nil _

theorem Sound.weaken {host : ExchangeHost Body Rest} {trimmed fewer : String → Prop}
    {system : DownlinkSystem Rest} (sound : Sound host trimmed system)
    (implied : ∀ node, fewer node → trimmed node) : Sound host fewer system :=
  { sound with streams := fun node =>
      (sound.streams node).imp fun _ stream => ⟨stream.1, stream.2 ∘ implied node⟩ }

/-- A change of the store that brings no downlink row and loses no cursor row. -/
structure Quiet (store next : ClientStore Rest) : Prop where
  kept : next.downlink.rows.Sublist store.downlink.rows
  rows : ∀ node, store.cursorRow node ≠ none → next.cursorRow node ≠ none
  enrolled : ∀ node, next.nodeRow node ≠ none →
    store.nodeRow node ≠ none ∨ next.cursorRow node ≠ none
  cursors : ∀ row ∈ next.cursors.rows, row ∈ store.cursors.rows ∨
    row.clientToServerAckSequence ≤ maxSafeInteger
  frames : ∀ row ∈ next.frames.rows, (∃ old ∈ store.frames.rows, row.sequence = old.sequence) ∨
    row.sequence ≤ maxSafeInteger

/-- A change outside the downlink and its acknowledgements. -/
structure Still (store next : ClientStore Rest) : Prop extends Quiet store next where
  downlink : next.downlink = store.downlink
  acks : ∀ node, next.downlinkAck node = store.downlinkAck node

section Writes
variable {host : ExchangeHost Body Rest} {trimmed trimmed' : String → Prop}
  {system : DownlinkSystem Rest}

theorem assignedTo_answered (system : DownlinkSystem Rest) (next : ClientStore Rest)
    (frames : List ClientDownlinkFrame) (node : String) :
    (system.answered next frames).assignedTo node = system.assignedTo node ++
      frames.filter (·.clientNodeId == node) :=
  filter_append _ _

section
variable (sound : Sound host trimmed system)
include sound

theorem Sound.quiet (quiet : Quiet system.store next)
    (streams : ∀ node dropped, Retains (system.assignedTo node) dropped system.store node →
      (trimmed node → dropped = system.store.downlinkAck node) →
      ∃ dropped, Retains (system.assignedTo node) dropped next node ∧
        (trimmed' node → dropped = next.downlinkAck node)) :
    Sound host trimmed' (system.written next) := by
  constructor
  · intro node
    obtain ⟨dropped, retains, exactly⟩ := sound.streams node
    exact streams node dropped retains exactly
  · exact fun row member => sound.json row (quiet.kept.subset member)
  · intro node given
    exact ⟨(sound.served node given).1, quiet.rows node (sound.served node given).2⟩
  · intro node known
    rcases quiet.enrolled node known with old | row
    · exact quiet.rows node (sound.enrolled node old)
    · exact row
  · intro row member
    rcases quiet.cursors row member with old | safe
    · exact sound.cursors row old
    · exact safe
  · intro row member
    rcases quiet.frames row member with ⟨old, oldIn, same⟩ | safe
    · rw [same]
      exact sound.frames old oldIn
    · exact safe

theorem Sound.still (still : Still system.store next) :
    Sound host trimmed (system.written next) := by
  apply sound.quiet still.toQuiet
  intro node dropped retains exactly
  refine ⟨dropped, ?_, fun held => (exactly held).trans (still.acks node).symm⟩
  constructor
  · exact retains.numbered
  · exact retains.bounded
  · exact retains.settled.trans_eq (still.acks node).symm
  · exact (still.acks node).trans_le retains.acked
  · rw [EffectTables.downlinkRows, still.downlink]
    exact retains.rows

theorem Sound.append (appended : Appended system.store next stored)
    (json : host.isJson stored.frame) (canonical : isCanonicalId "cnd_" stored.clientNodeId) :
    Sound host trimmed (system.answered next [stored]) := by
  have cursorRow : ∀ node, next.cursorRow node = system.store.cursorRow node := by
    intro node
    rw [appended.exchange]
  have acks : ∀ node, next.downlinkAck node = system.store.downlinkAck node := by
    intro node
    rw [appended.exchange]
  constructor
  · intro node
    obtain ⟨dropped, retains, exactly⟩ := sound.streams node
    refine ⟨dropped, ?_, fun still => (exactly still).trans (acks node).symm⟩
    rw [assignedTo_answered]
    exact retains.append appended
  · intro row member
    change row ∈ next.downlink.rows at member
    rw [appended.rows] at member
    exact forall_mem_concat sound.json json row member
  · intro node given
    change _ ∧ next.cursorRow node ≠ none
    rw [cursorRow]
    by_cases mine : stored.clientNodeId = node
    · subst mine
      exact ⟨canonical, sound.enrolled _ appended.known⟩
    · rw [assignedTo_answered] at given
      have other : (stored.clientNodeId == node) = false := beq_eq_false_iff_ne.mpr mine
      simp only [filter_singleton, other, cond_false, append_nil] at given
      exact sound.served node given
  · intro node known
    change next.cursorRow node ≠ none
    rw [cursorRow]
    apply sound.enrolled node
    change next.nodes.find _ ≠ none at known
    rw [appended.nodes] at known
    exact known
  · intro row member
    change row ∈ next.cursors.rows at member
    rw [appended.exchange] at member
    exact sound.cursors row member
  · intro row member
    change row ∈ next.frames.rows at member
    rw [appended.exchange] at member
    exact sound.frames row member

end

end Writes

section Still

theorem register_still {registration : ClientNodeRegistration} {revision : Nat} {now : String}
    {receipt : ClientNodeRegistrationReceipt}
    (done : register store registration revision now = .ok (next, receipt)) : Still store next := by
  cases known : store.nodeRow registration.clientNodeId with
  | some record =>
    rw [(register_known known done).2]
    refine ⟨⟨List.Sublist.refl _, fun _ row => row, ?_, fun _ member => Or.inl member,
      fun row member => Or.inl ⟨row, member, rfl⟩⟩, rfl, fun _ => rfl⟩
    · intro node found
      left
      have updated := find_updateWhere store.nodes
        (fun row => row.clientNodeId == registration.clientNodeId &&
          row.revision == record.revision) (·.clientNodeId == node)
        (refreshed registration) (fun _ _ _ => ⟨id, id⟩) fun _ => rfl
      intro missing
      change store.nodes.find _ = none at missing
      rw [missing] at updated
      exact found updated
  | none =>
    simp only [register, validateRevision, validateInstant] at done
    obtain ⟨_, _, done⟩ := bind_eq_ok.mp done
    simp only [refuse_bind_eq_ok, known, insertEnrolledClientNode] at done
    obtain ⟨_, _, _, done⟩ := done
    obtain ⟨_, enroll, done⟩ := bind_eq_ok.mp done
    obtain ⟨_, _, success⟩ := okOr_bind_eq_ok.mp done
    cases success
    simp only [okOr_bind_eq_ok] at enroll
    obtain ⟨nodes, newNode, cursors, newCursor, success⟩ := enroll
    cases success
    -- Enrolment adds a cursor at zero, so no acknowledgement reads differently.
    have row (node : String) : cursors.find (·.clientNodeId == node) =
        (store.cursorRow node).or _ := find_insert newCursor _
    refine ⟨⟨List.Sublist.refl _, ?_, ?_, ?_, fun frame member => Or.inl ⟨frame, member, rfl⟩⟩,
      rfl, ?_⟩
    · intro node present
      change cursors.find _ ≠ none
      rw [row]
      cases found : store.cursorRow node with
      | some old => simp
      | none => exact absurd found present
    · intro node found
      change nodes.find _ ≠ none at found
      rw [find_insert newNode] at found
      by_cases own : registration.clientNodeId = node
      · right
        change cursors.find _ ≠ none
        rw [row]
        cases store.cursorRow node <;> simp [own]
      · left
        have other : (registration.clientNodeId == node) = false := beq_eq_false_iff_ne.mpr own
        simp only [enrolledNode, other, Bool.false_eq_true, if_false, Option.or_none] at found
        exact found
    · intro cursor member
      change cursor ∈ cursors.rows at member
      rw [(insert_eq_some.mp newCursor).2] at member
      rcases mem_append.mp member with old | new
      · exact .inl old
      · right
        rw [mem_singleton.mp new]
        exact Nat.zero_le _
    · intro node
      change ((cursors.find _).map _).getD 0 = _
      rw [row, ExchangeTables.downlinkAck]
      cases store.cursorRow node with
      | some _ => rfl
      | none => cases registration.clientNodeId == node <;> rfl

theorem reserve_still {messageId digest : String} {sequence : Nat} {completed : Bool}
    (done : reserveExchangeFrame store.toExchangeTables node sequence messageId
      digest key = .ok (tables, completed)) :
    Still store { store with toExchangeTables := tables } := by
  have reserved := reserveExchangeFrame_ok done
  have frames : ∀ row ∈ tables.frames.rows,
      row ∈ store.frames.rows ∨ row.sequence ≤ maxSafeInteger := by
    simp only [reserveExchangeFrame, validateSequence] at done
    obtain ⟨_, _, done⟩ := bind_eq_ok.mp done
    obtain ⟨safe, done⟩ := refuse_bind_eq_ok.mp done
    obtain ⟨⟨framed, _⟩, frameStep, done⟩ := bind_eq_ok.mp done
    have same : tables.frames = framed.frames := by
      cases key with
      | none =>
        cases done
        rfl
      | some _ =>
        obtain ⟨⟨_, _⟩, keyStep, done⟩ := bind_eq_ok.mp done
        cases done
        exact (reserveCommand_ok keyStep).2.2.1
    simp only [reserveFrame, okOr_bind_eq_ok, refuse_bind_eq_ok] at frameStep
    obtain ⟨_, _, _, success⟩ := frameStep
    rw [same, ← (Prod.mk.inj (Except.ok.inj success)).1]
    intro row member
    rcases mem_insertOrIgnore member with old | rfl
    · exact .inl old
    · exact .inr (Nat.not_lt.mp safe)
  have cursorRow : ∀ node, tables.cursorRow node = store.cursorRow node := by
    intro _
    rw [ExchangeTables.cursorRow, reserved.cursors]
    rfl
  refine ⟨⟨List.Sublist.refl _, ?_, fun _ known => Or.inl known, ?_, ?_⟩, rfl, ?_⟩
  · intro _ _
    rwa [cursorRow]
  · intro row member
    rw [reserved.cursors] at member
    exact .inl member
  · intro row member
    exact (frames row member).imp (⟨row, ·, rfl⟩) id
  · intro _
    rw [ExchangeTables.downlinkAck, cursorRow]
    rfl

theorem cursorRow_raised {other : String} (present : store.cursorRow other ≠ none) :
    (store.raised node up down).cursorRow other ≠ none := by
  intro missing
  have raise := cursorRow_raise store.toExchangeTables node other up down
  have both := raise.symm.trans missing
  split at both
  · exact present (Option.map_eq_none_iff.mp both)
  · exact present both

theorem cursors_raised
    (safe : ∀ row ∈ store.cursors.rows, row.clientToServerAckSequence ≤ maxSafeInteger)
    (small : up ≤ maxSafeInteger) {row : CursorRow}
    (member : row ∈ (store.raised node up down).cursors.rows) :
    row.clientToServerAckSequence ≤ maxSafeInteger := by
  obtain ⟨old, oldIn, rfl⟩ := mem_map.mp member
  rw [Table.alter]
  split
  · exact Nat.max_le.mpr ⟨safe old oldIn, small⟩
  · exact safe old oldIn

theorem settle_still {sequence : Nat}
    (frames : ∀ row ∈ store.frames.rows, row.sequence ≤ maxSafeInteger)
    (cursors : ∀ row ∈ store.cursors.rows, row.clientToServerAckSequence ≤ maxSafeInteger)
    (done : settleFrame store.toExchangeTables node sequence key = .ok tables) :
    Still store { store with toExchangeTables := tables } := by
  simp only [settleFrame, sqlInteger, refuse_bind_eq_ok] at done
  obtain ⟨_, reserved, success⟩ := done
  have small : sequence ≤ maxSafeInteger := by
    obtain ⟨row, found⟩ := Option.ne_none_iff_exists'.mp reserved
    have placed := find_eq_some found
    simp only [Bool.and_eq_true, beq_iff_eq] at placed
    rw [← placed.2.2]
    exact frames row placed.1
  cases success
  refine ⟨⟨List.Sublist.refl _, fun _ present => cursorRow_raised present,
    fun _ known => Or.inl known, fun _ member => Or.inr (cursors_raised cursors small member), ?_⟩,
    rfl, ?_⟩
  · intro _ member
    obtain ⟨old, oldIn, rfl⟩ := mem_map.mp member
    refine .inl ⟨old, oldIn, ?_⟩
    rw [Table.alter]
    split <;> rfl
  · intro other
    have raise := downlinkAck_raise store.toExchangeTables node other sequence 0
    refine Eq.trans raise ?_
    split
    · rename_i mine
      rw [mine.1, Nat.max_zero]
    · rfl

end Still

section Steps
variable {host : ExchangeHost Body Rest} {trimmed : String → Prop} {system : DownlinkSystem Rest}

theorem tryNew_append {append valid : ClientDownlinkAppend}
    (accepted : ClientDownlink.tryNew host.isJson append = .ok valid) :
    valid = append ∧ isCanonicalId "cnd_" append.clientNodeId ∧
      host.isJson append.frame = true := by
  simp only [ClientDownlink.tryNew, ClientDownlink.validateClientNodeId, refuse_bind_eq_ok,
    Bool.not_eq_false] at accepted
  obtain ⟨canonical, _, _, _, json, success⟩ := accepted
  exact ⟨(Except.ok.inj success).symm, canonical, json⟩

/-- What a local transaction can do to the store: append one valid frame, or none, and
then change nothing the downlink depends on. -/
def Ingested (host : ExchangeHost Body Rest) (store next : ClientStore Rest)
    (frames : List ClientDownlinkFrame) : Prop :=
  ∃ middle, (middle = store ∧ frames = [] ∨ ∃ stored, frames = [stored] ∧
      Appended store middle stored ∧ host.isJson stored.frame = true ∧
      isCanonicalId "cnd_" stored.clientNodeId = true) ∧ Still middle next

theorem answered_none (system : DownlinkSystem Rest) (next : ClientStore Rest) :
    system.answered next [] = system.written next := by
  simp only [answered, append_nil]

theorem Still.refl (store : ClientStore Rest) : Still store store :=
  ⟨⟨List.Sublist.refl _, fun _ present => present, fun _ known => Or.inl known,
    fun _ member => Or.inl member, fun row member => Or.inl ⟨row, member, rfl⟩⟩, rfl, fun _ => rfl⟩

theorem still_ingests (host : ExchangeHost Body Rest) (system : DownlinkSystem Rest)
    (still : Still system.store next) : ∃ next' frames, Ingested host system.store next' frames ∧
      system.written next = system.answered next' frames :=
  ⟨next, [], ⟨system.store, .inl ⟨rfl, rfl⟩, still⟩, (answered_none system next).symm⟩

theorem idle_ingests (host : ExchangeHost Body Rest) (system : DownlinkSystem Rest) :
    ∃ next frames, Ingested host system.store next frames ∧ system = system.answered next frames :=
  still_ingests host system (Still.refl _)

theorem append_ingests (host : ExchangeHost Body Rest) (system : DownlinkSystem Rest)
    (append : ClientDownlinkAppend) (now : String) :
    ∃ next frames, Ingested host system.store next frames ∧
      system.append host append now = system.answered next frames := by
  rw [DownlinkSystem.append]
  split
  · exact idle_ingests host system
  rename_i valid accepted
  obtain ⟨rfl, canonical, json⟩ := tryNew_append accepted
  split
  · exact idle_ingests host system
  rename_i next stored done
  obtain ⟨appended, owner, text⟩ := ClientDownlink.appendLaunch_appended done
  exact ⟨next, [stored],
    ⟨next, .inr ⟨stored, rfl, appended, text ▸ json, owner ▸ canonical⟩, Still.refl _⟩, rfl⟩

theorem reply_ingests {after : ClientStore Rest} {now : String}
    {reply valid : Option ClientDownlinkAppend} (accepted : validReply host reply = .ok valid)
    (done : appendOptionalReply store node (valid.map fun reply => (reply, now)) = .ok after) :
    after = store ∧ (valid.map (replied node now)).toList = [] ∨
      ∃ stored, (valid.map (replied node now)).toList = [stored] ∧ Appended store after stored ∧
        host.isJson stored.frame ∧ isCanonicalId "cnd_" stored.clientNodeId = true := by
  cases reply with
  | none =>
    obtain rfl := Except.ok.inj accepted
    exact .inl ⟨(Except.ok.inj done).symm, rfl⟩
  | some reply =>
    cases checked : ClientDownlink.tryNew host.isJson reply with
    | error _ => simp [validReply, checked, Except.map] at accepted
    | ok _ =>
      simp only [validReply, checked, Except.map, Except.ok.injEq] at accepted
      subst accepted
      obtain ⟨rfl, canonical, json⟩ := tryNew_append checked
      obtain ⟨appended, rfl⟩ := appendReply_appended done
      exact .inr ⟨_, rfl, appended, json, canonical⟩

section
variable (sound : Sound host trimmed system)
include sound

theorem complete_ingests (node : String) (sequence : Nat) (key : Option String)
    (reply : Option ClientDownlinkAppend) (now : String) :
    ∃ next frames, Ingested host system.store next frames ∧
      system.complete host node sequence key reply now = system.answered next frames := by
  rw [complete]
  split
  · exact idle_ingests host system
  rename_i valid accepted
  split
  · exact idle_ingests host system
  rename_i settled done
  obtain ⟨middle, ran, done⟩ := bind_eq_ok.mp done
  obtain ⟨tables, settle, success⟩ := bind_eq_ok.mp done
  cases success
  have reply := reply_ingests accepted ran
  -- the reply leaves the tables alone that the completion reads
  have same : middle.toExchangeTables = system.store.toExchangeTables := by
    rcases reply with ⟨same, _⟩ | ⟨_, _, appended, _⟩
    · rw [same]
    · exact appended.exchange
  refine ⟨_, _, ⟨middle, reply, settle_still ?_ ?_ settle⟩, rfl⟩
  · rw [same]
    exact sound.frames
  · rw [same]
    exact sound.cursors

theorem step_ingests (event : DownlinkEvent) (transacts : event.isTransaction) :
    ∃ next frames, Ingested host system.store next frames ∧
      system.step host event = system.answered next frames := by
  cases event with
  | enroll _ _ now =>
    rw [step]
    split
    · exact idle_ingests host system
    rename_i next receipt done
    exact still_ingests host system (register_still done)
  | reserve node sequence _ _ key =>
    rw [step]
    split
    · exact idle_ingests host system
    rename_i tables completed done
    exact still_ingests host system (reserve_still done)
  | complete node sequence key reply now => exact complete_ingests sound node sequence key reply now
  | append append now => exact append_ingests host system append now
  | _ => cases transacts

theorem Sound.ingested {frames : List ClientDownlinkFrame}
    (ingested : Ingested host system.store next frames) :
    Sound host trimmed (system.answered next frames) := by
  rcases ingested with ⟨_, ⟨rfl, rfl⟩ | ⟨_, rfl, appended, json, canonical⟩, still⟩
  · rw [answered_none]
    exact sound.still still
  · exact (sound.append appended json canonical).still still

end

/-- Everything an exchange can do to the system. Only a storage fault leaves an
acknowledgement behind whose frames are still there. -/
theorem exchange_cases (json : ∀ row ∈ system.store.downlink.rows, host.isJson row.frame)
    (node : String) (up down : Nat) (faults : List Bool) :
    (∃ reached batch, InRange system.store node down ∧
      Exchanged host system.store node up down batch reached ∧
      system.exchange host node up down faults =
        { system.written reached with batches := system.batches ++ [(node, batch)] }) ∨
    system.exchange host node up down faults = system ∨
    (faults ≠ [] ∧ InRange system.store node down ∧ up ≤ maxSafeInteger ∧
      system.exchange host node up down faults =
        system.written (system.store.raised node up down)) := by
  have judged := judged_downlinkExchange host system.store node up down
    ⟨system.store, faults, []⟩ rfl
  cases outcome : downlinkExchange host node up down ⟨system.store, faults, []⟩ with
  | mk world result =>
    rw [outcome] at judged
    cases result with
    | ok batch =>
      refine .inl ⟨world.store, batch, judged.1, judged.2, ?_⟩
      rw [exchange, outcome]
    | error _ =>
      have ends : system.exchange host node up down faults = system.written world.store := by
        rw [exchange, outcome]
      rcases judged with same | ⟨within, small, raised⟩
      · right
        left
        rw [ends, same]
      · right
        cases faults with
        | nil =>
          have kept := calm_downlinkExchange node up down system.store json
            ⟨system.store, [], []⟩ ⟨rfl, rfl⟩
          rw [outcome] at kept
          left
          rw [ends, kept]
        | cons _ _ =>
          right
          exact ⟨cons_ne_nil _ _, within, small, by rw [ends, raised]⟩

theorem assignedTo_exchange (node other : String) (up down : Nat) (faults : List Bool) :
    (system.exchange host node up down faults).assignedTo other = system.assignedTo other := by
  rw [exchange]
  split <;> rfl

section
variable (sound : Sound host trimmed system)
include sound

theorem Sound.raise (within : InRange system.store node down) (small : up ≤ maxSafeInteger) :
    Sound host (fun other => trimmed other ∧ other ≠ node)
      (system.written (system.store.raised node up down)) := by
  apply sound.quiet
  · exact ⟨List.Sublist.refl _, fun _ present => cursorRow_raised present,
      fun _ known => Or.inl known,
      fun _ member => Or.inr (cursors_raised sound.cursors small member),
      fun row member => Or.inl ⟨row, member, rfl⟩⟩
  · intro other dropped retains exactly
    refine ⟨dropped, retains.raise node up down ?_, ?_⟩
    · rintro rfl
      rw [← retains.highest]
      exact within
    · rintro ⟨held, different⟩
      have ack := downlinkAck_raise system.store.toExchangeTables node other up down
      rw [if_neg fun mine => different mine.1] at ack
      exact (exactly held).trans ack.symm

theorem Sound.drop (node : String) : Sound host (fun other => trimmed other ∨ other = node)
      (system.written (ClientDownlink.dropThrough system.store node
        (system.store.downlinkAck node))) := by
  apply sound.quiet
  · exact ⟨filter_sublist, fun _ present => present, fun _ known => Or.inl known,
      fun _ member => Or.inl member, fun row member => Or.inl ⟨row, member, rfl⟩⟩
  · intro other dropped retains exactly
    by_cases mine : other = node
    · subst mine
      exact ⟨_, retains.drop, fun _ => rfl⟩
    · exact ⟨dropped, retains.drop_other mine _, fun held => exactly (held.resolve_right mine)⟩

theorem Sound.exchanged {batch : List ClientDownlinkFrame} {reached : ClientStore Rest}
    (within : InRange system.store node down)
    (exchanged : Exchanged host system.store node up down batch reached) :
    Sound host trimmed (system.written reached) := by
  have moved := (sound.raise within exchanged.small).drop node
  rw [exchanged.reached]
  apply moved.weaken
  intro other held
  by_cases mine : other = node
  · exact .inr mine
  · exact .inl ⟨held, mine⟩

theorem Sound.exchangeStep (node : String) (up down : Nat) {faults : List Bool}
    (calm : ∀ node, trimmed node → faults = []) :
    Sound host trimmed (system.exchange host node up down faults) := by
  rcases exchange_cases sound.json node up down faults with
    ⟨reached, batch, within, exchanged, ends⟩ | same | ⟨faulty, within, small, ends⟩
  · rw [ends]
    have moved := sound.exchanged within exchanged
    exact ⟨moved.streams, moved.json, moved.served, moved.enrolled, moved.cursors, moved.frames⟩
  · rwa [same]
  · rw [ends]
    exact (sound.raise within small).weaken fun other held => absurd (calm other held) faulty

theorem Sound.congr {other : DownlinkSystem Rest} (store : other.store = system.store)
    (assigned : other.assigned = system.assigned) : Sound host trimmed other := by
  cases other
  cases store
  cases assigned
  exact ⟨sound.streams, sound.json, sound.served, sound.enrolled, sound.cursors, sound.frames⟩

end

end Steps

end DownlinkSystem

def DownlinkEvent.Calm : DownlinkEvent → Prop
  | .exchange _ _ _ faults => faults = []
  | .poll _ _ faults => faults = []
  | _ => True

namespace DownlinkSystem

section Runs
variable {host : ExchangeHost Body Rest} {trimmed : String → Prop} {system : DownlinkSystem Rest}

theorem Sound.step (sound : Sound host trimmed system) (event : DownlinkEvent)
    (calm : ∀ node, trimmed node → event.Calm) : Sound host trimmed (system.step host event) := by
  by_cases transacts : event.isTransaction = true
  · obtain ⟨next, frames, ingested, ends⟩ := step_ingests sound event transacts
    rw [ends]
    exact sound.ingested ingested
  cases event with
  | enroll | reserve | complete | append => exact absurd rfl transacts
  | exchange node up down faults => exact sound.exchangeStep node up down calm
  | report node => exact sound.congr rfl rfl
  | poll report up faults =>
    rw [DownlinkSystem.step]
    cases system.reports[report]? with
    | none => exact sound
    | some sent => exact sound.exchangeStep sent.1 up sent.2 calm
  | receive batch count =>
    rw [DownlinkSystem.step]
    cases system.batches[batch]? with
    | none => exact sound
    | some sent => exact sound.congr rfl rfl

theorem run_sound (host : ExchangeHost Body Rest) (rest : Rest) (events : List DownlinkEvent) :
    Sound host (fun _ => ∀ event ∈ events, event.Calm)
      (Runs.after (step host) (start rest) events) := by
  apply Runs.after_invariant_of _ (fun event => (∀ event ∈ events, event.Calm) → event.Calm) _
    (start_sound host _ rest) events
  · exact fun event member calm => calm event member
  · exact fun system event calm sound => sound.step event fun _ => calm

end Runs

end DownlinkSystem

end WinWinCode.Server
