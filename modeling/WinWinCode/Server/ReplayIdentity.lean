import WinWinCode.Storage.Reservations
import WinWinCode.Server.ExchangeRules

/-!
What a replayed batch does to the identity of a node: its current instance, its
version and its session capacity. Every frame of the batch lies at or below the
node's stored cursor. The exchange lets a Hello of another instance take the node
over before it looks at the frame's position, so the batch is inert exactly when
it carries no such Hello the server would come to. `TakesOver` states that
condition on the request and the stored rows.
-/

namespace WinWinCode.Server

open Exchange Fallible Programs Storage Tables Text ClientRegistry List
open Program (bind_ok)

variable {Body Rest : Type}

structure NodeIdentity where
  currentInstanceId : Option String
  clientVersion : String
  maxConcurrentWorkerSessions : Nat
deriving DecidableEq

def identityAt (tables : EffectTables Rest) (node : String) : Option NodeIdentity :=
  (tables.nodeRow node).map fun record =>
    ⟨record.currentInstanceId, record.clientVersion, record.maxConcurrentWorkerSessions⟩

def reservationOf (host : ExchangeHost Body Rest) (node : String)
    (envelope : ClientToServerEnvelope Body) : Reservation :=
  ⟨node, envelope.sequence, envelope.messageId, host.payloadDigest envelope.message,
    envelope.message.idempotencyKey⟩

/-- A Hello from another instance than the one the request began with. -/
def Foreign (effective : String) (envelope : ClientToServerEnvelope Body) : Prop :=
  envelope.message.helloPayload.isSome = true ∧ envelope.clientInstanceId ≠ effective

instance (effective : String) (envelope : ClientToServerEnvelope Body) :
    Decidable (Foreign effective envelope) :=
  inferInstanceAs (Decidable (_ ∧ _))

section
variable (host : ExchangeHost Body Rest) (tables : ExchangeTables) (record : ClientNodeRecord)
  (node : String)

/-- The instance trusted after some frames: the last foreign Hello's. -/
def trustedAfter (effective trusted : String) (frames : List (ClientToServerEnvelope Body)) :
    String :=
  frames.foldl (fun trusted frame =>
    if Foreign effective frame then frame.clientInstanceId else trusted) trusted

/-- The Hello stands for a registration the registry accepts. -/
def ValidHello (envelope : ClientToServerEnvelope Body) : Prop :=
  ∃ payload, envelope.message.helloPayload = some payload ∧
    (helloRegistration record envelope.clientInstanceId payload).validate = .ok ()

/-- Frames the server confirms one after the other: each well formed, sent by the
instance trusted at that point, and at odds neither with a stored row nor with an
earlier frame. -/
structure Confirms
    (effective trusted : String) (frames : List (ClientToServerEnvelope Body)) : Prop where
  formed : ∀ frame ∈ frames, frame.message.isEnroll = false ∧
    (envelopeIdentity host frame).malformed = false
  sender : ∀ earlier frame later, frames = earlier ++ frame :: later →
    frame.clientInstanceId = trustedAfter effective trusted (earlier ++ [frame])
  admitted : ∀ frame ∈ frames, (reservationOf host node frame).Admitted tables
  compatible : frames.Pairwise fun earlier later =>
    (reservationOf host node earlier).Compatible (reservationOf host node later)

/-- Some confirmed frames are followed by a valid Hello of another instance. -/
def Supersedes (node effective trusted : String)
    (frames : List (ClientToServerEnvelope Body)) : Prop :=
  ∃ before hello rest, frames = before ++ hello :: rest ∧
    hello.clientInstanceId ≠ effective ∧ ValidHello record hello ∧
    Confirms host tables node effective trusted before

def Introduces (envelopes : List (ClientToServerEnvelope Body)) : Prop :=
  record.currentInstanceId = none ∧ record.presenceState = .pendingEnrollment ∧
    ∃ hello, envelopes.head? = some hello ∧ ValidHello record hello

def Replaces (envelopes : List (ClientToServerEnvelope Body)) : Prop :=
  ∃ effective, record.currentInstanceId = some effective ∧
    Supersedes host tables record node effective effective envelopes

/-- The request passes the gates of the exchange, and then introduces an instance
or replaces the current one. -/
def TakesOver (store : ClientStore Rest) (node : String)
    (envelopes : List (ClientToServerEnvelope Body)) (clientAck : Nat) (now : String) : Prop :=
  isCanonicalId "cnd_" node = true ∧ ∃ record cursors,
    store.nodeRow node = some record ∧ record.presenceState ≠ .revoked ∧
    store.cursorRow node = some cursors ∧
    cursors.clientToServerAckSequence ≤ maxSafeInteger ∧
    cursors.serverToClientAckSequence ≤ maxSafeInteger ∧
    store.highestDownlink node ≤ maxSafeInteger ∧
    clientAck ≤ max cursors.serverToClientAckSequence (store.highestDownlink node) ∧
    Refreshable record now ∧
    (Introduces record envelopes ∨
      Replaces host store.toExchangeTables record node envelopes)

end

section Condition
variable {host : ExchangeHost Body Rest} {tables absorbed : ExchangeTables}
  {record : ClientNodeRecord} {node effective trusted : String}
  {frame : ClientToServerEnvelope Body} {rest : List (ClientToServerEnvelope Body)}

theorem trustedAfter_cons (frames : List (ClientToServerEnvelope Body)) :
    trustedAfter effective trusted (frame :: frames) =
      trustedAfter effective (trustedAfter effective trusted [frame]) frames := rfl

structure ConfirmsOne (host : ExchangeHost Body Rest) (tables : ExchangeTables)
    (node effective trusted : String) (frame : ClientToServerEnvelope Body) : Prop where
  formed : frame.message.isEnroll = false ∧ (envelopeIdentity host frame).malformed = false
  sender : frame.clientInstanceId = trustedAfter effective trusted [frame]
  admitted : (reservationOf host node frame).Admitted tables

theorem confirms_nil : Confirms host tables node effective trusted [] := by
  refine ⟨by simp, ?_, by simp, List.Pairwise.nil⟩
  intro _ _ _ split
  simp at split

/-- Confirming a batch is confirming its head and then, against the rows its head
leaves, its tail. -/
theorem confirms_cons (absorbs : (reservationOf host node frame).Absorbed tables absorbed) :
    Confirms host tables node effective trusted (frame :: rest) ↔
      ConfirmsOne host tables node effective trusted frame ∧
        Confirms host absorbed node effective (trustedAfter effective trusted [frame]) rest := by
  constructor
  · intro whole
    have formed := forall_mem_cons.mp whole.formed
    have admitted := forall_mem_cons.mp whole.admitted
    have compatible := pairwise_cons.mp whole.compatible
    refine ⟨⟨formed.1, ?_, admitted.1⟩, formed.2, ?_, ?_, compatible.2⟩
    · exact whole.sender [] frame rest rfl
    · intro earlier next later split
      have sent := whole.sender (frame :: earlier) next later (by rw [split]; rfl)
      rwa [cons_append, trustedAfter_cons] at sent
    · intro next member
      exact (absorbs _).mpr ⟨admitted.2 next member, compatible.1 next member⟩
  · rintro ⟨head, tail⟩
    have admitted : ∀ next ∈ rest, (reservationOf host node next).Admitted tables ∧
        (reservationOf host node frame).Compatible (reservationOf host node next) :=
      fun next member => (absorbs _).mp (tail.admitted next member)
    refine ⟨?_, ?_, ?_, ?_⟩
    · exact forall_mem_cons.mpr ⟨head.formed, tail.formed⟩
    · intro earlier next later split
      cases earlier with
      | nil =>
        obtain ⟨rfl, rfl⟩ := List.cons.inj split
        exact head.sender
      | cons _ earlier =>
        obtain ⟨rfl, shifted⟩ := List.cons.inj split
        rw [cons_append, trustedAfter_cons]
        exact tail.sender earlier next later shifted
    · exact forall_mem_cons.mpr ⟨head.admitted, fun next member => (admitted next member).1⟩
    · exact pairwise_cons.mpr ⟨fun next member => (admitted next member).2, tail.compatible⟩

theorem supersedes_cases
    (found : Supersedes host tables record node effective trusted (frame :: rest)) :
    (frame.clientInstanceId ≠ effective ∧ ValidHello record frame) ∨
      (ConfirmsOne host tables node effective trusted frame ∧
        ∀ absorbed : ExchangeTables, (reservationOf host node frame).Absorbed tables absorbed →
          Supersedes host absorbed record node effective (trustedAfter effective trusted [frame])
            rest) := by
  obtain ⟨before, hello, after, split, different, valid, confirmed⟩ := found
  cases before with
  | nil =>
    obtain ⟨rfl, rfl⟩ := List.cons.inj split
    exact .inl ⟨different, valid⟩
  | cons _ before =>
    obtain ⟨rfl, rfl⟩ := List.cons.inj split
    refine .inr ⟨?_, fun absorbed absorbs => ?_⟩
    · have formed := forall_mem_cons.mp confirmed.formed
      exact ⟨formed.1, confirmed.sender [] frame before rfl,
        (forall_mem_cons.mp confirmed.admitted).1⟩
    · exact ⟨before, hello, after, rfl, different, valid, ((confirms_cons absorbs).mp confirmed).2⟩

end Condition

section
variable {store next : ClientStore Rest} {registration : ClientNodeRegistration}
  {record : ClientNodeRecord} {now : String}

theorem register_succeeds (found : store.nodeRow registration.clientNodeId = some record)
    (valid : registration.validate = .ok ()) (active : record.presenceState ≠ .revoked)
    (bound : record.publicClientId = registration.publicClientId)
    (refreshable : Refreshable record now) :
    ∃ receipt, register store registration record.revision now =
      .ok (refreshedStore store registration record, receipt) := by
  refine ⟨⟨refreshed registration record, false⟩, ?_⟩
  have safe : record.revision ≤ maxSafeInteger := Nat.le_of_succ_le refreshable.1
  have small : record.revision ≤ sqlIntegerMax := safe.trans (by decide)
  refine bind_eq_ok.mpr ⟨(), valid, ?_⟩
  simp only [validateRevision, validateInstant, refuse_bind_eq_ok, found, not_lt, Bool.not_eq_false]
  refine ⟨safe, refreshable.2, bind_eq_ok.mpr ⟨(), ?_, bind_eq_ok.mpr
    ⟨refreshedStore store registration record, ?_, bind_eq_ok.mpr ⟨_, ?_, rfl⟩⟩⟩⟩
  · simp only [ensureRegistrationReplay, refuse_bind_eq_ok, refuse_eq_ok, bound,
      ne_eq, not_true_eq_false, not_false_eq_true, active, and_self]
  · simp only [refreshClientNodeProjection, sqlInteger, refuse_bind_eq_ok, not_lt]
    exact ⟨small, refreshable.1, rfl⟩
  · rw [nodeRow_refreshed found]
    rfl

section Hello
variable {node clientInstanceId : String} {payload : ClientHelloPayload}

theorem register_hello (found : store.nodeRow node = some record)
    {receipt : ClientNodeRegistrationReceipt}
    (done : register store (helloRegistration record clientInstanceId payload)
      record.revision now = .ok (next, receipt)) : Refreshable record now ∧ next.nodeRow node =
      some (refreshed (helloRegistration record clientInstanceId payload) record) := by
  have known := nodeRow_self found
  obtain ⟨refreshable, rfl⟩ := register_known known done
  refine ⟨refreshable, ?_⟩
  rw [← nodeRow_owner found]
  exact nodeRow_refreshed known

end Hello

end

section
variable {store : ClientStore Rest} {record : ClientNodeRecord} {node now : String}
  {frame : ClientToServerEnvelope Body}

theorem judged_supersede_inert (found : store.nodeRow node = some record)
    (inert : ¬ (ValidHello record frame ∧ Refreshable record now)) :
    Preserves (fun reached _ => reached = store)
      (supersedeInstance node frame now : Exchange Rest Unit) := by
  apply preserves_supersede
  rintro _ _ _ _ payload current rfl greeted known valid done
  have same : current = record := Option.some.inj (known.symm.trans found)
  subst same
  -- a registration that goes through would be the takeover excluded above
  exact absurd ⟨⟨payload, greeted, valid⟩, (register_hello found done).1⟩ inert

def Standing (node : String) (holds : Option String → Prop) (tables : EffectTables Rest) : Prop :=
  ∃ record, tables.nodeRow node = some record ∧ holds record.currentInstanceId

/-- The same of the store, as an assertion about the exchange. -/
abbrev Stands (node : String) (holds : Option String → Prop) : Assertion Rest :=
  fun store _ => Standing node holds store.toEffectTables

variable {world : World Rest}

theorem supersede_takes (calm : world.faults = []) (canonical : isCanonicalId "cnd_" node)
    (found : world.store.nodeRow node = some record) (active : record.presenceState ≠ .revoked)
    (other : record.currentInstanceId ≠ some frame.clientInstanceId)
    (valid : ValidHello record frame) (refreshable : Refreshable record now) :
    ∃ reached, supersedeInstance node frame now world = (reached, .ok ()) ∧
      Standing node (· = some frame.clientInstanceId) reached.store.toEffectTables := by
  obtain ⟨payload, greeted, valid⟩ := valid
  obtain ⟨receipt, done⟩ := register_succeeds (nodeRow_self found) valid active rfl refreshable
  have stale : alreadyCurrent record frame.clientInstanceId payload = false := by
    simp [alreadyCurrent, other]
  have accepted : (helloRegistration record frame.clientInstanceId payload).tryNew =
      .ok (helloRegistration record frame.clientInstanceId payload) :=
    bind_eq_ok.mpr ⟨(), valid, rfl⟩
  refine ⟨{ world with store := _ }, ?_, _, (register_hello found done).2, rfl⟩
  have written : transactionOrUnavailable (fun store => register store
      (helloRegistration record frame.clientInstanceId payload) record.revision now) world = _ :=
    transaction_calm calm done
  unfold supersedeInstance
  simp only [greeted]
  rw [bind_ok (snapshot_calm calm canonical), found]
  simp only [stale, accepted, Bool.false_eq_true, if_false]
  rw [bind_ok written]
  rfl

theorem supersede_skips (calm : world.faults = []) (canonical : isCanonicalId "cnd_" node)
    (found : world.store.nodeRow node = some record) (invalid : ¬ ValidHello record frame) :
    supersedeInstance node frame now world = (world, .ok ()) := by
  unfold supersedeInstance
  cases greeted : frame.message.helloPayload with
  | none => rfl
  | some payload =>
    dsimp only
    rw [bind_ok (snapshot_calm calm canonical), found]
    dsimp only
    split
    · rfl
    cases accepted : (helloRegistration record frame.clientInstanceId payload).tryNew with
    | error _ => rfl
    | ok _ => exact absurd ⟨payload, greeted, (tryNew_ok accepted).1⟩ invalid

end

variable {world : World Rest}

section Frame
variable {host : ExchangeHost Body Rest} {node now : String} {start : Nat}
  {frame : ClientToServerEnvelope Body}

theorem effectWhenDue_behind (behind : frame.sequence ≤ start) (completed : Bool)
    (key : Option String) : effectWhenDue host node start frame completed key now = pure none := by
  simp [effectWhenDue, Nat.not_lt.mpr behind]

def Replayed (host : ExchangeHost Body Rest) (node : String) (frame : ClientToServerEnvelope Body)
    (keeps : EffectTables Rest → Prop) (tables : ExchangeTables) : Assertion Rest :=
  fun store _ => keeps store.toEffectTables ∧ (reservationOf host node frame).Admitted tables ∧
    (reservationOf host node frame).Absorbed tables store.toExchangeTables

theorem judged_settleEnvelope_replay (keeps : EffectTables Rest → Prop) (tables : ExchangeTables)
    (behind : frame.sequence ≤ start) :
    Judged (fun store _ => store.toExchangeTables = tables ∧ keeps store.toEffectTables)
      (settleEnvelope host node start frame (envelopeIdentity host frame)
        frame.message.idempotencyKey now) (fun _ => Replayed host node frame keeps tables)
      (fun store _ => keeps store.toEffectTables) := by
  refine judged_bind (fun _ => Replayed host node frame keeps tables) ?_
    fun completed => ?_
  · apply judged_transaction
    · rintro store _ _ _ ⟨rfl, kept⟩ done
      obtain ⟨⟨_, _⟩, reserves, success⟩ := bind_eq_ok.mp done
      cases success
      exact ⟨kept, reserveExchangeFrame_admits (reservationOf host node frame)
        reserves⟩
    · exact fun _ _ start => start.2
  rw [effectWhenDue_behind behind, Program.pure_bind]
  refine judged_bind (fun _ => Replayed host node frame keeps tables) ?_ fun _ => ?_
  · apply judged_transaction
    · rintro _ _ _ _ ⟨kept, admitted, absorbs⟩ done
      obtain ⟨_, completes, success⟩ := bind_eq_ok.mp done
      cases success
      obtain ⟨_, answered, completes⟩ := bind_eq_ok.mp completes
      obtain ⟨_, settles, stored⟩ := bind_eq_ok.mp completes
      cases answered
      cases stored
      refine ⟨kept, admitted, fun later => ?_⟩
      exact (settleFrame_admits settles later).trans (absorbs later)
    · exact fun _ _ start => start.1
  · exact judged_note _ fun _ _ start => start

theorem settleEnvelope_calm (calm : world.faults = []) (canonical : isCanonicalId "cnd_" node)
    (safe : frame.sequence ≤ maxSafeInteger) (behind : frame.sequence ≤ start)
    (admitted : (reservationOf host node frame).Admitted world.store.toExchangeTables) :
    ∃ reached, settleEnvelope host node start frame (envelopeIdentity host frame)
      frame.message.idempotencyKey now world = (reached, .ok ()) ∧ reached.faults = [] := by
  rcases reserveExchangeFrame_succeeds (reservationOf host node frame) canonical
    safe admitted with ⟨reserved, completed, reserves⟩
  have placed := (reserveExchangeFrame_ok reserves).frame
  rcases settleFrame_succeeds frame.message.idempotencyKey safe placed with
    ⟨settled, settles⟩
  let held : World Rest := { world with store := { world.store with toExchangeTables := reserved } }
  have calm' : held.faults = [] := calm
  have first : reserveEnvelope node frame (envelopeIdentity host frame)
      frame.message.idempotencyKey world.store = .ok (held.store, completed) :=
    bind_eq_ok.mpr ⟨_, reserves, rfl⟩
  have last : completeEnvelope node frame frame.message.idempotencyKey none held.store =
      .ok ({ held.store with toExchangeTables := settled }, ()) :=
    bind_eq_ok.mpr ⟨_, bind_eq_ok.mpr ⟨_, rfl, bind_eq_ok.mpr ⟨_, settles, rfl⟩⟩, rfl⟩
  have written : transactionOrUnavailable _ held = _ := transaction_calm calm' last
  unfold settleEnvelope
  rw [bind_ok (transaction_calm calm first), effectWhenDue_behind behind,
    Program.pure_bind, Option.map_none, bind_ok written]
  exact ⟨_, rfl, calm⟩

end Frame

/-- A settler that has accepted nothing yet, at the request's first cursor. -/
structure Idle (start : Nat) (settler : BatchSettler) : Prop where
  dedup : settler.dedup = .new
  ack : settler.ackSequence = start

variable {store : ClientStore Rest}

section Batch
variable {host : ExchangeHost Body Rest} {node effective now : String} {start : Nat}
  {record : ClientNodeRecord} {frame : ClientToServerEnvelope Body} {settler : BatchSettler}

/-- A replayed frame is a duplicate unless it is malformed or from an instance
that is not trusted. -/
theorem ingest_replay (idle : Idle start settler) (trusted : String)
    (behind : frame.sequence ≤ start) :
    ingestEnvelope host (settler.takeOverInstance trusted) frame =
      (settler.takeOverInstance trusted,
        if (envelopeIdentity host frame).malformed ∨ trusted ≠ frame.clientInstanceId
        then .refused else .duplicate) := by
  unfold ingestEnvelope BatchSettler.ingest
  by_cases malformed : (envelopeIdentity host frame).malformed = true
  · simp [malformed]
  by_cases stranger : trusted ≠ frame.clientInstanceId
  · simp [malformed, stranger, BatchSettler.takeOverInstance]
  have positive : frame.sequence ≠ 0 := by
    intro zero
    simp [FrameIdentity.malformed, envelopeIdentity, zero] at malformed
  have observed : settler.ack.observe frame.sequence = .duplicate :=
    AckCursor.observe_behind positive (behind.trans_eq idle.ack.symm)
  have unseen : settler.dedup.checkFrame (envelopeIdentity host frame) = .new := by
    rw [idle.dedup]
    rfl
  simp only [malformed, stranger, BatchSettler.takeOverInstance, Bool.false_eq_true, if_false,
    or_self]
  simp only [BatchSettler.sequenced, envelopeIdentity, observed] at unseen ⊢
  rw [unseen]

theorem takeOver_foreign (foreign : Foreign effective frame) (settler : BatchSettler) :
    (takeOver node effective frame settler now : Exchange Rest BatchSettler) = (do
      supersedeInstance node frame now
      pure (settler.takeOverInstance (trustedAfter effective settler.trustedInstance [frame]))) := by
  have enters : (frame.message.helloPayload.isSome &&
      frame.clientInstanceId != effective) = true := by
    simpa [Foreign] using foreign
  simp only [takeOver, if_pos enters, trustedAfter, foldl_cons, foldl_nil, if_pos foreign]

theorem takeOver_plain (plain : ¬ Foreign effective frame) (settler : BatchSettler) :
    (takeOver node effective frame settler now : Exchange Rest BatchSettler) =
      pure (settler.takeOverInstance (trustedAfter effective settler.trustedInstance [frame])) := by
  have skips : ¬ (frame.message.helloPayload.isSome &&
      frame.clientInstanceId != effective) = true := by
    simpa [Foreign] using plain
  simp only [takeOver, if_neg skips, trustedAfter, foldl_cons, foldl_nil, if_neg plain]
  rfl

theorem judged_takeOver_inert (found : store.nodeRow node = some record)
    (inert : ¬ (frame.clientInstanceId ≠ effective ∧ ValidHello record frame ∧
      Refreshable record now)) (settler : BatchSettler) : Judged (fun reached _ => reached = store)
      (takeOver node effective frame settler now : Exchange Rest BatchSettler)
      (fun taken reached _ => taken = settler.takeOverInstance
        (trustedAfter effective settler.trustedInstance [frame]) ∧ reached = store)
      (fun reached _ => reached = store) := by
  by_cases foreign : Foreign effective frame
  · rw [takeOver_foreign foreign]
    apply triple_bind (judged_supersede_inert found fun both => inert ⟨foreign.2, both.1, both.2⟩)
    intro _
    exact triple_pure fun _ kept => ⟨rfl, kept⟩
  · rw [takeOver_plain foreign]
    exact triple_pure fun _ kept => ⟨rfl, kept⟩

theorem Idle.takeOver (idle : Idle start settler) (trusted : String) :
    Idle start (settler.takeOverInstance trusted) :=
  ⟨idle.dedup, idle.ack⟩

variable {frames : List (ClientToServerEnvelope Body)}

/-- A batch that supersedes no instance leaves every table but the exchange tables
as they are, whichever transaction fails. -/
theorem judged_settleBatch_inert {effects : EffectTables Rest}
    (found : effects.nodeRow node = some record) (behind : ∀ frame ∈ frames, frame.sequence ≤ start)
    (idle : Idle start settler) (same : store.toEffectTables = effects)
    (inert : ¬ (Refreshable record now ∧ Supersedes host store.toExchangeTables record node
      effective settler.trustedInstance frames)) : Judged (fun reached _ => reached = store)
      (settleBatch host node effective start now frames settler)
      (fun _ reached _ => reached.toEffectTables = effects)
      (fun reached _ => reached.toEffectTables = effects) := by
  induction frames generalizing settler store with
  | nil => exact triple_pure fun _ kept => (congrArg _ kept).trans same
  | cons frame rest ih =>
    obtain ⟨behindHead, behindRest⟩ := forall_mem_cons.mp behind
    unfold settleBatch
    split
    · exact triple_pure fun _ kept => (congrArg _ kept).trans same
    rename_i posted
    refine triple_bind (triple_mono (judged_takeOver_inert (same ▸ found) ?_ settler)
      (fun _ _ reached => reached) fun _ kept => (congrArg _ kept).trans same) fun taken => ?_
    · rintro ⟨different, valid, refreshable⟩
      exact inert ⟨refreshable, [], frame, _, rfl, different, valid, confirms_nil⟩
    apply judged_assume
    rintro rfl
    rw [ingest_replay idle _ behindHead]
    by_cases refused : (envelopeIdentity host frame).malformed = true ∨
        trustedAfter effective settler.trustedInstance [frame] ≠ frame.clientInstanceId
    · rw [if_pos refused]
      exact triple_pure fun _ kept => (congrArg _ kept).trans same
    · rw [if_neg refused]
      obtain ⟨formed, trusted⟩ := not_or.mp refused
      refine triple_bind (triple_pre (judged_settleEnvelope_replay (· = effects)
        store.toExchangeTables behindHead) ?_) ?_
      · rintro _ kept
        exact ⟨congrArg _ kept, (congrArg _ kept).trans same⟩
      · rintro _ world ⟨kept, admitted, absorbs⟩
        -- the rest is judged against the rows this frame left
        refine ih behindRest (idle.takeOver _) kept ?_ world rfl
        rintro ⟨refreshable, before, hello, after, rfl, different, valid, confirmed⟩
        refine inert ⟨refreshable, frame :: before, hello, after, rfl, different, valid,
          (confirms_cons absorbs).mpr ⟨⟨⟨?_, ?_⟩, ?_, admitted⟩, confirmed⟩⟩
        · simpa using posted
        · simpa using formed
        · exact (not_not.mp trusted).symm

variable (holds : Option String → Prop)

theorem judged_takeOver_standing
    (others : ∀ instanceId, instanceId ≠ effective → holds (some instanceId))
    (settler : BatchSettler) : Preserves (Stands node holds)
      (takeOver node effective frame settler now : Exchange Rest BatchSettler) := by
  unfold takeOver
  split
  · rename_i foreign
    simp only [Bool.and_eq_true, bne_iff_ne, ne_eq] at foreign
    refine triple_bind (preserves_supersede fun _ _ _ _ _ _ _ _ found _ done => ?_) fun _ => ?_
    · exact ⟨_, (register_hello found done).2, others _ foreign.2⟩
    · exact triple_pure fun _ stands => stands
  · exact triple_pure fun _ stands => stands

theorem judged_settleIngested_standing (behind : frame.sequence ≤ start)
    (ingested : BatchSettler × BatchOutcome)
    {rest : BatchSettler → Exchange Rest (BatchSettler × Option Nat)} (continues : ∀ settler,
      Preserves (Stands node holds) (rest settler)) : Preserves (Stands node holds)
      (settleIngested host node start now frame ingested rest) := by
  have settles : Preserves (Stands node holds)
      (settleEnvelope host node start frame (envelopeIdentity host frame)
        frame.message.idempotencyKey now >>= fun _ => rest ingested.1) := by
    refine judged_bind (fun _ => Stands node holds) ?_ fun _ => continues _
    intro world stands
    exact triple_mono (judged_settleEnvelope_replay (Standing node holds)
      world.store.toExchangeTables behind) (fun _ _ reached => reached.1)
      (fun _ reached => reached) world ⟨rfl, stands⟩
  unfold settleIngested
  cases ingested.2 with
  | gap _ | refused => exact triple_pure fun _ stands => stands
  | accepted | duplicate => exact settles

theorem judged_settleBatch_standing
    (others : ∀ instanceId, instanceId ≠ effective → holds (some instanceId))
    (behind : ∀ frame ∈ frames, frame.sequence ≤ start) (settler : BatchSettler) :
    Preserves (Stands node holds) (settleBatch host node effective start now frames settler) := by
  induction frames generalizing settler with
  | nil => exact triple_pure fun _ stands => stands
  | cons _ _ ih =>
    obtain ⟨behindHead, behindRest⟩ := forall_mem_cons.mp behind
    unfold settleBatch
    split
    · exact triple_pure fun _ stands => stands
    refine triple_bind (judged_takeOver_standing holds others settler) fun taken => ?_
    exact judged_settleIngested_standing holds behindHead _ (ih behindRest)

section Calm

section
variable (calm : world.faults = []) (canonical : isCanonicalId "cnd_" node = true)
  (found : world.store.nodeRow node = some record)
include calm canonical found

theorem takeOver_skips (inert : ¬ (frame.clientInstanceId ≠ effective ∧ ValidHello record frame))
    (settler : BatchSettler) :
    takeOver node effective frame settler now world = (world, .ok (settler.takeOverInstance
      (trustedAfter effective settler.trustedInstance [frame]))) := by
  by_cases foreign : Foreign effective frame
  · have skipped : supersedeInstance node frame now world = (world, .ok ()) :=
      supersede_skips calm canonical found fun valid => inert ⟨foreign.2, valid⟩
    rw [takeOver_foreign foreign, bind_ok skipped]
    rfl
  · rw [takeOver_plain foreign]
    rfl

theorem takeOver_takes (active : record.presenceState ≠ .revoked)
    (current : record.currentInstanceId = some effective) (refreshable : Refreshable record now)
    (different : frame.clientInstanceId ≠ effective) (valid : ValidHello record frame)
    (settler : BatchSettler) :
    ∃ reached taken, takeOver node effective frame settler now world = (reached, .ok taken) ∧
      Standing node (· ≠ some effective) reached.store.toEffectTables := by
  have other : record.currentInstanceId ≠ some frame.clientInstanceId := by
    rw [current]
    exact fun same => different (Option.some.inj same).symm
  rcases supersede_takes calm canonical found active other valid refreshable with
    ⟨reached, taken, moved, stored, named⟩
  refine ⟨reached, settler.takeOverInstance (trustedAfter effective settler.trustedInstance
    [frame]), ?_, moved, stored, ?_⟩
  · obtain ⟨_, greeted, _⟩ := valid
    have foreign : Foreign effective frame := ⟨by rw [greeted]; rfl, different⟩
    rw [takeOver_foreign foreign, bind_ok taken]
    rfl
  · rw [named]
    exact fun same => different (Option.some.inj same)

theorem settleBatch_supersedes (active : record.presenceState ≠ .revoked)
    (current : record.currentInstanceId = some effective) (refreshable : Refreshable record now)
    (safe : start ≤ maxSafeInteger) (behind : ∀ frame ∈ frames, frame.sequence ≤ start)
    (idle : Idle start settler)
    (supersedes : Supersedes host world.store.toExchangeTables record node effective
      settler.trustedInstance frames) : Standing node (· ≠ some effective)
      (settleBatch host node effective start now frames settler world).1.store.toEffectTables := by
  have others : ∀ instanceId, instanceId ≠ effective → some instanceId ≠ some effective :=
    fun instanceId different same => different (Option.some.inj same)
  induction frames generalizing settler world with
  | nil =>
    obtain ⟨_, hello, rest, split, _⟩ := supersedes
    simp at split
  | cons frame rest ih =>
    obtain ⟨behindHead, behindRest⟩ := forall_mem_cons.mp behind
    unfold settleBatch
    -- Either this frame takes the node over, or it is a replay and the hello is further back.
    by_cases takes : frame.clientInstanceId ≠ effective ∧ ValidHello record frame
    · have posted : frame.message.isEnroll = false := by
        obtain ⟨_, greeted, _⟩ := takes.2
        cases sent : frame.message <;> simp [sent, ClientToServerMessage.helloPayload] at greeted
        rfl
      rcases takeOver_takes calm canonical found active current refreshable takes.1 takes.2
        settler with ⟨reached, taken, moved, stands⟩
      rw [posted, if_neg Bool.false_ne_true, bind_ok moved]
      have keeps : Preserves
          (Stands node (· ≠ some effective))
          (settleIngested host node start now frame (ingestEnvelope host taken frame)
            (settleBatch host node effective start now rest)) :=
        judged_settleIngested_standing _ behindHead _
          (judged_settleBatch_standing _ others behindRest)
      exact Triple.reached keeps stands
    · rcases supersedes_cases supersedes with head | ⟨confirmed, tail⟩
      · exact absurd head takes
      rw [confirmed.formed.1, if_neg Bool.false_ne_true,
        bind_ok (takeOver_skips calm canonical found takes settler),
        ingest_replay idle _ behindHead]
      have accepted : ¬ ((envelopeIdentity host frame).malformed = true ∨
          trustedAfter effective settler.trustedInstance [frame] ≠ frame.clientInstanceId) := by
        simp [confirmed.formed.2, ← confirmed.sender]
      rw [if_neg accepted]
      rcases settleEnvelope_calm calm canonical (behindHead.trans safe) behindHead
        confirmed.admitted with ⟨reached, settled, calm'⟩
      have judged := (judged_settleEnvelope_replay (· = world.store.toEffectTables)
        world.store.toExchangeTables behindHead).of_ok ⟨rfl, rfl⟩ settled
      obtain ⟨kept, _, absorbs⟩ := judged
      change Standing node _ ((_ >>= fun _ => _ : Exchange Rest _) world).1.store.toEffectTables
      rw [bind_ok settled]
      have found' : reached.store.nodeRow node = some record := by
        rw [kept]
        exact found
      exact ih calm' found' behindRest (idle.takeOver _) (tail _ absorbs)

end

end Calm

end Batch

variable {clientAck : Nat}

section Request
variable {host : ExchangeHost Body Rest} {node now : String} {record : ClientNodeRecord}
  {envelopes : List (ClientToServerEnvelope Body)}

theorem nodes_same {reached : ClientStore Rest} (same : reached = store) :
    reached.nodes = store.nodes := by
  rw [same]

theorem judged_close_nodes (keeps : Table ClientNodeRecord ClientNodeRecord.Clash → Prop)
    (position clientAck : Nat) (replayHint : Option Nat) :
    Preserves (fun store _ => keeps store.nodes)
      (closeExchange host node position clientAck replayHint) := by
  refine triple_bind (?_ : Preserves (fun store _ => keeps store.nodes) _) fun batch =>
    triple_pure fun _ kept => kept
  refine triple_bind (?_ : Preserves (fun store _ => keeps store.nodes) _) fun cursors => ?_
  · apply judged_transaction
    · intro store _ _ _ kept done
      obtain ⟨_, _, success⟩ := bind_eq_ok.mp done
      cases success
      exact kept
    · exact fun _ _ kept => kept
  apply triple_bind (judged_query fun _ _ kept => kept)
  intro _
  refine triple_passed (fun _ start => start.1) fun _ _ => ?_
  refine judged_bind (fun _ store _ => keeps store.nodes) ?_ fun _ => ?_
  · apply judged_transaction
    · intro _ _ _ _ kept done
      simp only [ClientDownlink.retainThrough, ClientDownlink.validateClientNodeId,
        ClientDownlink.sqlInteger, refuse_bind_eq_ok] at done
      obtain ⟨_, _, success⟩ := done
      cases success
      exact kept.1
    · exact fun _ _ kept => kept.1
  · exact triple_pure fun _ kept => kept

theorem judged_introduce_inert (found : store.nodeRow node = some record)
    (inert : ¬ (Introduces record envelopes ∧ Refreshable record now)) :
    Preserves (fun reached _ => reached = store)
      (introduceInstance node record envelopes now : Exchange Rest Unit) := by
  unfold introduceInstance
  split
  · rename_i bare
    cases first : envelopes.head?.filter (·.message.helloPayload.isSome) with
    | none => exact triple_fail fun _ kept => kept
    | some hello =>
      apply judged_supersede_inert found
      rintro ⟨valid, refreshable⟩
      have head := (Option.filter_eq_some_iff.mp first).1
      exact inert ⟨⟨bare.1, bare.2, hello, head, valid⟩, refreshable⟩
  · exact triple_pure fun _ kept => kept

theorem judged_settleRequest_inert {cursors : ClientExchangeCursors}
    (found : store.nodeRow node = some record)
    (behind : ∀ frame ∈ envelopes, frame.sequence ≤ cursors.clientToServerAckSequence)
    (inert : ¬ (Refreshable record now ∧ (Introduces record envelopes ∨
      Replaces host store.toExchangeTables record node envelopes))) (clientAck : Nat) :
    Judged (fun reached _ => reached = store)
      (settleRequest host node envelopes record cursors clientAck now)
      (fun _ reached _ => reached.nodes = store.nodes)
      (fun reached _ => reached.nodes = store.nodes) := by
  refine judged_bind (fun _ reached _ => reached = store) ?_ fun _ => ?_
  · apply triple_mono (judged_introduce_inert found fun both => inert ⟨both.2, .inl both.1⟩)
      (fun _ _ kept => kept)
    exact fun _ => nodes_same
  refine triple_bind (judged_nodeRecord node fun _ _ => nodes_same)
    fun effective => ?_
  apply judged_here
  intro row
  obtain rfl := Option.some.inj (found.symm.trans row)
  refine triple_passed (fun _ => nodes_same) fun effectiveInstance present => ?_
  have current := okOr_eq_ok.mp present
  have quiet : ¬ (Refreshable record now ∧ Supersedes host store.toExchangeTables record node
      effectiveInstance effectiveInstance envelopes) :=
    fun both => inert ⟨both.1, .inr ⟨effectiveInstance, current, both.2⟩⟩
  have idle : Idle cursors.clientToServerAckSequence
      (.new effectiveInstance cursors.clientToServerAckSequence) := ⟨rfl, rfl⟩
  refine judged_bind (fun _ reached _ => reached.nodes = store.nodes) ?_
    fun answer => ?_
  · apply triple_mono (judged_settleBatch_inert found behind idle rfl quiet)
    · exact fun _ _ kept => congrArg EffectTables.nodes kept
    · exact fun _ kept => congrArg EffectTables.nodes kept
  · exact judged_close_nodes (· = store.nodes) answer.1.ackSequence clientAck answer.2

/-- Whatever fails, a replayed request that takes nothing over leaves the identity. -/
theorem judged_clientExchange_inert
    (behind : ∀ frame ∈ envelopes, frame.sequence ≤ store.uplinkCursor node)
    (inert : ¬ TakesOver host store node envelopes clientAck now) :
    Judged (fun reached _ => reached = store) (clientExchange host node envelopes clientAck now)
      (fun _ reached _ => reached.nodes = store.nodes)
      (fun reached _ => reached.nodes = store.nodes) := by
  refine triple_passed (fun _ => nodes_same) fun _ valid => ?_
  refine triple_bind (judged_nodeRecord node fun _ _ => nodes_same)
    fun record => ?_
  apply judged_here
  intro found
  refine triple_passed (fun _ => nodes_same) fun _ active => ?_
  refine triple_bind (judged_cursors node fun _ _ => nodes_same)
    fun cursors => ?_
  apply judged_here
  rintro ⟨⟨up, down⟩, row⟩
  refine triple_bind (judged_highWater node fun _ _ => nodes_same)
    fun highest => ?_
  apply judged_here
  rintro ⟨rfl, bounded⟩
  refine triple_passed (fun _ => nodes_same) fun _ inRange => ?_
  have stored := ExchangeTables.uplinkCursor_of_row row
  apply judged_settleRequest_inert found
  · intro frame member
    exact (behind frame member).trans_eq stored
  · rintro ⟨refreshable, takes⟩
    exact inert ⟨by simpa using refuse_eq_ok.mp valid, record, _, found, refuse_eq_ok.mp active,
      row, up, down, bounded, Nat.not_lt.mp (refuse_eq_ok.mp inRange), refreshable, takes⟩

theorem judged_close_standing (holds : Option String → Prop) (position clientAck : Nat)
    (replayHint : Option Nat) : Preserves (Stands node holds)
      (closeExchange host node position clientAck replayHint) :=
  judged_close_nodes (fun nodes => ∃ record, nodes.find (·.clientNodeId == node) =
    some record ∧ holds record.currentInstanceId) position clientAck replayHint

theorem introduce_takes (calm : world.faults = []) (canonical : isCanonicalId "cnd_" node)
    (found : world.store.nodeRow node = some record) (active : record.presenceState ≠ .revoked)
    (refreshable : Refreshable record now) (introduces : Introduces record envelopes) :
    Standing node (· ≠ none)
      (introduceInstance node record envelopes now world).1.store.toEffectTables := by
  obtain ⟨bare, pending, hello, head, valid⟩ := introduces
  have other : record.currentInstanceId ≠ some hello.clientInstanceId := by
    simp [bare]
  rcases supersede_takes calm canonical found active other valid refreshable with
    ⟨reached, ran, moved, stored, named⟩
  obtain ⟨_, greeted, _⟩ := valid
  have first : envelopes.head?.filter (·.message.helloPayload.isSome) = some hello := by
    simp [head, greeted]
  unfold introduceInstance
  rw [if_pos ⟨bare, pending⟩, first]
  dsimp only
  rw [ran]
  refine ⟨moved, stored, ?_⟩
  rw [named]
  exact Option.some_ne_none _

/-- Without faults, a request that introduces or replaces an instance ends with
another current instance. -/
theorem settleRequest_takes (cursors : ClientExchangeCursors) (calm : world.faults = [])
    (canonical : isCanonicalId "cnd_" node) (found : world.store.nodeRow node = some record)
    (active : record.presenceState ≠ .revoked) (refreshable : Refreshable record now)
    (safe : cursors.clientToServerAckSequence ≤ maxSafeInteger)
    (behind : ∀ frame ∈ envelopes, frame.sequence ≤ cursors.clientToServerAckSequence)
    (takes : Introduces record envelopes ∨
      Replaces host world.store.toExchangeTables record node envelopes) (clientAck : Nat) :
    Standing node (· ≠ record.currentInstanceId)
      (settleRequest host node envelopes record cursors clientAck now
        world).1.store.toEffectTables := by
  unfold settleRequest
  rcases takes with introduces | ⟨effective, current, supersedes⟩
  · have stands := introduce_takes calm canonical found active refreshable introduces
    rw [introduces.1]
    refine Triple.reached_bind
      (At (Stands node (· ≠ none))) stands fun _ => ?_
    refine judged_bind (fun _ => Stands node (· ≠ none)) ?_ fun effective => ?_
    · exact triple_mono (judged_nodeRecord node fun _ _ kept => kept)
        (fun _ _ reached => reached.1) fun _ kept => kept
    refine judged_bind (fun _ => Stands node (· ≠ none)) ?_ fun instanceId => ?_
    · exact triple_lift (fun _ _ _ kept => kept) fun _ kept => kept
    refine triple_bind (judged_settleBatch_standing (· ≠ none)
      (fun instanceId _ => Option.some_ne_none instanceId) behind _) fun answer => ?_
    exact judged_close_standing (· ≠ none) answer.1.ackSequence clientAck answer.2
  · have settled : ¬ (record.currentInstanceId = none ∧
        record.presenceState = .pendingEnrollment) := by
      simp [current]
    have known : (Program.lift (okOr record.currentInstanceId .unavailable) : Exchange Rest String)
        world = (world, .ok effective) := by
      rw [current]
      rfl
    have idle : Idle cursors.clientToServerAckSequence
        (.new effective cursors.clientToServerAckSequence) := ⟨rfl, rfl⟩
    rw [introduceInstance, if_neg settled, Program.pure_bind,
      bind_ok (nodeRecord_calm calm canonical found), bind_ok known, current]
    refine Triple.reached_bind
      (At (Stands node (· ≠ some effective)))
      (settleBatch_supersedes calm canonical found active current refreshable safe behind idle
        supersedes) fun answer => ?_
    exact judged_close_standing (· ≠ some effective) answer.1.ackSequence clientAck answer.2

theorem clientExchange_takes
    (behind : ∀ frame ∈ envelopes, frame.sequence ≤ store.uplinkCursor node)
    (takes : TakesOver host store node envelopes clientAck now) :
    identityAt (clientExchange host node envelopes clientAck now
      ⟨store, [], []⟩).1.store.toEffectTables node ≠ identityAt store.toEffectTables node := by
  rcases takes with ⟨canonical, record, row, found, active, cursor, up, down, bounded, inRange,
    refreshable, takes⟩
  let world : World Rest := ⟨store, [], []⟩
  have calm : world.faults = [] := rfl
  have stored : store.uplinkCursor node = row.clientToServerAckSequence :=
    ExchangeTables.uplinkCursor_of_row cursor
  rw [stored] at behind
  have gates : clientExchange host node envelopes clientAck now world =
      settleRequest host node envelopes record
        ⟨row.clientToServerAckSequence, row.serverToClientAckSequence⟩ clientAck now world := by
    unfold clientExchange
    rw [bind_ok (refuse_passes world (by simp [canonical])),
      bind_ok (nodeRecord_calm calm canonical found),
      bind_ok (refuse_passes world active),
      bind_ok (cursors_calm calm canonical cursor up down),
      bind_ok (highWater_calm calm canonical bounded),
      bind_ok (refuse_passes world (Nat.not_lt.mpr inRange))]
  have stands := settleRequest_takes
    ⟨row.clientToServerAckSequence, row.serverToClientAckSequence⟩ calm canonical found active
    refreshable up behind takes clientAck
  rw [← gates] at stands
  obtain ⟨_, located, different⟩ := stands
  rw [identityAt, identityAt, located, found]
  intro same
  exact different (NodeIdentity.mk.inj (Option.some.inj same)).1

end Request

/-- A replayed batch is inert for the identity of its node, whichever storage step
fails, exactly when it does not take the node over. -/
theorem replay_inert_iff (host : ExchangeHost Body Rest) (store : ClientStore Rest)
    (node : String) (envelopes : List (ClientToServerEnvelope Body)) (clientAck : Nat)
    (now : String) (replayed : ∀ frame ∈ envelopes, frame.sequence ≤ store.uplinkCursor node) :
    (∀ faults, identityAt (clientExchange host node envelopes clientAck now
        ⟨store, faults, []⟩).1.store.toEffectTables node = identityAt store.toEffectTables node) ↔
      ¬ TakesOver host store node envelopes clientAck now := by
  constructor
  · intro unchanged takes
    exact clientExchange_takes replayed takes (unchanged [])
  · intro inert faults
    have kept : (clientExchange host node envelopes clientAck now
        ⟨store, faults, []⟩).1.store.nodes = store.nodes :=
      Triple.reached (judged_clientExchange_inert replayed inert) rfl
    rw [identityAt, EffectTables.nodeRow, kept]
    rfl

namespace Superseded

def node : String := "cnd_01HZY3K8QW4N6V7B9C0D1E2F3G"

def host : ExchangeHost Unit Unit where
  payloadDigest := fun message =>
    (message.helloPayload.map fun payload => "digest of " ++ payload.clientVersion).getD "digest"
  applyEffectWithStatus := fun store _ _ _ => (store.toEffectTables, .ok ())
  rejectionReceipt := fun _ _ _ _ => ("", "")
  isJson := fun _ => true
  maxFramesPerExchange := 32

def enrolledNode : ClientNodeRecord where
  clientNodeId := node
  publicClientId := "123456789"
  displayName := "Device"
  platform := "x86_64-unknown-linux-gnu"
  architecture := "x86_64"
  clientVersion := "1.0.0"
  currentInstanceId := none
  presenceState := .pendingEnrollment
  acceptingConnections := true
  lockState := .unlocked
  maxConcurrentWorkerSessions := 0
  reportedRunningWorkerSessions := 0
  lastHeartbeatAt := none
  createdAt := "2026-01-01T00:00:00.000Z"
  revision := 1

def enrolled : ClientStore Unit where
  cursors := ⟨[⟨node, 0, 0⟩], List.pairwise_singleton _ _⟩
  frames := .empty
  commands := .empty
  nodes := ⟨[enrolledNode], List.pairwise_singleton _ _⟩
  downlink := .empty
  rest := ()

def hello (messageId instanceId clientVersion : String) (sequence slots : Nat) :
    ClientToServerEnvelope Unit :=
  ⟨messageId, instanceId, sequence, "2026-01-01T00:00:01.000Z", .hello ⟨clientVersion, slots⟩ ()⟩

def first : ClientToServerEnvelope Unit :=
  hello "msg-1" "cix_01HZY3K8QW4N6V7B9C0D1E2F3A" "1.0.0" 1 2

def second : ClientToServerEnvelope Unit :=
  hello "msg-2" "cix_01HZY3K8QW4N6V7B9C0D1E2F3B" "1.1.0" 2 4

def request (envelopes : List (ClientToServerEnvelope Unit)) : ExchangeEvent Unit Unit :=
  .request ⟨host, node, envelopes, 0, "2026-01-01T00:00:02.000Z", []⟩

def settled : World Unit :=
  Runs.after exchangeStep (World.of enrolled) [request [first], request [second]]

end Superseded

theorem replay_inert_iff_at_superseded : (∀ frame ∈ [Superseded.first],
      frame.sequence ≤ Superseded.settled.store.uplinkCursor Superseded.node) ∧
    ((∀ faults, identityAt (clientExchange Superseded.host Superseded.node [Superseded.first] 0
        "2026-01-01T00:00:02.000Z" ⟨Superseded.settled.store, faults, []⟩).1.store.toEffectTables
          Superseded.node = identityAt Superseded.settled.store.toEffectTables Superseded.node) ↔
      ¬ TakesOver Superseded.host Superseded.settled.store Superseded.node [Superseded.first] 0
        "2026-01-01T00:00:02.000Z") :=
  ⟨by decide +kernel, replay_inert_iff _ _ _ _ _ _ (by decide +kernel)⟩

/-- The first instance says Hello, a restarted one supersedes it, and a late copy of
the first Hello, below the acknowledged cursor, makes the first one current again. -/
theorem replayed_hello_restores_superseded :
    Superseded.first.sequence ≤ Superseded.settled.store.uplinkCursor Superseded.node ∧
    identityAt Superseded.settled.store.toEffectTables Superseded.node =
      some ⟨some "cix_01HZY3K8QW4N6V7B9C0D1E2F3B", "1.1.0", 4⟩ ∧
    identityAt (exchangeStep Superseded.settled
        (Superseded.request [Superseded.first])).store.toEffectTables Superseded.node =
      some ⟨some "cix_01HZY3K8QW4N6V7B9C0D1E2F3A", "1.0.0", 2⟩ := by
  decide +kernel

end WinWinCode.Server
