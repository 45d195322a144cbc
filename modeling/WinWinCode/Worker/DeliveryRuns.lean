import WinWinCode.Worker.OutboxOrdering

/-!
Runs of the worker: frames are retained at the end of the outbox, and flushes send
them. In every run of one execution one of the frames to be tried again is always
eligible. If the streams carry their leases in order, the port also takes a frame only
after the earlier frames that it waits for.
-/

namespace WinWinCode.Worker

open ExecutionPort WorkerMain List
open Storage (ExecutionLeaseStamp SessionIdentity)

/-- What the second pass still has to visit. -/
def Upcoming (cursor : Option String) (rows : List OutboxRow)
    (rest : List DurableExecutionDelivery) : Prop :=
  rest <+: ((rowsAfter cursor rows).filter OutboxRow.pending).map
    OutboxRow.toDurableExecutionDelivery

theorem recordSent_of_absent {id : String} {rows : List OutboxRow}
    (absent : ∀ row ∈ rows, row.deliveryId ≠ id) : recordSent id rows = rows := by
  conv_rhs => rw [← map_id rows]
  apply map_congr_left
  intro row member
  exact if_neg (absent row member)

theorem deliveries_after (worker : WorkerMain) (cursor : Option String) :
    Cursors.after idOf cursor worker.deliveries =
      (rowsAfter cursor worker.outbox).map OutboxRow.toDurableExecutionDelivery :=
  Cursors.after_map (fun row : OutboxRow => row.deliveryId) (fun _ => rfl) cursor worker.outbox

variable {messages : Set ExecutionPortMessage} {first : ExecutionLeaseStamp}

/-- The next frame of the second pass, and the pass after it, whether or not it is sent. -/
theorem Upcoming.next {worker : WorkerMain} (sound : Sound messages worker)
    {delivery : DurableExecutionDelivery} {rest : List DurableExecutionDelivery}
    (upcoming : Upcoming worker.outboxFlushCursor worker.outbox (delivery :: rest)) :
    worker.Ahead delivery ∧ Upcoming (some delivery.deliveryId) worker.outbox rest ∧
      Upcoming (some delivery.deliveryId) (recordSent delivery.deliveryId worker.outbox) rest := by
  obtain ⟨_, listed, left⟩ := cons_prefix_iff.mp upcoming
  obtain ⟨row, _, pending, rfl, rfl⟩ := map_eq_cons_iff.mp listed
  have distinct : (worker.outbox.map fun row : OutboxRow => row.deliveryId).Nodup := by
    have ids := sound.distinct
    rwa [deliveries, map_map] at ids
  obtain ⟨read, skipped, before, whole, unwanted, later⟩ :=
    Cursors.after_next (fun row : OutboxRow => row.deliveryId) distinct pending
  have follows : Upcoming (some row.deliveryId) worker.outbox rest := by
    unfold Upcoming rowsAfter
    rw [later]
    exact left
  -- the frame does not stand again behind itself, so recording it changes nothing there
  have absent : ∀ other ∈ rowsAfter (some row.deliveryId) worker.outbox,
      other.deliveryId ≠ row.deliveryId := by
    intro other member same
    rw [whole, map_append] at distinct
    apply (nodup_append.mp distinct).2.2 row.deliveryId (by simp) other.deliveryId
    · exact mem_map_of_mem member
    · exact same.symm
  refine ⟨⟨read.map OutboxRow.toDurableExecutionDelivery,
    skipped.map OutboxRow.toDurableExecutionDelivery, ?_, ?_, ?_⟩, follows, ?_⟩
  · rw [deliveries_after]
    exact (congrArg (List.map OutboxRow.toDurableExecutionDelivery) before).trans map_append
  · rw [deliveries_after]
    refine (congrArg (List.map OutboxRow.toDurableExecutionDelivery) whole).trans ?_
    simp only [map_append, map_cons, map_nil, rowsAfter]
  · intro _ member
    obtain ⟨passed, passed_in, rfl⟩ := mem_map.mp member
    apply sound.recorded passed
    · rw [whole]
      simp [passed_in]
    · have idle := unwanted passed passed_in
      simp only [OutboxRow.pending, Bool.or_eq_false_iff, Bool.not_eq_false'] at idle
      exact idle.1
  · have kept : rowsAfter (some row.deliveryId) (recordSent row.deliveryId worker.outbox) =
        rowsAfter (some row.deliveryId) worker.outbox := by
      rw [← recordSent_of_absent absent]
      apply Cursors.after_map
      intro _
      split <;> rfl
    unfold Upcoming
    rw [kept]
    exact follows

structure Advancing (messages : Set ExecutionPortMessage) (scan : Scan)
    (rest : List DurableExecutionDelivery) : Prop extends Scan.Valid messages scan where
  upcoming : Upcoming scan.worker.outboxFlushCursor scan.worker.outbox rest
  retried : ∀ id ∈ scan.worker.outboxRetryIds, id ∈ scan.visited
  settled : ∀ delivery ∈ scan.worker.deliveries, delivery.deliveryId ∈ scan.visited →
    delivery.deliveryId ∈ scan.worker.sentDeliveryIds ∨ scan.worker.Held delivery

section

variable {session : SessionIdentity} {around : Surroundings} {scan : Scan}
  {delivery : DurableExecutionDelivery} {rest : List DurableExecutionDelivery}

theorem Advancing.passOver (advancing : Advancing messages scan (delivery :: rest))
    (done : delivery.deliveryId ∈ scan.worker.sentDeliveryIds ∨ scan.worker.Held delivery)
    (visited : List String)
    (grows : ∀ id, id ∈ visited ↔ id = delivery.deliveryId ∨ id ∈ scan.visited) : Advancing messages
      { scan with worker := scan.worker.passTo delivery, visited := visited } rest := by
  obtain ⟨ahead, follows, _⟩ := advancing.upcoming.next advancing.sound
  refine ⟨⟨advancing.sound.passTo ahead done, advancing.blocked_iff⟩, follows, ?_, ?_⟩
  · exact fun id member => (grows id).mpr (.inr (advancing.retried id member))
  · intro other other_in seen
    rcases (grows _).mp seen with same | old
    · obtain rfl : other = delivery := advancing.sound.unique other_in ahead.mem same
      exact done
    · exact advancing.settled other other_in old

section
variable (execution : OneExecution messages first session)
include execution

section
variable (advancing : Advancing messages scan (delivery :: rest))
  (fresh : delivery.deliveryId ∉ scan.visited)
  (unsent : delivery.deliveryId ∉ scan.worker.sentDeliveryIds) (clear : scan.holds delivery = false)
include advancing fresh unsent clear

theorem Advancing.defer :
    Advancing messages ((scan.reach false delivery).unavailable delivery) rest := by
  have idle : delivery.deliveryId ∉ scan.worker.outboxRetryIds :=
    fun again => fresh (advancing.retried _ again)
  have shape : (scan.reach false delivery).unavailable delivery = { scan with
        worker := (scan.worker.tryAgain delivery.deliveryId).passTo delivery
        blocked := scan.blocked ++ [delivery]
        visited := delivery.deliveryId :: scan.visited
        deferred := some .executionPort } := by
    simp only [Scan.unavailable, Scan.reach, Scan.moveCursor, Scan.setCursor, Bool.false_eq_true,
      if_false]
    rw [if_neg idle]
    rfl
  obtain ⟨ahead, follows, _⟩ := advancing.upcoming.next advancing.sound
  have free := advancing.free_of_clear clear
  have ready := advancing.sound.ready_of_free execution ahead idle free
  have sound := advancing.sound.tryAgain ahead.mem unsent idle free ready
  have again : delivery.deliveryId ∈ (scan.worker.tryAgain delivery.deliveryId).outboxRetryIds := by
    simp [tryAgain]
  rw [shape]
  refine ⟨⟨sound.passTo ahead (.inr (.inl again)), ?_⟩, follows, ?_, ?_⟩
  · intro other
    rw [mem_append, mem_singleton, advancing.blocked_iff]
    change _ ↔ other ∈ scan.worker.deliveries ∧
      other.deliveryId ∈ scan.worker.outboxRetryIds ++ [delivery.deliveryId]
    rw [mem_append, mem_singleton]
    constructor
    · rintro (⟨present, old⟩ | rfl)
      · exact ⟨present, .inl old⟩
      · exact ⟨ahead.mem, .inr rfl⟩
    · rintro ⟨present, old | same⟩
      · exact .inl ⟨present, old⟩
      · exact .inr (advancing.sound.unique present ahead.mem same)
  · intro id member
    rcases mem_append.mp member with old | new
    · exact mem_cons_of_mem _ (advancing.retried id old)
    · exact mem_singleton.mp new ▸ mem_cons_self
  · intro other other_in seen
    rcases mem_cons.mp seen with same | old
    · obtain rfl : other = delivery := advancing.sound.unique other_in ahead.mem same
      exact .inr (.inl again)
    · exact (advancing.settled other other_in old).imp_right fun held => held.tryAgain _

theorem Advancing.send (bytes : Nat) :
    Advancing messages ((scan.reach false delivery).sent delivery bytes) rest := by
  have idle : delivery.deliveryId ∉ scan.worker.outboxRetryIds :=
    fun again => fresh (advancing.retried _ again)
  have shape : (scan.reach false delivery).sent delivery bytes = { scan with
        worker := (scan.worker.accept delivery.deliveryId).passTo delivery
        visited := delivery.deliveryId :: scan.visited
        sentBytes := scan.sentBytes + bytes } := by
    simp only [Scan.sent, Scan.reach, Scan.moveCursor, Scan.setCursor, Bool.false_eq_true, if_false]
    rw [if_neg idle]
    rfl
  obtain ⟨ahead, _, follows⟩ := advancing.upcoming.next advancing.sound
  have ready := advancing.sound.ready_of_free execution ahead idle
    (advancing.free_of_clear clear)
  have sound := advancing.sound.accept ahead.mem unsent idle ready
  have same : ((scan.worker.accept delivery.deliveryId).passTo delivery).deliveries =
      scan.worker.deliveries := accept_deliveries _ _
  have ahead' : (scan.worker.accept delivery.deliveryId).Ahead delivery := by
    obtain ⟨read, skipped, before, whole, sent⟩ := ahead
    refine ⟨read, skipped, ?_, ?_, fun other member => mem_cons_of_mem _ (sent other member)⟩
    · rw [accept_deliveries]
      exact before
    · rw [accept_deliveries]
      exact whole
  rw [shape]
  refine ⟨⟨sound.passTo ahead' (.inl mem_cons_self), ?_⟩, follows, ?_, ?_⟩
  · intro other
    rw [same]
    exact advancing.blocked_iff other
  · exact fun id member => mem_cons_of_mem _ (advancing.retried id member)
  · intro other other_in seen
    rw [same] at other_in
    rcases mem_cons.mp seen with equal | old
    · exact .inl (equal ▸ mem_cons_self)
    · exact (advancing.settled other other_in old).imp (mem_cons_of_mem _)
        fun held => held.accept _

end

theorem Advancing.visit (plain : around.Plain)
    (advancing : Advancing messages scan (delivery :: rest)) :
    Sound messages (scan.visit around false delivery).1.worker ∧
      ((scan.visit around false delivery).2 = .next →
        Advancing messages (scan.visit around false delivery).1 rest) := by
  obtain ⟨ahead, _, _⟩ := advancing.upcoming.next advancing.sound
  have visited := visit_cases plain false scan delivery
  generalize scan.visit around false delivery = result at visited
  cases visited with
  | interrupted | full => exact ⟨advancing.sound, nofun⟩
  | again seen =>
    have passed := advancing.passOver (advancing.settled delivery ahead.mem seen) scan.visited
      fun id => ⟨.inr, fun either => either.elim (· ▸ seen) fun old => old⟩
    exact ⟨passed.sound, fun _ => passed⟩
  | passedOver free settled =>
    have passed := advancing.passOver (settled.imp_right advancing.held_of_holds)
      (delivery.deliveryId :: scan.visited) fun id => mem_cons
    exact ⟨passed.sound, fun _ => passed⟩
  | unavailable free unsent clear =>
    have deferred := advancing.defer execution free unsent clear
    exact ⟨deferred.sound, fun _ => deferred⟩
  | sent bytes _ free unsent clear =>
    have sent := advancing.send execution free unsent clear bytes
    exact ⟨sent.sound, fun _ => sent⟩

theorem Advancing.pass (plain : around.Plain) (advancing : Advancing messages scan rest) :
    Sound messages (scan.pass around false rest).1.worker := by
  induction rest generalizing scan with
  | nil => exact advancing.sound
  | cons delivery _ ih =>
    obtain ⟨sound, goes⟩ := advancing.visit execution plain
    simp only [Scan.pass]
    generalize scan.visit around false delivery = result at sound goes
    obtain ⟨_, flow⟩ := result
    cases flow with
    | next => exact ih (goes rfl)
    | leave | fail _ => exact sound

/-- The second pass begins once every frame to be tried again was seen. -/
theorem Retrying.advance (plain : around.Plain) (retrying : Retrying messages scan []) :
    Sound messages (scan.advance around).1.worker := by
  simp only [Scan.advance]
  split
  · rename_i empty
    rw [isEmpty_iff.mp empty]
    exact retrying.sound.restart
  · apply Advancing.pass execution plain
    refine ⟨retrying.toValid, ?_, ?_, ?_⟩
    · exact (List.take_prefix _ _).map _
    · exact fun id member => (retrying.covers id member).resolve_right nofun
    · exact fun other _ seen => (retrying.seen _ seen).imp_right .inl

end

variable {worker : WorkerMain}

theorem pendingDelivery_of_retry (sound : Sound messages worker)
    {id : String} (again : id ∈ worker.outboxRetryIds) :
    ∃ delivery ∈ worker.deliveries, delivery.deliveryId = id ∧
      pendingDelivery worker.outbox id = some delivery := by
  obtain ⟨_, member, same⟩ := mem_map.mp (sound.retry_rows id again)
  obtain ⟨row, row_in, rfl⟩ := mem_map.mp member
  have unsent : row.sentAttempt = false := by
    rw [Bool.eq_false_iff]
    intro sent
    exact sound.retry_unsent id again (same ▸ sound.recorded row row_in sent)
  have wanted : (row.deliveryId == id && row.pending) := by
    have named : row.deliveryId = id := same
    simp [named, OutboxRow.pending, unsent]
  have present : (worker.outbox.find? fun row => row.deliveryId == id && row.pending).isSome =
      true := find?_isSome.mpr ⟨row, row_in, wanted⟩
  obtain ⟨found, located⟩ := Option.isSome_iff_exists.mp present
  have accepted := find?_some located
  refine ⟨found.toDurableExecutionDelivery, mem_map_of_mem (mem_of_find?_eq_some located), ?_, ?_⟩
  · simp only [Bool.and_eq_true, beq_iff_eq] at accepted
    exact accepted.1
  · rw [pendingDelivery, located]
    rfl

theorem pendingOutboxRetries_eq (sound : Sound messages worker)
    {ids : List String} (again : ∀ id ∈ ids, id ∈ worker.outboxRetryIds) :
    ∃ retries, pendingOutboxRetries worker ids = (worker, retries) ∧
      retries.map idOf = ids ∧ ∀ delivery ∈ retries, delivery ∈ worker.deliveries := by
  induction ids with
  | nil => exact ⟨[], rfl, rfl, forall_mem_nil _⟩
  | cons id _ ih =>
    obtain ⟨delivery, member, same, found⟩ :=
      pendingDelivery_of_retry sound (again id mem_cons_self)
    obtain ⟨retries, listed, names, present⟩ :=
      ih fun other member => again other (mem_cons_of_mem _ member)
    refine ⟨delivery :: retries, ?_, ?_, ?_⟩
    · simp only [pendingOutboxRetries, found, listed]
    · rw [map_cons, names, idOf, same]
    · exact forall_mem_cons.mpr ⟨member, present⟩

theorem flush_sound (execution : OneExecution messages first session) (plain : around.Plain)
    (sound : Sound messages worker) :
    Sound messages (flushDurableExecutionDeliveries around worker).1 := by
  have listed {id : String} : id ∈ around.retryOrder worker.outboxRetryIds ↔
      id ∈ worker.outboxRetryIds := (around.retryOrder_perm _).mem_iff
  obtain ⟨retries, found, names, present⟩ :=
    pendingOutboxRetries_eq sound fun id member => listed.mp member
  have named {delivery : DurableExecutionDelivery} (member : delivery ∈ retries) :
      delivery.deliveryId ∈ worker.outboxRetryIds := by
    rw [← listed, ← names]
    exact mem_map_of_mem member
  have retrying : Retrying messages { worker := worker, blocked := retries } retries := by
    refine ⟨⟨sound, ?_⟩, ?_, nofun, ?_⟩
    · intro delivery
      refine ⟨fun member => ⟨present delivery member, named member⟩, ?_⟩
      rintro ⟨delivery_in, again⟩
      rw [← listed, ← names] at again
      obtain ⟨other, other_in, same⟩ := mem_map.mp again
      exact sound.unique (present other other_in) delivery_in same ▸ other_in
    · exact fun delivery member => ⟨present delivery member, .inl (named member)⟩
    · intro _ member
      rw [names]
      exact .inr (listed.mpr member)
  have scanned : Sound messages (flushScan around worker).1.worker := by
    obtain ⟨kept, goes⟩ := retrying.pass plain
    simp only [flushScan, found]
    generalize Scan.pass around true _ retries = result at kept goes
    obtain ⟨scan, flow⟩ := result
    cases flow with
    | next => exact (goes rfl).advance execution plain
    | leave | fail _ => exact kept
  unfold flushDurableExecutionDeliveries
  generalize flushScan around worker = result at scanned
  obtain ⟨scan, flow⟩ := result
  cases flow with
  | fail _ => exact scanned
  | next | leave => cases deferred : scan.deferred <;> simpa [deferred] using scanned

end

variable (worker : WorkerMain) (delivery : DurableExecutionDelivery)

def WorkerMain.append (acknowledgementRequired : Bool) : WorkerMain :=
  { worker with
    outbox := worker.outbox ++ [{ delivery with acknowledgementRequired, sentAttempt := false }] }

def WorkerMain.retain (acknowledgementRequired : Bool) : WorkerMain :=
  if delivery.deliveryId ∈ worker.deliveries.map idOf then worker
  else worker.append delivery acknowledgementRequired

inductive WorkerStep where
  | retain (delivery : DurableExecutionDelivery) (acknowledgementRequired : Bool)
  | flush (around : Surroundings)

def WorkerMain.perform : WorkerStep → WorkerMain
  | .retain delivery acknowledgementRequired => worker.retain delivery acknowledgementRequired
  | .flush around => (flushDurableExecutionDeliveries around worker).1

theorem sublist_pair_concat {Item : Type} {early late last : Item} {items : List Item}
    (pair : [early, late].Sublist (items ++ [last])) :
    late = last ∨ [early, late].Sublist items := by
  obtain ⟨_, _, split, front_in, back_in⟩ := sublist_append_iff.mp pair
  rcases sublist_singleton.mp back_in with rfl | rfl
  · right
    rw [split, append_nil]
    exact front_in
  · left
    have ends := congrArg List.getLast? split
    simpa using ends

theorem append_deliveries (worker : WorkerMain) (delivery : DurableExecutionDelivery)
    (acknowledgementRequired : Bool) : (worker.append delivery acknowledgementRequired).deliveries =
      worker.deliveries ++ [delivery] := by
  simp [append, deliveries]

section

variable {worker : WorkerMain} {delivery other : DurableExecutionDelivery}
  {acknowledgementRequired : Bool}

theorem mem_append_deliveries
    (member : other ∈ (worker.append delivery acknowledgementRequired).deliveries) :
    other ∈ worker.deliveries ∨ other = delivery := by
  rw [append_deliveries] at member
  simpa using member

theorem old_of_append (fresh : delivery.deliveryId ∉ worker.deliveries.map idOf)
    (member : other ∈ (worker.append delivery acknowledgementRequired).deliveries)
    (known : other.deliveryId ∈ worker.deliveries.map idOf) : other ∈ worker.deliveries := by
  rcases mem_append_deliveries member with old | rfl
  · exact old
  · exact absurd known fresh

theorem earlier_of_append (fresh : delivery.deliveryId ∉ worker.deliveries.map idOf)
    {early late : DurableExecutionDelivery}
    (earlier : (worker.append delivery acknowledgementRequired).Earlier early late)
    (known : late.deliveryId ∈ worker.deliveries.map idOf) : worker.Earlier early late := by
  rw [Earlier, append_deliveries] at earlier
  rcases sublist_pair_concat earlier with rfl | old
  · exact absurd known fresh
  · exact old

theorem append_sound (sound : Sound messages worker) (known : delivery.message ∈ messages)
    (fresh : delivery.deliveryId ∉ worker.deliveries.map idOf) :
    Sound messages (worker.append delivery acknowledgementRequired) where
  __ := sound
  known other member := by
    rcases mem_append_deliveries member with old | rfl
    · exact sound.known other old
    · exact known
  distinct := by
    rw [append_deliveries, map_append, map_singleton]
    apply nodup_append.mpr
    refine ⟨sound.distinct, nodup_singleton _, ?_⟩
    intro id old other new same
    rw [same, mem_singleton.mp new] at old
    exact fresh old
  recorded row member sent := by
    rcases mem_append.mp member with old | new
    · exact sound.recorded row old sent
    · rw [mem_singleton.mp new] at sent
      cases sent
  sent_rows id sent := by
    rw [append_deliveries, map_append]
    exact mem_append_left _ (sound.sent_rows id sent)
  cursor_row id named := by
    rw [append_deliveries, map_append]
    exact mem_append_left _ (sound.cursor_row id named)
  retry_rows id again := by
    rw [append_deliveries, map_append]
    exact mem_append_left _ (sound.retry_rows id again)
  retry_order := by
    apply sound.retry_order.imp_of_mem
    intro _ _ first_in next_in apart prior prior_in later later_in rfl rfl
    exact apart prior (old_of_append fresh prior_in (sound.retry_rows _ first_in))
      later (old_of_append fresh later_in (sound.retry_rows _ next_in)) rfl rfl
  passed read split other front unsent := by
    rw [append_deliveries] at split
    -- The new row is still unread, so what the cursor has passed stays the same.
    have reads := Cursors.after_append idOf sound.cursor_row [delivery]
    have split : worker.deliveries ++ [delivery] =
        (read ++ Cursors.after idOf worker.outboxFlushCursor worker.deliveries) ++ [delivery] := by
      rw [append_assoc, ← reads]
      exact split
    rcases sound.passed read (append_cancel_right split) other front unsent with
      again | ⟨prior, prior_in, again, precedes⟩
    · exact .inl again
    · refine .inr ⟨prior, ?_, again, precedes⟩
      rw [append_deliveries]
      exact mem_append_left _ prior_in
  ready inOrder early late earlier precedes again :=
    sound.ready inOrder early late (earlier_of_append fresh earlier (sound.retry_rows _ again))
      precedes again
  ordered inOrder early late earlier precedes before after split := by
    have taken : late.deliveryId ∈ worker.accepted := by
      rw [show worker.accepted = before ++ late.deliveryId :: after from split]
      simp
    have known := sound.sent_rows _ ((sound.accepted_iff _).mp taken)
    exact sound.ordered inOrder early late (earlier_of_append fresh earlier known) precedes before
      after split

end

def WorkerStep.Within (messages : Set ExecutionPortMessage) : WorkerStep → Prop
  | .retain delivery _ => delivery.message ∈ messages
  | .flush around => around.Plain

variable {session : SessionIdentity}

theorem perform_sound (execution : OneExecution messages first session)
    {worker : WorkerMain} (sound : Sound messages worker) {step : WorkerStep}
    (within : step.Within messages) : Sound messages (worker.perform step) := by
  cases step with
  | retain _ _ =>
    simp only [perform, retain]
    split
    · exact sound
    · rename_i fresh
      exact append_sound sound within fresh
  | flush _ => exact flush_sound execution within sound

/-- The earlier frames that the outcome of a job waits for. -/
def OutcomeAwaits (outcome : JobOutcomeMessage) : ExecutionPortMessage → Prop
  | .runtimeEvent event =>
    event.event.sequence ≤ outcome.lastEventSequence ∧
      event.lease.expiresAt ≤ outcome.lease.expiresAt
  | .modelChunk chunk => chunk.lease.expiresAt ≤ outcome.lease.expiresAt
  | .artifactOpen opening =>
    opening.artifactId ∈ outcome.artifacts ∧ opening.lease.expiresAt ≤ outcome.lease.expiresAt
  | .artifactChunk chunk =>
    chunk.artifactId ∈ outcome.artifacts ∧ chunk.lease.expiresAt ≤ outcome.lease.expiresAt
  | .jobDispatchResult lease => lease.expiresAt ≤ outcome.lease.expiresAt
  | .sessionBinding lease => lease.expiresAt ≤ outcome.lease.expiresAt
  | _ => False

theorem precedes_of_awaits
    (execution : OneExecution messages first session) {outcome : JobOutcomeMessage}
    {message : ExecutionPortMessage} (message_in : message ∈ messages)
    (outcome_in : .jobOutcome outcome ∈ messages) (awaits : OutcomeAwaits outcome message) :
    Precedes message (.jobOutcome outcome) := by
  have renewed {lease : ExecutionLeaseStamp} (stamped : dispatchedLease message = some lease)
      (order : lease.expiresAt ≤ outcome.lease.expiresAt) :
      retainedLeaseMatchesCurrent lease outcome.lease = true :=
    execution.matches_of_expiry message_in outcome_in stamped rfl order
  have same {identity : SessionIdentity} (named : messageSession message = some identity) :
      identity = outcome.sessionIdentity :=
    execution.same_session message_in outcome_in named rfl
  cases message with
  | runtimeEvent _ => exact .eventOutcome (renewed rfl awaits.2) (same rfl) awaits.1
  | modelChunk _ => exact .modelOutcome (renewed rfl awaits) (same rfl)
  | artifactOpen _ => exact .openOutcome (renewed rfl awaits.2) (same rfl) awaits.1
  | artifactChunk _ => exact .chunkOutcome (renewed rfl awaits.2) (same rfl) awaits.1
  | jobDispatchResult _ => exact .dispatchResult rfl (renewed rfl awaits)
  | sessionBinding _ => exact .sessionBinding rfl (renewed rfl awaits)
  | jobOutcome _ | modelOpen _ | approvalRequest _ | inputRequest _ | actionEnforcementRequest _
  | jobCancelAck | modelAck | other => exact awaits.elim

/-- The frame waits for no other frame that is to be tried again. -/
def WorkerMain.Eligible : Prop :=
  ∀ prior ∈ worker.deliveries, prior.deliveryId ∈ worker.outboxRetryIds →
    prior.deliveryId ≠ delivery.deliveryId →
    executionDeliveryDependsOn delivery.message prior.message = false

/-- The frame that was last found unsendable waits for none of the others. -/
theorem exists_eligible {worker : WorkerMain} (sound : Sound messages worker)
    (some_retry : worker.outboxRetryIds ≠ []) :
    ∃ delivery ∈ worker.deliveries, delivery.deliveryId ∈ worker.outboxRetryIds ∧
      worker.Eligible delivery := by
  rcases eq_nil_or_concat worker.outboxRetryIds with empty | ⟨_, last, listed⟩
  · exact absurd empty some_retry
  rw [concat_eq_append] at listed
  have order := sound.retry_order
  have again : last ∈ worker.outboxRetryIds := by simp [listed]
  obtain ⟨delivery, delivery_in, rfl⟩ := mem_map.mp (sound.retry_rows last again)
  refine ⟨delivery, delivery_in, again, ?_⟩
  intro prior prior_in waiting other
  rw [listed, mem_append, mem_singleton] at waiting
  rw [listed, pairwise_append] at order
  have apart := order.2.2 prior.deliveryId (waiting.resolve_right other) delivery.deliveryId
    (mem_singleton.mpr rfl) prior prior_in delivery delivery_in rfl rfl
  rw [Bool.eq_false_iff]
  exact fun depends => apart (dependsOn_iff.mp depends)

theorem either_of_pairwise {Item : Type} {Rel : Item → Item → Prop} {items : List Item}
    (pairwise : items.Pairwise Rel) {left right : Item} (left_in : left ∈ items)
    (right_in : right ∈ items) (apart : left ≠ right) : Rel left right ∨ Rel right left := by
  have either : Std.Symm fun left right => Rel left right ∨ Rel right left := ⟨fun _ _ => Or.symm⟩
  exact (pairwise.imp (S := fun left right => Rel left right ∨ Rel right left) Or.inl).forall
    left_in right_in apart

/-- Of two frames to be tried again, the one that was found unsendable later does not
wait for the other. -/
theorem not_mutual {worker : WorkerMain} (sound : Sound messages worker)
    {left right : DurableExecutionDelivery} (left_in : left ∈ worker.deliveries)
    (right_in : right ∈ worker.deliveries) (left_again : left.deliveryId ∈ worker.outboxRetryIds)
    (right_again : right.deliveryId ∈ worker.outboxRetryIds)
    (apart : left.deliveryId ≠ right.deliveryId) :
    ¬ (executionDeliveryDependsOn left.message right.message ∧
      executionDeliveryDependsOn right.message left.message) := by
  rintro ⟨left_waits, right_waits⟩
  rw [dependsOn_iff] at left_waits right_waits
  rcases either_of_pairwise sound.retry_order left_again right_again apart with order | order
  · exact order left left_in right right_in rfl rfl right_waits
  · exact order right right_in left left_in rfl rfl left_waits

/-- In every run of one execution no two frames to be tried again wait for each other, and
one is eligible. When the streams carry their leases in order, the port takes an event after
the earlier events of its stream, and an outcome after all that it waits for. -/
theorem deliveries_in_order (messages : Set ExecutionPortMessage) (first : ExecutionLeaseStamp)
    (session : SessionIdentity) (execution : OneExecution messages first session)
    (steps : List WorkerStep) (within : ∀ step ∈ steps, step.Within messages) :
    let worker := Runs.after perform start steps
    (LeasesInStreamOrder messages →
      (∀ early late, worker.Earlier early late →
        ∀ event next, early.message = .runtimeEvent event → late.message = .runtimeEvent next →
          runtimeEventStreamKey event = runtimeEventStreamKey next →
          event.event.sequence < next.event.sequence → worker.SentBefore early late) ∧
      (∀ early late, worker.Earlier early late →
        ∀ outcome, late.message = .jobOutcome outcome → OutcomeAwaits outcome early.message →
          worker.SentBefore early late)) ∧
    (∀ left ∈ worker.deliveries, ∀ right ∈ worker.deliveries,
      left.deliveryId ∈ worker.outboxRetryIds → right.deliveryId ∈ worker.outboxRetryIds →
      left.deliveryId ≠ right.deliveryId →
      ¬ (executionDeliveryDependsOn left.message right.message = true ∧
        executionDeliveryDependsOn right.message left.message = true)) ∧
    (worker.outboxRetryIds ≠ [] →
      ∃ delivery ∈ worker.deliveries, delivery.deliveryId ∈ worker.outboxRetryIds ∧
        worker.Eligible delivery) := by
  intro worker
  have keeps (worker : WorkerMain) (step : WorkerStep) (allowed : step.Within messages)
      (sound : Sound messages worker) : Sound messages (worker.perform step) :=
    perform_sound execution sound allowed
  have sound : Sound messages worker :=
    Runs.after_invariant_of perform (WorkerStep.Within messages) keeps
      (start_sound messages) steps within
  refine ⟨fun inOrder => ⟨?_, ?_⟩, ?_, exists_eligible sound⟩
  · intro early late earlier event _ early_eq late_eq stream order
    apply sound.ordered inOrder early late earlier
    rw [early_eq, late_eq]
    exact .event stream order
  · intro early late earlier _ late_eq awaits
    apply sound.ordered inOrder early late earlier
    rw [late_eq]
    exact precedes_of_awaits execution (sound.known early earlier.mem.1)
      (late_eq ▸ sound.known late earlier.mem.2) awaits
  · intro _ left_in _ right_in left_again right_again apart
    exact not_mutual sound left_in right_in left_again right_again apart

theorem oneExecution_of_all {frames : List ExecutionPortMessage} (checked : ∀ message ∈ frames,
      (dispatchedLease message).all (retainedLeaseMatchesCurrent first) ∧
        (messageSession message).all (· == session)) :
    OneExecution { message | message ∈ frames } first session where
  renewal message member lease stamped := by
    have renewed := (checked message member).1
    rw [stamped] at renewed
    exact renewed
  sameSession message member identity named := by
    have same := (checked message member).2
    rw [named] at same
    exact eq_of_beq same

def eventUnder (lease : ExecutionLeaseStamp) (sequence : Int) : RuntimeEventMessage where
  codexThreadId := sampleSession.codexThreadId
  event := ⟨.activity, "event", "2026-01-01T00:01:00.000Z", none, sequence, ""⟩
  lease := lease
  messageId := "message"
  sentAt := "2026-01-01T00:01:00.000Z"
  sessionIdentity := sampleSession
  workerSessionId := sampleSession.workerSessionId

def unavailableFor (ids : List String) : Surroundings where
  retryOrder ids := ids
  retryOrder_perm _ := List.Perm.refl _
  interrupted _ _ := false
  durableDeliveryAllowed _ := true
  frameBytes _ := 100
  sendFailure id := if id ∈ ids then some .executionPort else none
  controlsAfter _ := false

theorem unavailableFor_plain (ids : List String) : (unavailableFor ids).Plain where
  allowed _ := rfl
  sends id := by
    by_cases member : id ∈ ids
    · exact .inr (if_pos member)
    · exact .inl (if_neg member)

def jobFrames (early late : ExecutionLeaseStamp) : List DurableExecutionDelivery :=
  [⟨"dispatch", .jobDispatchResult early⟩,
   ⟨"event-1", .runtimeEvent (eventUnder early 1)⟩,
   ⟨"event-2", .runtimeEvent (eventUnder late 2)⟩,
   ⟨"outcome", .jobOutcome ⟨late, sampleSession, 2, []⟩⟩]

def jobRun (early late : ExecutionLeaseStamp) : List WorkerStep :=
  (jobFrames early late).map (.retain · true) ++
    [.flush (unavailableFor ["dispatch"]), .flush (unavailableFor [])]

theorem jobRun_within (early late : ExecutionLeaseStamp) : ∀ step ∈ jobRun early late,
      step.Within { message | message ∈ (jobFrames early late).map (·.message) } := by
  intro _ member
  simp only [jobRun, mem_append, mem_map] at member
  rcases member with ⟨_, listed, rfl⟩ | flush
  · exact mem_map_of_mem listed
  · simp only [mem_cons, not_mem_nil, or_false] at flush
    rcases flush with rfl | rfl <;> exact unavailableFor_plain _

theorem jobFrames_execution {early late : ExecutionLeaseStamp}
    (early_renews : retainedLeaseMatchesCurrent firstLease early)
    (late_renews : retainedLeaseMatchesCurrent firstLease late) :
    OneExecution { message | message ∈ (jobFrames early late).map (·.message) } firstLease
      sampleSession := by
  apply oneExecution_of_all
  simp [jobFrames, dispatchedLease, messageSession, eventUnder, early_renews, late_renews]

theorem jobFrames_inOrder {early late : ExecutionLeaseStamp}
    (order : early.expiresAt ≤ late.expiresAt) :
    LeasesInStreamOrder { message | message ∈ (jobFrames early late).map (·.message) } := by
  intro _ _ first_in next_in _ sequence
  simp only [jobFrames, map_cons, map_nil, Set.mem_ofPred_eq, mem_cons,
    ExecutionPortMessage.runtimeEvent.injEq, reduceCtorEq, not_mem_nil, or_false,
    false_or] at first_in next_in
  rcases first_in with rfl | rfl <;> rcases next_in with rfl | rfl
  · exact le_refl _
  · exact order
  · exact absurd sequence (by simp [eventUnder])
  · exact le_refl _

theorem deliveries_in_order_job :
    let worker := Runs.after perform start (jobRun firstLease renewedLease)
    (∀ early late, worker.Earlier early late →
      ∀ event next, early.message = .runtimeEvent event → late.message = .runtimeEvent next →
        runtimeEventStreamKey event = runtimeEventStreamKey next →
        event.event.sequence < next.event.sequence → worker.SentBefore early late) ∧
    worker.accepted = ["dispatch", "event-1", "event-2", "outcome"] :=
  ⟨((deliveries_in_order _ firstLease sampleSession
      (jobFrames_execution (by decide +kernel) (by decide +kernel))
      (jobRun firstLease renewedLease) (jobRun_within firstLease renewedLease)).1
      (jobFrames_inOrder (by decide +kernel))).1, by decide +kernel⟩

/-- The second event and the outcome carry the lease before its renewal: neither waits
for the dispatch result, and both overtake it and the first event. -/
theorem stale_lease_overtakes : let frames := (jobFrames renewedLease firstLease).map (·.message)
    let worker := Runs.after perform start (jobRun renewedLease firstLease)
    OneExecution { message | message ∈ frames } firstLease sampleSession ∧
      (∀ step ∈ jobRun renewedLease firstLease, step.Within { message | message ∈ frames }) ∧
      worker.deliveries = jobFrames renewedLease firstLease ∧
      runtimeEventStreamKey (eventUnder renewedLease 1) =
        runtimeEventStreamKey (eventUnder firstLease 2) ∧
      worker.accepted = ["event-2", "outcome", "dispatch", "event-1"] :=
  ⟨jobFrames_execution (by decide +kernel) (by decide +kernel),
    jobRun_within renewedLease firstLease, by decide +kernel, rfl, by decide +kernel⟩

end WinWinCode.Worker
