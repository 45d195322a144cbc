import WinWinCode.Foundation.Runs
import WinWinCode.Worker.ExecutionEffects

/-!
The order in which the flush sends the frames of one execution. What the scan has
passed is sent, to be tried again, or waits for a frame to be tried again; as waiting is
transitive, a frame that waits for an unsent earlier frame also waits for a frame that
is tried again, and is passed over.
-/

namespace WinWinCode.Worker

open ExecutionPort List
open Storage (ExecutionLeaseStamp SessionIdentity)

abbrev idOf (delivery : DurableExecutionDelivery) : String := delivery.deliveryId

variable {early late : DurableExecutionDelivery}

namespace WorkerMain

def Earlier (worker : WorkerMain) (early late : DurableExecutionDelivery) : Prop :=
  [early, late].Sublist worker.deliveries

def SentBefore (worker : WorkerMain) (early late : DurableExecutionDelivery) : Prop :=
  ∀ before after, worker.accepted = before ++ late.deliveryId :: after →
    early.deliveryId ∈ before

/-- The frame is to be tried again, or waits for one that is. -/
def Held (worker : WorkerMain) (delivery : DurableExecutionDelivery) : Prop :=
  delivery.deliveryId ∈ worker.outboxRetryIds ∨
    ∃ prior ∈ worker.deliveries, prior.deliveryId ∈ worker.outboxRetryIds ∧
      Precedes prior.message delivery.message

structure Sound (messages : Set ExecutionPortMessage) (worker : WorkerMain) : Prop where
  known : ∀ delivery ∈ worker.deliveries, delivery.message ∈ messages
  distinct : (worker.deliveries.map idOf).Nodup
  recorded : ∀ row ∈ worker.outbox, row.sentAttempt = true →
    row.deliveryId ∈ worker.sentDeliveryIds
  accepted_iff : ∀ id, id ∈ worker.accepted ↔ id ∈ worker.sentDeliveryIds
  sent_rows : ∀ id ∈ worker.sentDeliveryIds, id ∈ worker.deliveries.map idOf
  cursor_row : ∀ id, worker.outboxFlushCursor = some id → id ∈ worker.deliveries.map idOf
  retry_rows : ∀ id ∈ worker.outboxRetryIds, id ∈ worker.deliveries.map idOf
  retry_unsent : ∀ id ∈ worker.outboxRetryIds, id ∉ worker.sentDeliveryIds
  retry_order : worker.outboxRetryIds.Pairwise fun first next =>
    ∀ prior ∈ worker.deliveries, ∀ delivery ∈ worker.deliveries,
      prior.deliveryId = first → delivery.deliveryId = next →
        ¬ Precedes prior.message delivery.message
  passed : ∀ read, worker.deliveries =
      read ++ Cursors.after idOf worker.outboxFlushCursor worker.deliveries →
    ∀ delivery ∈ read, delivery.deliveryId ∉ worker.sentDeliveryIds → worker.Held delivery
  ready : LeasesInStreamOrder messages → ∀ early late, worker.Earlier early late →
    Precedes early.message late.message → late.deliveryId ∈ worker.outboxRetryIds →
      early.deliveryId ∈ worker.sentDeliveryIds
  ordered : LeasesInStreamOrder messages → ∀ early late, worker.Earlier early late →
    Precedes early.message late.message → worker.SentBefore early late

variable {messages : Set ExecutionPortMessage} {worker : WorkerMain}

theorem start_sound (messages : Set ExecutionPortMessage) : Sound messages start where
  known _ member := by cases member
  distinct := nodup_nil
  recorded _ member := by cases member
  accepted_iff _ := Iff.rfl
  sent_rows _ member := by cases member
  cursor_row _ named := by cases named
  retry_rows _ member := by cases member
  retry_unsent _ member := by cases member
  retry_order := List.Pairwise.nil
  passed read split delivery member := by
    obtain rfl : read = [] := by simpa [deliveries, start] using split
    cases member
  ready _ _ _ earlier := by simp [Earlier, deliveries, start] at earlier
  ordered _ _ _ earlier := by simp [Earlier, deliveries, start] at earlier

theorem Earlier.mem (earlier : worker.Earlier early late) :
    early ∈ worker.deliveries ∧ late ∈ worker.deliveries :=
  ⟨earlier.subset (by simp), earlier.subset (by simp)⟩

def restart (worker : WorkerMain) : WorkerMain :=
  { worker with outboxFlushCursor := none }

section
variable (sound : Sound messages worker)
include sound

theorem Sound.unique {left right : DurableExecutionDelivery} (left_in : left ∈ worker.deliveries)
    (right_in : right ∈ worker.deliveries) (same : left.deliveryId = right.deliveryId) :
    left = right :=
  inj_on_of_nodup_map sound.distinct left_in right_in same

theorem Sound.mem_of_earlier {front back : List DurableExecutionDelivery}
    (split : worker.deliveries = front ++ late :: back) (earlier : worker.Earlier early late) :
    early ∈ front := by
  unfold Earlier at earlier
  have distinct := sound.distinct
  rw [split] at earlier distinct
  clear split sound
  induction front with
  | nil =>
    -- the frame would stand a second time behind itself
    simp only [nil_append, map_cons, nodup_cons] at earlier distinct
    have again : late ∈ back := by
      cases earlier with
      | cons _ rest | cons_cons _ rest => exact rest.subset (by simp)
    exact absurd (mem_map_of_mem again) distinct.1
  | cons head _ ih =>
    cases earlier with
    | cons _ rest => exact mem_cons_of_mem head (ih rest (nodup_cons.mp distinct).2)
    | cons_cons _ _ => exact mem_cons_self

theorem Sound.restart : Sound messages worker.restart where
  __ := sound
  cursor_row _ named := nomatch named
  passed read split delivery member := by
    obtain rfl : read = [] := by
      have whole : worker.deliveries = read ++ worker.deliveries := split
      exact self_eq_append_left.mp whole
    cases member

end

def forget (worker : WorkerMain) (id : String) : WorkerMain :=
  { worker.restart with outboxRetryIds := worker.outboxRetryIds.filter (· ≠ id) }

/-- The frame is the next one after the cursor that may be unsent. -/
def Ahead (worker : WorkerMain) (delivery : DurableExecutionDelivery) : Prop :=
  ∃ read skipped,
    worker.deliveries =
      read ++ Cursors.after idOf worker.outboxFlushCursor worker.deliveries ∧
    worker.deliveries = (read ++ skipped ++ [delivery]) ++
      Cursors.after idOf (some delivery.deliveryId) worker.deliveries ∧
    ∀ other ∈ skipped, other.deliveryId ∈ worker.sentDeliveryIds

variable {delivery : DurableExecutionDelivery}

theorem Ahead.mem (ahead : worker.Ahead delivery) : delivery ∈ worker.deliveries := by
  obtain ⟨_, _, _, whole, _⟩ := ahead
  rw [whole]
  simp

def passTo (worker : WorkerMain) (delivery : DurableExecutionDelivery) : WorkerMain :=
  { worker with outboxFlushCursor := some delivery.deliveryId }

/-- Every earlier frame that the frame waits for is sent. -/
def Ready (worker : WorkerMain) (delivery : DurableExecutionDelivery) : Prop :=
  ∀ early, worker.Earlier early delivery → Precedes early.message delivery.message →
    early.deliveryId ∈ worker.sentDeliveryIds

/-- The frame waits for none that is to be tried again. -/
def Free (worker : WorkerMain) (delivery : DurableExecutionDelivery) : Prop :=
  ∀ prior ∈ worker.deliveries, prior.deliveryId ∈ worker.outboxRetryIds →
    prior.deliveryId ≠ delivery.deliveryId → ¬ Precedes prior.message delivery.message

def tryAgain (worker : WorkerMain) (id : String) : WorkerMain :=
  { worker with outboxRetryIds := worker.outboxRetryIds ++ [id] }

theorem Held.tryAgain (held : worker.Held delivery)
    (id : String) : (worker.tryAgain id).Held delivery := by
  rcases held with again | ⟨prior, prior_in, again, precedes⟩
  · exact .inl (mem_append_left _ again)
  · exact .inr ⟨prior, prior_in, mem_append_left _ again, precedes⟩

def accept (worker : WorkerMain) (id : String) : WorkerMain :=
  { worker with
    outbox := recordSent id worker.outbox
    sentDeliveryIds := id :: worker.sentDeliveryIds
    accepted := worker.accepted ++ [id] }

@[simp] theorem accept_deliveries (worker : WorkerMain) (id : String) :
    (worker.accept id).deliveries = worker.deliveries := by
  simp only [deliveries, accept, recordSent, map_map]
  apply map_congr_left
  intro _ _
  simp only [Function.comp_apply]
  split <;> rfl

theorem accept_earlier {id : String} :
    (worker.accept id).Earlier early late ↔ worker.Earlier early late := by
  rw [Earlier, accept_deliveries, Earlier]

theorem Held.accept (held : worker.Held delivery)
    (id : String) : (worker.accept id).Held delivery := by
  rcases held with again | ⟨prior, prior_in, again, precedes⟩
  · exact .inl again
  · exact .inr ⟨prior, (accept_deliveries worker id).symm ▸ prior_in, again, precedes⟩

theorem mem_recordSent {id : String} {rows : List OutboxRow} {row : OutboxRow}
    (member : row ∈ recordSent id rows) : row.deliveryId = id ∨ row ∈ rows := by
  obtain ⟨old, old_in, rfl⟩ := mem_map.mp member
  by_cases same : old.deliveryId = id
  · left
    rw [if_pos same]
    exact same
  · right
    rw [if_neg same]
    exact old_in

section
variable (sound : Sound messages worker)
include sound

theorem Sound.forget (id : String) : Sound messages (worker.forget id) where
  __ := sound.restart
  retry_rows other member := sound.retry_rows other (mem_of_mem_filter member)
  retry_unsent other member := sound.retry_unsent other (mem_of_mem_filter member)
  retry_order := sound.retry_order.filter _
  passed read split := by
    intro _ member _
    exact absurd member (by
      have whole : worker.deliveries = read ++ worker.deliveries := split
      rw [self_eq_append_left.mp whole]
      exact not_mem_nil)
  ready inOrder early late earlier precedes member :=
    sound.ready inOrder early late earlier precedes (mem_of_mem_filter member)

theorem Sound.passTo (ahead : worker.Ahead delivery)
    (settled : delivery.deliveryId ∈ worker.sentDeliveryIds ∨ worker.Held delivery) :
    Sound messages (worker.passTo delivery) where
  __ := sound
  cursor_row id named := by
    obtain rfl : delivery.deliveryId = id := Option.some.inj named
    exact mem_map_of_mem ahead.mem
  passed front split other member unsent := by
    obtain ⟨read, skipped, before, whole, sent⟩ := ahead
    obtain rfl : front = read ++ skipped ++ [delivery] :=
      append_cancel_right (split.symm.trans whole)
    simp only [mem_append, mem_singleton] at member
    rcases member with (member | member) | rfl
    · exact sound.passed read before other member unsent
    · exact absurd (sent other member) unsent
    · exact settled.resolve_left unsent

/-- A free frame ahead of the scan is ready: what it waits for and is unsent would be
held back, and would hold it back. -/
theorem Sound.ready_of_free {first : ExecutionLeaseStamp} {session : SessionIdentity}
    (execution : OneExecution messages first session)
    (ahead : worker.Ahead delivery) (fresh : delivery.deliveryId ∉ worker.outboxRetryIds)
    (free : worker.Free delivery) (inOrder : LeasesInStreamOrder messages) :
    worker.Ready delivery := by
  intro early earlier precedes
  by_contra unsent
  obtain ⟨read, skipped, before, whole, sent⟩ := ahead
  have cut : worker.deliveries = (read ++ skipped) ++ delivery ::
      Cursors.after idOf (some delivery.deliveryId) worker.deliveries := by
    simpa using whole
  rcases mem_append.mp (sound.mem_of_earlier cut earlier) with member | member
  swap
  · exact unsent (sent early member)
  obtain ⟨early_in, delivery_in⟩ := earlier.mem
  have apart {id : String} (member : id ∈ worker.outboxRetryIds) : id ≠ delivery.deliveryId :=
    fun same => fresh (same ▸ member)
  rcases sound.passed read before early member unsent with again | ⟨prior, prior_in, again, waits⟩
  · exact free early early_in again (apart again) precedes
  · apply free prior prior_in again (apart again)
    exact waits.trans execution inOrder precedes (sound.known prior prior_in)
      (sound.known early early_in) (sound.known delivery delivery_in)

theorem Sound.tryAgain (member : delivery ∈ worker.deliveries)
    (unsent : delivery.deliveryId ∉ worker.sentDeliveryIds)
    (fresh : delivery.deliveryId ∉ worker.outboxRetryIds) (free : worker.Free delivery)
    (ready : LeasesInStreamOrder messages → worker.Ready delivery) :
    Sound messages (worker.tryAgain delivery.deliveryId) where
  __ := sound
  retry_rows id again := by
    rcases mem_append.mp again with old | new
    · exact sound.retry_rows id old
    · rw [mem_singleton.mp new]
      exact mem_map_of_mem member
  retry_unsent id again := by
    rcases mem_append.mp again with old | new
    · exact sound.retry_unsent id old
    · rw [mem_singleton.mp new]
      exact unsent
  retry_order := by
    apply pairwise_append.mpr
    refine ⟨sound.retry_order, pairwise_singleton _ _, ?_⟩
    intro _ old _ new prior prior_in later later_in rfl same
    obtain rfl : later = delivery :=
      sound.unique later_in member (same.trans (mem_singleton.mp new))
    exact free prior prior_in old fun equal => fresh (equal ▸ old)
  passed read split other front pending := (sound.passed read split other front pending).tryAgain _
  ready inOrder early late earlier precedes again := by
    rcases mem_append.mp again with old | new
    · exact sound.ready inOrder early late earlier precedes old
    · obtain rfl : late = delivery := sound.unique earlier.mem.2 member (mem_singleton.mp new)
      exact ready inOrder early earlier precedes

theorem Sound.accept (member : delivery ∈ worker.deliveries)
    (unsent : delivery.deliveryId ∉ worker.sentDeliveryIds)
    (fresh : delivery.deliveryId ∉ worker.outboxRetryIds)
    (ready : LeasesInStreamOrder messages → worker.Ready delivery) :
    Sound messages (worker.accept delivery.deliveryId) where
  known := by
    rw [accept_deliveries]
    exact sound.known
  distinct := by
    rw [accept_deliveries]
    exact sound.distinct
  recorded row row_in attempted := by
    rcases mem_recordSent row_in with same | old
    · exact same ▸ mem_cons_self
    · exact mem_cons_of_mem _ (sound.recorded row old attempted)
  accepted_iff id := by
    simp [WorkerMain.accept, sound.accepted_iff, or_comm]
  sent_rows id sent := by
    rw [accept_deliveries]
    rcases mem_cons.mp sent with rfl | old
    · exact mem_map_of_mem member
    · exact sound.sent_rows id old
  cursor_row id named := by
    rw [accept_deliveries]
    exact sound.cursor_row id named
  retry_rows id again := by
    rw [accept_deliveries]
    exact sound.retry_rows id again
  retry_unsent id again sent := by
    rcases mem_cons.mp sent with rfl | old
    · exact fresh again
    · exact sound.retry_unsent id again old
  retry_order := by
    rw [accept_deliveries]
    exact sound.retry_order
  passed read split other front pending := by
    rw [accept_deliveries] at split
    have old : other.deliveryId ∉ worker.sentDeliveryIds :=
      fun sent => pending (mem_cons_of_mem _ sent)
    exact (sound.passed read split other front old).accept _
  ready inOrder early late earlier precedes again := by
    exact mem_cons_of_mem _
      (sound.ready inOrder early late (accept_earlier.mp earlier) precedes again)
  ordered inOrder early late earlier precedes before after split := by
    rw [accept_earlier] at earlier
    rcases eq_nil_or_concat after with rfl | ⟨older, last, rfl⟩
    · -- the frame is the one just taken
      obtain ⟨taken, same⟩ : worker.accepted = before ∧ delivery.deliveryId = late.deliveryId := by
        simpa [WorkerMain.accept] using split
      obtain rfl : late = delivery := sound.unique earlier.mem.2 member same.symm
      rw [← taken, sound.accepted_iff]
      exact ready inOrder early earlier precedes
    · have cut : worker.accepted ++ [delivery.deliveryId] =
          (before ++ late.deliveryId :: older) ++ [last] := by
        simpa [WorkerMain.accept] using split
      exact sound.ordered inOrder early late earlier precedes before older (append_inj' cut rfl).1

end

end WorkerMain

open WorkerMain

/-- The blocked frames of a scan are those to be tried again. -/
structure Scan.Valid (messages : Set ExecutionPortMessage) (scan : Scan) : Prop where
  sound : Sound messages scan.worker
  blocked_iff : ∀ delivery, delivery ∈ scan.blocked ↔
    delivery ∈ scan.worker.deliveries ∧ delivery.deliveryId ∈ scan.worker.outboxRetryIds

variable {around : Surroundings}

section

variable {messages : Set ExecutionPortMessage} {scan : Scan} {delivery : DurableExecutionDelivery}
  {rest : List DurableExecutionDelivery}

theorem Scan.Valid.free_of_clear (valid : scan.Valid messages)
    (clear : scan.holds delivery = false) : scan.worker.Free delivery := by
  intro prior prior_in again apart precedes
  have held : scan.holds delivery := by
    rw [Scan.holds, any_eq_true]
    refine ⟨prior, (valid.blocked_iff prior).mpr ⟨prior_in, again⟩, ?_⟩
    simp [apart, dependsOn_iff.mpr precedes]
  exact absurd (held.symm.trans clear) (by decide)

theorem Scan.Valid.held_of_holds (valid : scan.Valid messages)
    (holds : scan.holds delivery) : scan.worker.Held delivery := by
  obtain ⟨prior, blocked, waits⟩ := any_eq_true.mp holds
  obtain ⟨prior_in, again⟩ := (valid.blocked_iff prior).mp blocked
  exact .inr ⟨prior, prior_in, again, dependsOn_iff.mp (Bool.and_eq_true_iff.mp waits).2⟩

structure Retrying (messages : Set ExecutionPortMessage) (scan : Scan)
    (rest : List DurableExecutionDelivery) : Prop extends Scan.Valid messages scan where
  listed : ∀ delivery ∈ rest, delivery ∈ scan.worker.deliveries ∧
    (delivery.deliveryId ∈ scan.worker.outboxRetryIds ∨ delivery.deliveryId ∈ scan.visited)
  seen : ∀ id ∈ scan.visited,
    id ∈ scan.worker.sentDeliveryIds ∨ id ∈ scan.worker.outboxRetryIds
  covers : ∀ id ∈ scan.worker.outboxRetryIds, id ∈ scan.visited ∨ id ∈ rest.map idOf

section
variable (retrying : Retrying messages scan (delivery :: rest))
include retrying

theorem Retrying.again_of_free (free : delivery.deliveryId ∉ scan.visited) :
    delivery.deliveryId ∈ scan.worker.outboxRetryIds :=
  (retrying.listed delivery mem_cons_self).2.resolve_right free

theorem Retrying.keep (again : delivery.deliveryId ∈ scan.worker.outboxRetryIds)
    (deferred : Option WorkerErrorCode) : Retrying messages
      { scan with visited := delivery.deliveryId :: scan.visited, deferred := deferred } rest where
  __ := retrying
  listed other member := by
    obtain ⟨present, either⟩ := retrying.listed other (mem_cons_of_mem _ member)
    exact ⟨present, either.imp_right (mem_cons_of_mem _)⟩
  seen id member := by
    rcases mem_cons.mp member with rfl | old
    · exact .inr again
    · exact retrying.seen id old
  covers id member := by
    rcases retrying.covers id member with old | left
    · exact .inl (mem_cons_of_mem _ old)
    · rcases mem_cons.mp left with rfl | later
      · exact .inl mem_cons_self
      · exact .inr later

theorem Retrying.send (again : delivery.deliveryId ∈ scan.worker.outboxRetryIds) (bytes : Nat) :
    Retrying messages ((scan.reach true delivery).sent delivery bytes) rest := by
  have shape : (scan.reach true delivery).sent delivery bytes = { scan with
        worker := (scan.worker.forget delivery.deliveryId).accept delivery.deliveryId
        blocked := scan.blocked.filter (·.deliveryId ≠ delivery.deliveryId)
        visited := delivery.deliveryId :: scan.visited
        sentBytes := scan.sentBytes + bytes } := by
    simp only [Scan.sent, Scan.reach, Scan.moveCursor, if_true]
    rw [if_pos again]
    rfl
  have present := (retrying.listed delivery mem_cons_self).1
  have remains {id : String} (member : id ∈ scan.worker.outboxRetryIds)
      (other : id ≠ delivery.deliveryId) :
      id ∈ ((scan.worker.forget delivery.deliveryId).accept delivery.deliveryId).outboxRetryIds :=
    mem_filter.mpr ⟨member, by simpa using other⟩
  rw [shape]
  refine ⟨⟨?_, ?_⟩, ?_, ?_, ?_⟩
  · apply (retrying.sound.forget delivery.deliveryId).accept present
    · exact retrying.sound.retry_unsent _ again
    · simp [WorkerMain.forget]
    · intro inOrder early earlier precedes
      exact retrying.sound.ready inOrder early delivery earlier precedes again
  · intro other
    have stays : ((scan.worker.forget delivery.deliveryId).accept
        delivery.deliveryId).deliveries = scan.worker.deliveries := accept_deliveries _ _
    rw [mem_filter, retrying.blocked_iff, stays]
    simp [WorkerMain.accept, WorkerMain.forget, and_assoc]
  · intro other member
    obtain ⟨other_in, either⟩ := retrying.listed other (mem_cons_of_mem _ member)
    refine ⟨(accept_deliveries _ _).symm ▸ other_in, ?_⟩
    by_cases same : other.deliveryId = delivery.deliveryId
    · exact .inr (same ▸ mem_cons_self)
    · exact either.imp (remains · same) (mem_cons_of_mem _)
  · intro id member
    by_cases same : id = delivery.deliveryId
    · exact .inl (same ▸ mem_cons_self)
    · rcases retrying.seen id ((mem_cons.mp member).resolve_left same) with sent | waiting
      · exact .inl (mem_cons_of_mem _ sent)
      · exact .inr (remains waiting same)
  · intro id member
    obtain ⟨old, other⟩ := mem_filter.mp member
    rcases retrying.covers id old with visited | left
    · exact .inl (mem_cons_of_mem _ visited)
    · exact .inr ((mem_cons.mp left).resolve_left (by simpa using other))

end

theorem Retrying.visit (plain : around.Plain)
    (retrying : Retrying messages scan (delivery :: rest)) :
    Sound messages (scan.visit around true delivery).1.worker ∧
      ((scan.visit around true delivery).2 = .next →
        Retrying messages (scan.visit around true delivery).1 rest) := by
  have visited := visit_cases plain true scan delivery
  generalize scan.visit around true delivery = result at visited
  cases visited with
  | interrupted | full => exact ⟨retrying.sound, nofun⟩
  | again seen =>
    refine ⟨retrying.sound, fun _ => ⟨retrying.toValid, ?_, retrying.seen, ?_⟩⟩
    · exact fun other member => retrying.listed other (mem_cons_of_mem _ member)
    · intro id member
      rcases retrying.covers id member with old | left
      · exact .inl old
      · rcases mem_cons.mp left with rfl | later
        · exact .inl seen
        · exact .inr later
  | passedOver free _ =>
    have kept := retrying.keep (retrying.again_of_free free) scan.deferred
    exact ⟨kept.sound, fun _ => kept⟩
  | unavailable free _ _ =>
    have again := retrying.again_of_free free
    have shape : (scan.reach true delivery).unavailable delivery = { scan with
          visited := delivery.deliveryId :: scan.visited
          deferred := some .executionPort } := by
      simp only [Scan.unavailable, Scan.reach, Scan.moveCursor, if_true]
      rw [if_pos again]
    rw [shape]
    have kept := retrying.keep again (some .executionPort)
    exact ⟨kept.sound, fun _ => kept⟩
  | sent bytes _ free _ _ =>
    have sent := retrying.send (retrying.again_of_free free) bytes
    exact ⟨sent.sound, fun _ => sent⟩

theorem Retrying.pass (plain : around.Plain) (retrying : Retrying messages scan rest) :
    Sound messages (scan.pass around true rest).1.worker ∧ ((scan.pass around true rest).2 = .next →
        Retrying messages (scan.pass around true rest).1 []) := by
  induction rest generalizing scan with
  | nil => exact ⟨retrying.sound, fun _ => retrying⟩
  | cons delivery rest ih =>
    obtain ⟨sound, goes⟩ := retrying.visit plain
    simp only [Scan.pass]
    generalize scan.visit around true delivery = result at sound goes
    obtain ⟨scan, flow⟩ := result
    cases flow with
    | next => exact ih (goes rfl)
    | leave | fail code => exact ⟨sound, nofun⟩

end

end WinWinCode.Worker
