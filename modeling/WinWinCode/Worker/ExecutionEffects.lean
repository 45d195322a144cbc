import WinWinCode.Foundation.Cursors
import WinWinCode.Worker.DeliveryDependencies

/-!
The worker's flush of its durable outbox. A call first tries again the frames that
could not be sent, then goes on from where the last scan stopped. A frame is passed
over while it depends on a frame that could not be sent; the scan starts anew once such
a frame is sent. What the port and the clock answer is an input of each call.
-/

namespace WinWinCode.Worker

structure DurableExecutionDelivery where
  deliveryId : String
  message : ExecutionPortMessage
deriving DecidableEq

/-- A row of `execution_outbox`. Rows stand in the order of their positions. -/
structure OutboxRow extends DurableExecutionDelivery where
  (acknowledgementRequired sentAttempt : Bool)

def OutboxRow.pending (row : OutboxRow) : Bool :=
  !row.sentAttempt || row.acknowledgementRequired

inductive WorkerErrorCode where
  | invalidLifecycle
  | unexpectedMessage
  | codexDurableState
  | registrationMismatch
  | registrationRejected
  | invalidDispatchAuthority
  | runtimeTraceMismatch
  | delegatedPollMismatch
  | delegatedContextLimit
  | workspace
  | candidateArtifactMismatch
  | executionPort
  | executionBackpressure
  | modelStartDeferred
  | executionMessageRejected
  | executionTerminal

/-- The part of the worker that the flush reads and writes. `accepted` is what the port
has taken, in order. -/
structure WorkerMain where
  outbox : List OutboxRow
  sentDeliveryIds : List String
  outboxFlushCursor : Option String
  /-- The set of the frames to try again, in the order of their insertion. -/
  (outboxRetryIds accepted : List String)

def WorkerMain.start : WorkerMain where
  outbox := []
  sentDeliveryIds := []
  outboxFlushCursor := none
  outboxRetryIds := []
  accepted := []

/-- What a flush meets outside the worker. -/
structure Surroundings where
  /-- The order in which the hash set of retries is listed. -/
  retryOrder : List String → List String
  retryOrder_perm : ∀ ids, (retryOrder ids).Perm ids
  /-- Whether controls wait or the deadline has passed when a pass reaches a frame. -/
  interrupted : Bool → String → Bool
  durableDeliveryAllowed : DurableExecutionDelivery → Bool
  frameBytes : ExecutionPortMessage → Nat
  /-- Why a frame could not be sent, if so. -/
  sendFailure : String → Option WorkerErrorCode
  /-- Whether controls wait once a frame is sent. -/
  controlsAfter : String → Bool

def maxOutboxBatchFrames : Nat := 64

def maxOutboxBatchBytes : Nat := 512 * 1024

def rowsAfter (cursor : Option String) (rows : List OutboxRow) : List OutboxRow :=
  Cursors.after (fun row : OutboxRow => row.deliveryId) cursor rows

def pendingBatch (rows : List OutboxRow) (cursor : Option String) (limit : Nat) :
    List DurableExecutionDelivery :=
  (((rowsAfter cursor rows).filter OutboxRow.pending).take limit).map
    OutboxRow.toDurableExecutionDelivery

def pendingDelivery (rows : List OutboxRow) (id : String) : Option DurableExecutionDelivery :=
  (rows.find? fun row => row.deliveryId == id && row.pending).map
    OutboxRow.toDurableExecutionDelivery

def recordSent (id : String) (rows : List OutboxRow) : List OutboxRow :=
  rows.map fun row => if row.deliveryId = id then { row with sentAttempt := true } else row

/-- A frame to try again that is no longer pending is forgotten. -/
def forgetRetry (worker : WorkerMain) (id : String) : WorkerMain :=
  { worker with
    outboxRetryIds := worker.outboxRetryIds.filter (· ≠ id)
    outboxFlushCursor := none }

def pendingOutboxRetries (worker : WorkerMain) :
    List String → WorkerMain × List DurableExecutionDelivery
  | [] => (worker, [])
  | id :: rest =>
    match pendingDelivery worker.outbox id with
    | some delivery =>
      let (worker, retries) := pendingOutboxRetries worker rest
      (worker, delivery :: retries)
    | none => pendingOutboxRetries (forgetRetry worker id) rest

structure Scan where
  worker : WorkerMain
  blocked : List DurableExecutionDelivery
  visited : List String := []
  sentBytes : Nat := 0
  deferred : Option WorkerErrorCode := none

inductive Flow where
  | next
  | leave
  | fail (code : WorkerErrorCode)

section
variable (around : Surroundings) (scan : Scan) (retry : Bool) (delivery : DurableExecutionDelivery)

def Scan.setCursor (cursor : Option String) : Scan :=
  { scan with worker := { scan.worker with outboxFlushCursor := cursor } }

def Scan.sent (bytes : Nat) : Scan :=
  let id := delivery.deliveryId
  let worker : WorkerMain := { scan.worker with
    outbox := recordSent id scan.worker.outbox
    sentDeliveryIds := id :: scan.worker.sentDeliveryIds
    accepted := scan.worker.accepted ++ [id] }
  let scan := { scan with worker := worker, sentBytes := scan.sentBytes + bytes }
  if id ∈ worker.outboxRetryIds then
    { scan with
      worker := { worker with
        outboxRetryIds := worker.outboxRetryIds.filter (· ≠ id)
        outboxFlushCursor := none }
      blocked := scan.blocked.filter (·.deliveryId ≠ id) }
  else scan

def Scan.unavailable : Scan :=
  let id := delivery.deliveryId
  let scan := { scan with deferred := some .executionPort }
  if id ∈ scan.worker.outboxRetryIds then scan
  else
    { scan with
      worker := { scan.worker with outboxRetryIds := scan.worker.outboxRetryIds ++ [id] }
      blocked := scan.blocked ++ [delivery] }

def Scan.attempt (previousCursor : Option String)
    (delivery : DurableExecutionDelivery) (bytes : Nat) : Scan × Flow :=
  match around.sendFailure delivery.deliveryId with
  | none =>
    (scan.sent delivery bytes, if around.controlsAfter delivery.deliveryId then .leave else .next)
  | some .modelStartDeferred =>
    ({ scan with deferred := scan.deferred <|> some .modelStartDeferred }, .next)
  | some .executionPort => (scan.unavailable delivery, .next)
  | some .executionMessageRejected => (scan, .fail .executionMessageRejected)
  | some code => (scan.setCursor previousCursor, .fail code)

def Scan.holds : Bool :=
  scan.blocked.any fun prior =>
    prior.deliveryId != delivery.deliveryId &&
      executionDeliveryDependsOn delivery.message prior.message

def Scan.moveCursor : Scan :=
  if retry then scan else scan.setCursor (some delivery.deliveryId)

/-- The scan as a pass comes to a frame for the first time. -/
def Scan.reach : Scan :=
  { scan.moveCursor retry delivery with visited := delivery.deliveryId :: scan.visited }

/-- A frame that was just reached: it is passed over, left for a later call, or sent. -/
def Scan.offer (previousCursor : Option String)
    (delivery : DurableExecutionDelivery) : Scan × Flow :=
  if delivery.deliveryId ∈ scan.worker.sentDeliveryIds then (scan, .next)
  else if scan.holds delivery then (scan, .next)
  else if around.durableDeliveryAllowed delivery = false then (scan, .next)
  else
    let bytes := around.frameBytes delivery.message
    if 0 < scan.sentBytes ∧ maxOutboxBatchBytes < scan.sentBytes + bytes then
      (scan.setCursor previousCursor, .leave)
    else scan.attempt around previousCursor delivery bytes

def Scan.visit (scan : Scan) (delivery : DurableExecutionDelivery) : Scan × Flow :=
  if around.interrupted retry delivery.deliveryId then (scan, .leave)
  else if delivery.deliveryId ∈ scan.visited then (scan.moveCursor retry delivery, .next)
  else
    (scan.reach retry delivery).offer around scan.worker.outboxFlushCursor delivery

end

def Scan.pass (around : Surroundings) (retry : Bool) :
    Scan → List DurableExecutionDelivery → Scan × Flow
  | scan, [] => (scan, .next)
  | scan, delivery :: rest =>
    match scan.visit around retry delivery with
    | (scan, .next) => scan.pass around retry rest
    | stopped => stopped

section
variable (around : Surroundings) (worker : WorkerMain)

def Scan.advance (scan : Scan) : Scan × Flow :=
  let batch := pendingBatch scan.worker.outbox scan.worker.outboxFlushCursor maxOutboxBatchFrames
  let scan := if batch.isEmpty then scan.setCursor none else scan
  scan.pass around false batch

def flushScan : Scan × Flow :=
  let (worker, retries) :=
    pendingOutboxRetries worker (around.retryOrder worker.outboxRetryIds)
  match Scan.pass around true { worker := worker, blocked := retries } retries with
  | (scan, .next) => scan.advance around
  | stopped => stopped

def flushDurableExecutionDeliveries : WorkerMain × Except WorkerErrorCode Unit :=
  match flushScan around worker with
  | (scan, .fail code) => (scan.worker, .error code)
  | (scan, _) =>
    match scan.deferred with
    | some code => (scan.worker, .error code)
    | none => (scan.worker, .ok ())

def WorkerMain.deliveries : List DurableExecutionDelivery :=
  worker.outbox.map OutboxRow.toDurableExecutionDelivery

/-- A flush in which frames are only sent or meet an unavailable port. -/
structure Surroundings.Plain : Prop where
  allowed : ∀ delivery, around.durableDeliveryAllowed delivery = true
  sends : ∀ id, around.sendFailure id = none ∨ around.sendFailure id = some .executionPort

end

inductive Visited (around : Surroundings) (retry : Bool) (scan : Scan)
    (delivery : DurableExecutionDelivery) : Scan × Flow → Prop where
  | interrupted : Visited around retry scan delivery (scan, .leave)
  | again (seen : delivery.deliveryId ∈ scan.visited) :
      Visited around retry scan delivery
        (scan.moveCursor retry delivery, .next)
  | passedOver (free : delivery.deliveryId ∉ scan.visited)
      (settled : delivery.deliveryId ∈ scan.worker.sentDeliveryIds ∨ scan.holds delivery = true) :
      Visited around retry scan delivery (scan.reach retry delivery, .next)
  | full : Visited around retry scan delivery
      ({ scan with visited := delivery.deliveryId :: scan.visited }, .leave)
  | unavailable (free : delivery.deliveryId ∉ scan.visited)
      (unsent : delivery.deliveryId ∉ scan.worker.sentDeliveryIds)
      (clear : scan.holds delivery = false) :
      Visited around retry scan delivery ((scan.reach retry delivery).unavailable delivery, .next)
  | sent (bytes : Nat) (flow : Flow) (free : delivery.deliveryId ∉ scan.visited)
      (unsent : delivery.deliveryId ∉ scan.worker.sentDeliveryIds)
      (clear : scan.holds delivery = false) :
      Visited around retry scan delivery ((scan.reach retry delivery).sent delivery bytes, flow)

theorem visit_cases {around : Surroundings} (plain : around.Plain) (retry : Bool) (scan : Scan)
    (delivery : DurableExecutionDelivery) :
    Visited around retry scan delivery (scan.visit around retry delivery) := by
  unfold Scan.visit
  split
  · exact .interrupted
  split
  · rename_i seen
    exact .again seen
  rename_i free
  have same : (scan.reach retry delivery).worker.sentDeliveryIds = scan.worker.sentDeliveryIds := by
    cases retry <;> rfl
  have holding : (scan.reach retry delivery).holds delivery = scan.holds delivery := by
    cases retry <;> rfl
  have restored : (scan.reach retry delivery).setCursor scan.worker.outboxFlushCursor =
      { scan with visited := delivery.deliveryId :: scan.visited } := by
    cases retry <;> rfl
  simp only [Scan.offer, same, holding, plain.allowed, restored, Bool.true_eq_false, if_false]
  split
  · rename_i done
    exact .passedOver free (.inl done)
  rename_i unsent
  split
  · rename_i held
    exact .passedOver free (.inr held)
  rename_i clear
  have unheld : scan.holds delivery = false := Bool.eq_false_iff.mpr clear
  split
  · exact .full
  unfold Scan.attempt
  rcases plain.sends delivery.deliveryId with sends | unavailable
  · rw [sends]
    exact .sent _ _ free unsent unheld
  · rw [unavailable]
    exact .unavailable free unsent unheld

end WinWinCode.Worker
