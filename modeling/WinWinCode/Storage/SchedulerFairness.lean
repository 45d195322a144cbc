import WinWinCode.Foundation.Runs
import WinWinCode.Storage.RepositoryScheduler

/-!
Bounded overtaking in the repository scheduler. Every fresh dispatch stamps its
group with a number above all stamps given so far, and the queued job that is chosen
belongs to a ready group with the smallest stamp. A group that was passed over while
it was ready therefore has a smaller stamp than everyone served since, and nobody is
served twice before it.
-/

namespace WinWinCode.Storage

open Fallible Tables Text List Table Option ExecutionQueue Runs

/-- The jobs that share one fairness row: those of a delivery, or of a session. -/
structure JobGroup where
  productSessionId : String
  deliveryId : Option String
deriving DecidableEq

def groupOf (scope : ExecutionQueueScope) : JobGroup :=
  ⟨scope.productSessionId, scope.deliveryId⟩

variable {requestId requestDigest : String} {row : ExecutionJobRow}
  {submission : ExecutionJobSubmission}

namespace ExecutionQueue

/-! What the queue keeps: scopes are canonical, and a receipt is about its scope. -/

structure Scoped (store : QueueStore) : Prop where
  jobs : ∀ row ∈ store.jobs.rows, validateScope row.scope = .ok ()
  receipts : ∀ row ∈ store.receipts.rows, row.response.job.scope = row.scope

theorem Scoped.empty : Scoped QueueStore.empty := ⟨forall_mem_nil _, forall_mem_nil _⟩

variable {record : ExecutionJobRecord} {store : QueueStore}

theorem completeRecord_eq_ok (done : completeRecord store row = .ok record) :
    record = recordOf store row := by
  simp only [completeRecord, eq_ok] at done
  obtain ⟨_, _, _, _, rfl⟩ := done
  rfl

theorem completeFound_eq_some {found : Option ExecutionJobRow}
    (done : completeFound store found = .ok (some record)) :
    ∃ row, found = some row ∧ record = recordOf store row := by
  cases found with
  | none => cases done
  | some row =>
    simp only [completeFound, eq_ok, Option.some.injEq] at done
    obtain ⟨_, completed, rfl⟩ := done
    exact ⟨row, rfl, completeRecord_eq_ok completed⟩

theorem loadScopedJob_scope {scope : ExecutionQueueScope} {jobId : String}
    (done : loadScopedJob store scope jobId = .ok (some record)) : record.scope = scope := by
  obtain ⟨_, found, rfl⟩ := completeFound_eq_some done
  have hit := (find_eq_some found).2
  simp only [Bool.and_eq_true, beq_iff_eq] at hit
  exact hit.2

/-- A finished change keeps scopes and answers about the scope of its request. -/
structure Mutated (scope : ExecutionQueueScope) (next : QueueStore)
    (receipt : ExecutionJobMutationReceipt) : Prop where
  kept : Scoped next
  answered : receipt.job.scope = scope

section Changes
variable {digest : Digest} {next : QueueStore} {receipt : ExecutionJobMutationReceipt}

section
variable (kept : Scoped store)
include kept

variable {scope : ExecutionQueueScope}

theorem Scoped.finish {operation : QueueOperation} {jobId missing : String}
    (done : finishMutation store scope requestId operation jobId requestDigest missing =
      .ok (next, receipt)) : Mutated scope next receipt := by
  simp only [finishMutation, eq_ok, Prod.mk.injEq] at done
  obtain ⟨_, loaded, _, rfl, receipts, inserted, rfl, rfl⟩ := done
  have about := loadScopedJob_scope loaded
  refine ⟨⟨kept.jobs, ?_⟩, about⟩
  rw [(insert_eq_some.mp inserted).2]
  exact forall_mem_concat kept.receipts about

theorem Scoped.update {selected : ExecutionJobRow → Bool}
    {change : ExecutionJobRow → ExecutionJobRow} {lost : String}
    (done : updateJob store selected change lost = .ok next)
    (keeps : ∀ row, (change row).scope = row.scope) : Scoped next := by
  simp only [updateJob, eq_ok] at done
  obtain ⟨jobs, updated, _, _, rfl⟩ := done
  refine ⟨?_, kept.receipts⟩
  intro _ member
  rw [update_rows updated] at member
  obtain ⟨old, present, rfl⟩ := mem_map.mp member
  unfold Table.alter
  split
  · rw [keeps]
    exact kept.jobs old present
  · exact kept.jobs old present

theorem Scoped.replayReceipt
    (done : replayReceipt store scope requestId requestDigest = .ok (some receipt)) :
    receipt.job.scope = scope := by
  unfold ExecutionQueue.replayReceipt at done
  split at done
  · cases done
  · rename_i row found
    have known := find_eq_some found
    simp only [eq_ok, Option.some.injEq] at done
    obtain ⟨_, _, _, _, rfl⟩ := done
    have hit := known.2
    simp only [Bool.and_eq_true, beq_iff_eq] at hit
    exact (kept.receipts row known.1).trans hit.1

theorem Scoped.replayOr {perform : QueueAnswer}
    (done : replayOr store scope requestId requestDigest perform = .ok (next, receipt))
    (performed : perform = .ok (next, receipt) → Mutated scope next receipt) :
    Mutated scope next receipt := by
  rw [ExecutionQueue.replayOr, bind_eq_ok] at done
  obtain ⟨replayed, read, done⟩ := done
  cases replayed with
  | some _ =>
    cases done
    exact ⟨kept, kept.replayReceipt read⟩
  | none => exact performed done

theorem Scoped.transition {request : ExecutionJobTransitionRequest}
    (done : transitionExecutionJob digest store request = .ok (next, receipt)) :
    Mutated request.scope next receipt := by
  simp only [transitionExecutionJob, eq_ok] at done
  obtain ⟨_, _, done⟩ := done
  apply kept.replayOr done
  intro performed
  simp only [transitionNew, eq_ok] at performed
  obtain ⟨_, _, _, _, _, _, _, _, _, _, _, _, _, _, _, updated, finished⟩ := performed
  exact (kept.update updated fun _ => rfl).finish finished

theorem Scoped.cancel {request : ExecutionJobCancellationRequest}
    (done : cancelExecutionJob digest store request = .ok (next, receipt)) :
    Mutated request.scope next receipt := by
  simp only [cancelExecutionJob, eq_ok] at done
  obtain ⟨_, _, done⟩ := done
  apply kept.replayOr done
  intro performed
  simp only [cancelNew, eq_ok] at performed
  obtain ⟨_, _, _, _, _, _, _, _, _, _, _, updated, finished⟩ := performed
  exact (kept.update updated fun _ => rfl).finish finished

theorem Scoped.replace {current : ExecutionJobRecord} {occurredAt : String} {nextAttempt : Nat}
    {workRunId : Option String} {dispatchPayload : List UInt8}
    (done : replaceExecutionJobAttempt digest store current requestId nextAttempt workRunId
      dispatchPayload occurredAt = .ok (next, receipt)) : Mutated current.scope next receipt := by
  simp only [replaceExecutionJobAttempt, eq_ok] at done
  obtain ⟨_, _, _, _, _, _, _, _, _, _, done⟩ := done
  apply kept.replayOr done
  intro performed
  simp only [replaceNew, eq_ok] at performed
  obtain ⟨_, _, _, _, _, _, _, updated, finished⟩ := performed
  exact (kept.update updated fun _ => rfl).finish finished

end

theorem Scoped.submit (kept : Scoped store) {mode : ExecutionJobSubmissionMode}
    (done : submitExecutionJob digest store submission mode = .ok (next, receipt)) :
    Scoped next := by
  simp only [submitExecutionJob, eq_ok] at done
  obtain ⟨_, normalized, _, _, done⟩ := done
  split at done
  · simp only [eq_ok, Prod.mk.injEq] at done
    obtain ⟨_, _, _, _, rfl, _⟩ := done
    exact kept
  · simp only [insertSubmission, eq_ok] at done
    obtain ⟨_, _, _, _, _, _, jobs, inserted, dependencies, _, finished⟩ := done
    have grown : Scoped { store with jobs := jobs, dependencies := dependencies } := by
      refine ⟨?_, kept.receipts⟩
      rw [(insert_eq_some.mp inserted).2]
      simp only [normalizedSubmission, eq_ok] at normalized
      obtain ⟨_, valid, _, _, _, _, _, _, _, _, _, _, _, _, _, _, _, _, _, _, _, _, rfl⟩ := normalized
      exact forall_mem_concat kept.jobs valid
    exact (grown.finish finished).kept

end Changes

end ExecutionQueue

variable {newClaimAllowed : Bool} {recorded : SchedulerStore} {admitted : Option String}
  {instance_ : String}

namespace RepositoryScheduler

/-! Keys. -/

theorem validateId_eq_ok {value head field : String} {done : Unit}
    (valid : validateId value head field = .ok done) : value.toList.length = head.length + 26 := by
  apply length_of_isCanonicalId
  simpa using refuse_eq_ok.mp valid

theorem append_injective {left right left' right' : String} (same : left ++ right = left' ++ right')
    (lengths : left.toList.length = left'.toList.length) : left = left' ∧ right = right' := by
  have symbols := congrArg String.toList same
  rw [String.toList_append, String.toList_append] at symbols
  obtain ⟨first, second⟩ := append_inj symbols lengths
  exact ⟨String.toList_inj.mp first, String.toList_inj.mp second⟩

theorem repositoryScopeKey_injective {left right : RepositorySchedulerScope}
    (validLeft : validateScope left = .ok ()) (validRight : validateScope right = .ok ())
    (same : repositoryScopeKey left = repositoryScopeKey right) : left = right := by
  simp only [validateScope, eq_ok] at validLeft validRight
  obtain ⟨_, organization, _, workspace, _, project, _⟩ := validLeft
  obtain ⟨_, organization', _, workspace', _, project', _⟩ := validRight
  have lengths := (validateId_eq_ok organization).trans (validateId_eq_ok organization').symm
  have lengths' := (validateId_eq_ok workspace).trans (validateId_eq_ok workspace').symm
  have lengths'' := (validateId_eq_ok project).trans (validateId_eq_ok project').symm
  simp only [repositoryScopeKey, String.append_assoc] at same
  obtain ⟨_, same⟩ := append_injective same lengths
  obtain ⟨_, same⟩ := append_injective same rfl
  obtain ⟨_, same⟩ := append_injective same lengths'
  obtain ⟨_, same⟩ := append_injective same rfl
  obtain ⟨_, same⟩ := append_injective same lengths''
  obtain ⟨_, _⟩ := append_injective same rfl
  cases left
  cases right
  simp_all

/-- Jobs with canonical scopes share a fairness row only within one group. -/
theorem groupOf_eq {left right : ExecutionQueueScope}
    (validLeft : ExecutionQueue.validateScope left = .ok ())
    (validRight : ExecutionQueue.validateScope right = .ok ())
    (session : left.productSessionId = right.productSessionId)
    (delivery : deliveryKey left = deliveryKey right) : groupOf left = groupOf right := by
  have named : ∀ {scope : ExecutionQueueScope} {id : String},
      ExecutionQueue.validateScope scope = .ok () → scope.deliveryId = some id → id ≠ "" := by
    rintro _ _ valid known rfl
    simp only [ExecutionQueue.validateScope, ExecutionQueue.validateDelivery,
      ExecutionRegistry.validateId, eq_ok, known] at valid
    obtain ⟨_, _, _, _, _, _, _, _, _, _, canonical⟩ := valid
    exact canonical (by decide)
  have same : left.deliveryId = right.deliveryId := by
    cases knownLeft : left.deliveryId <;> cases knownRight : right.deliveryId <;>
      rw [deliveryKey, deliveryKey, knownLeft, knownRight] at delivery
    · exact absurd delivery.symm (named validRight knownRight)
    · exact absurd delivery (named validLeft knownLeft)
    · exact congrArg some delivery
  rw [groupOf, groupOf, session, same]

/-! What a claim does to the stamps. -/

def isFresh (receipt : RepositorySchedulerClaimReceipt) : Bool :=
  !receipt.replayed && !receipt.recovered

/-- A change that stamps no group. -/
structure Unstamped (store next : SchedulerStore) : Prop where
  fairness : next.fairness = store.fairness
  sequences : next.sequences = store.sequences

section
variable (host : SchedulerHost) (environment : SchedulerEnvironment) (store : SchedulerStore)
  (request : RepositorySchedulerClaimRequest) (selection : QueuedJobSelection)

/-- The scope of a queued job that the selection may choose. -/
def Chosen (scope : ExecutionQueueScope) : Prop :=
  ∃ admitted row, (selection = .any → admitted = none) ∧
    readyRow host environment store request.scope request.workerId request.workerInstanceId
      admitted true = some row ∧ scope = row.scope

/-- The queued job that was chosen, and the stamp its group got. -/
structure FreshDispatch (next : SchedulerStore) (receipt : RepositorySchedulerClaimReceipt) :
    Prop where
  new : isFresh receipt = true
  chosen : Chosen host environment store request selection receipt.job.scope
  stamped : ∀ key session delivery, lastSequence next key session delivery =
    if key = repositoryScopeKey request.scope ∧ session = receipt.job.scope.productSessionId ∧
        delivery = deliveryKey receipt.job.scope then
      nextSequence store (repositoryScopeKey request.scope)
    else lastSequence store key session delivery
  counted : ∀ key, nextSequence next key = nextSequence store key +
    if key = repositoryScopeKey request.scope then 1 else 0

inductive ClaimOutcome (next : SchedulerStore) : Option RepositorySchedulerClaimReceipt → Prop
  | quiet (answer : Option RepositorySchedulerClaimReceipt) (unstamped : Unstamped store next)
      (stale : ∀ receipt, answer = some receipt → isFresh receipt = false) :
      ClaimOutcome next answer
  | fresh (receipt : RepositorySchedulerClaimReceipt)
      (dispatch : FreshDispatch host environment store request selection next receipt) :
      ClaimOutcome next (some receipt)

structure Claimed (next : SchedulerStore) (answer : Option RepositorySchedulerClaimReceipt) :
    Prop where
  kept : Scoped next.queue
  outcome : ClaimOutcome host environment store request selection next answer

end

section Claims
variable {host : SchedulerHost} {environment : SchedulerEnvironment} {store next : SchedulerStore}
  {request : RepositorySchedulerClaimRequest} {selection : QueuedJobSelection}

variable {answer : Option RepositorySchedulerClaimReceipt}

theorem insertDriveReceipt_eq_ok (done : insertDriveReceipt host store request answer = .ok next) :
    next.queue = store.queue ∧ Unstamped store next := by
  simp only [insertDriveReceipt, eq_ok] at done
  obtain ⟨_, _, rfl⟩ := done
  exact ⟨rfl, rfl, rfl⟩

variable {receipt : RepositorySchedulerClaimReceipt} {job : ExecutionJobRecord}

theorem recordOffer_eq_ok (done : recordOffer store request receipt = .ok next) :
    next.queue = store.queue ∧ Unstamped store next := by
  simp only [recordOffer, eq_ok] at done
  obtain ⟨_, _, rfl⟩ := done
  exact ⟨rfl, rfl, rfl⟩

variable {middle : SchedulerStore}

theorem Unstamped.trans (first : Unstamped store middle) (second : Unstamped middle next) :
    Unstamped store next :=
  ⟨second.fairness.trans first.fairness, second.sequences.trans first.sequences⟩

theorem Unstamped.last (same : Unstamped store next) (key session delivery : String) :
    lastSequence next key session delivery = lastSequence store key session delivery := by
  rw [lastSequence, lastSequence, same.fairness]

theorem Unstamped.following (same : Unstamped store next) (key : String) :
    nextSequence next key = nextSequence store key := by
  rw [nextSequence, nextSequence, same.sequences]

theorem recordFairDispatch_eq_ok {scopeKey : String}
    (done : recordFairDispatch store scopeKey job = .ok next) :
    next.queue = store.queue ∧ (∀ key session delivery, lastSequence next key session delivery =
        if key = scopeKey ∧ session = job.scope.productSessionId ∧
            delivery = deliveryKey job.scope then nextSequence store scopeKey
        else lastSequence store key session delivery) ∧
      ∀ key, nextSequence next key = nextSequence store key + if key = scopeKey then 1 else 0 := by
  simp only [recordFairDispatch, eq_ok] at done
  obtain ⟨_, stamped, _, _, _, counted, rfl⟩ := done
  refine ⟨rfl, ?_, ?_⟩
  · intro key session delivery
    refine (congrArg (fun row : Option FairnessRow => (row.map (·.lastSequence)).getD 0)
      (find_upsert (fun row => ((row.scopeKey, row.productSessionId), row.deliveryKey))
        ((scopeKey, job.scope.productSessionId), deliveryKey job.scope) stamped rfl
        ((key, session), delivery))).trans ?_
    by_cases here : key = scopeKey ∧ session = job.scope.productSessionId ∧
        delivery = deliveryKey job.scope
    · obtain ⟨rfl, rfl, rfl⟩ := here
      simp
    · rw [if_neg here, if_neg]
      · rfl
      · rintro ⟨⟩
        exact here ⟨rfl, rfl, rfl⟩
  · intro key
    conv_lhs => unfold nextSequence
    rw [find_upsert SchedulerSequenceRow.scopeKey _ counted rfl]
    by_cases here : key = scopeKey
    · subst here
      simp
    · simp [here, Ne.symm here, nextSequence]

theorem reoffered_state
    (done : recoverActiveJob environment store request = .ok (some (.reoffer job))) :
    job.state ≠ .queued := by
  have listed : ∀ jobs, recoverFrom environment store request jobs = .ok (some (.reoffer job)) →
      job ∈ jobs := by
    intro jobs
    induction jobs with
    | nil => exact fun absent => nomatch absent
    | cons first rest ih =>
      intro found
      simp only [recoverFrom, eq_ok] at found
      obtain ⟨_, _, _, _, _, _, found⟩ := found
      split at found
      · exact mem_cons_of_mem first (ih found)
      · split at found
        · split at found
          · exact mem_cons_of_mem first (ih found)
          · cases found
            exact mem_cons_self
        · rw [bind_eq_ok] at found
          obtain ⟨_, _, found⟩ := found
          split at found
          · exact mem_cons_of_mem first (ih found)
          · split at found <;> cases found
  simp only [recoverActiveJob, listRepositoryJobs, eq_ok] at done
  obtain ⟨jobs, ⟨_, _, _, _, read⟩, found⟩ := done
  obtain ⟨row, member, completed⟩ := mem_of_mapM read job (listed jobs found)
  have present := (perm_insertionSort _ _).mem_iff.mp (mem_of_mem_take member)
  have chosen := (mem_filter.mp present).2
  simp only [Bool.and_eq_true, isEmpty_cons, Bool.false_or, contains_iff_mem,
    mem_cons, not_mem_nil, or_false] at chosen
  rw [completeRecord_eq_ok completed]
  intro queued
  have state : row.state = .queued := queued
  rcases chosen.2 with leased | running
  · exact nomatch state.symm.trans leased
  · exact nomatch state.symm.trans running

theorem selectQueued_eq_ok
    (done : selectQueued host environment store request selection = .ok (some job)) :
    Chosen host environment store request selection job.scope := by
  cases selection with
  | any =>
    obtain ⟨row, found, rfl⟩ := completeFound_eq_some done
    exact ⟨none, row, fun _ => rfl, found, rfl⟩
  | admitted jobId =>
    obtain ⟨row, found, rfl⟩ := completeFound_eq_some done
    exact ⟨some jobId, row, (fun other => nomatch other), found, rfl⟩
  | none => cases done

variable {scope : RepositorySchedulerScope}

theorem lastSequence_le_of_ready {worker : String} {other : ExecutionJobRow}
    (found : readyRow host environment store scope worker instance_ admitted true = some row)
    (member : other ∈ store.queue.jobs.rows)
    (ready : isReady host environment store.queue scope worker instance_ admitted true other =
      true) : lastSequence store (repositoryScopeKey scope) row.scope.productSessionId
        (deliveryKey row.scope) ≤
      lastSequence store (repositoryScopeKey scope) other.scope.productSessionId
        (deliveryKey other.scope) := by
  have ordered := le_of_mem_argmin (mem_filter.mpr ⟨member, ready⟩) found
  rw [dispatchOrder, dispatchOrder, Prod.Lex.toLex_le_toLex] at ordered
  rcases ordered with less | ⟨same, _⟩
  · exact le_of_lt less
  · exact Nat.le_of_eq same

section
variable (kept : Scoped store.queue)
include kept

theorem Claimed.unchanged (stale : ∀ receipt, answer = some receipt → isFresh receipt = false) :
    Claimed host environment store request selection store answer :=
  ⟨kept, .quiet answer ⟨rfl, rfl⟩ stale⟩

theorem claimReadyJob_eq_ok
    (done : claimReadyJob host environment store request job = .ok (next, receipt)) :
    Scoped next.queue ∧ Unstamped store next ∧ receipt.job.scope = job.scope ∧
      isFresh receipt = true := by
  simp only [claimReadyJob, eq_ok, Prod.mk.injEq] at done
  obtain ⟨_, _, _, transitioned, rfl, rfl⟩ := done
  have mutated := kept.transition transitioned
  exact ⟨mutated.kept, ⟨rfl, rfl⟩, mutated.answered, rfl⟩

theorem replacementReceipt_eq_ok {lease : ExecutionLeaseRecord}
    (done : replacementReceipt host environment store request job lease = .ok (next, receipt)) :
    Scoped next.queue ∧ Unstamped store next ∧ receipt.recovered = true := by
  simp only [replacementReceipt, eq_ok, Prod.mk.injEq] at done
  obtain ⟨_, _, _, _, _, _, _, _, _, _, _, _, _, replaced, _, _, _, _, _, _, rfl, rfl⟩ := done
  exact ⟨(kept.replace replaced).kept, ⟨rfl, rfl⟩, rfl⟩

end

section
variable (kept : Scoped middle.queue) (unstamped : Unstamped store middle)
include kept unstamped

theorem Claimed.recovered (old : receipt.recovered)
    (recording : recordDispatch middle request receipt true = .ok recorded)
    (noted : insertDriveReceipt host recorded request (some receipt) = .ok next) :
    Claimed host environment store request selection next (some receipt) := by
  simp only [recordDispatch, eq_ok] at recording
  obtain ⟨_, offering, rest⟩ := recording
  cases rest
  obtain ⟨offerQueue, offered⟩ := recordOffer_eq_ok offering
  obtain ⟨noteQueue, kept'⟩ := insertDriveReceipt_eq_ok noted
  refine ⟨noteQueue ▸ offerQueue ▸ kept, .quiet _ ((unstamped.trans offered).trans kept') ?_⟩
  rintro _ ⟨⟩
  simp [isFresh, old]

theorem Claimed.ready (new : isFresh receipt)
    (chosen : Chosen host environment store request selection receipt.job.scope)
    (recording : recordDispatch middle request receipt false = .ok recorded)
    (noted : insertDriveReceipt host recorded request (some receipt) = .ok next) :
    Claimed host environment store request selection next (some receipt) := by
  simp only [recordDispatch, eq_ok] at recording
  obtain ⟨_, offering, rest⟩ := recording
  rw [if_neg Bool.false_ne_true] at rest
  obtain ⟨offerQueue, offered⟩ := recordOffer_eq_ok offering
  obtain ⟨stampQueue, stamped, counted⟩ := recordFairDispatch_eq_ok rest
  obtain ⟨noteQueue, kept'⟩ := insertDriveReceipt_eq_ok noted
  have before := unstamped.trans offered
  refine ⟨noteQueue ▸ stampQueue ▸ offerQueue ▸ kept, .fresh receipt ⟨new, chosen, ?_, ?_⟩⟩
  · intro _ _ _
    rw [kept'.last, stamped, before.last, before.following]
  · intro _
    rw [kept'.following, counted, before.following]

end

section
variable (kept : Scoped store.queue)
include kept

theorem Claimed.dispatchOrNone {selected : Option ActiveJobRecovery}
    (chosen : ∀ job, selected = some (.reoffer job) → job.state = .queued →
      Chosen host environment store request selection job.scope)
    (done : dispatchOrNone host environment store request selected = .ok (next, answer)) :
    Claimed host environment store request selection next answer := by
  cases selected with
  | none =>
    simp only [RepositoryScheduler.dispatchOrNone, eq_ok, Prod.mk.injEq] at done
    obtain ⟨_, noted, rfl, rfl⟩ := done
    obtain ⟨queue, unstamped⟩ := insertDriveReceipt_eq_ok noted
    exact ⟨queue ▸ kept, .quiet _ unstamped fun _ absent => nomatch absent⟩
  | some recovery =>
    simp only [RepositoryScheduler.dispatchOrNone, eq_ok, Prod.mk.injEq] at done
    rcases done with ⟨⟨_, _, recovered⟩, dispatching, _, recording,
      noted, noting, rfl, rfl⟩
    cases recovery with
    | wait => cases dispatching
    | reoffer job =>
      simp only [dispatchSelected] at dispatching
      split at dispatching
      · rename_i queued
        simp only [eq_ok, Prod.mk.injEq] at dispatching
        obtain ⟨⟨_, _⟩, claiming, rfl, rfl, rfl⟩ := dispatching
        obtain ⟨scopes, unstamped, same, new⟩ := claimReadyJob_eq_ok kept claiming
        exact Claimed.ready scopes unstamped new (same ▸ chosen job rfl queued) recording noting
      · simp only [eq_ok, Prod.mk.injEq] at dispatching
        obtain ⟨⟨_, _⟩, recovering, rfl, rfl, rfl⟩ := dispatching
        simp only [recoveredReceipt, eq_ok, Prod.mk.injEq] at recovering
        obtain ⟨_, _, _, _, _, _, rfl, rfl⟩ := recovering
        exact Claimed.recovered kept ⟨rfl, rfl⟩ rfl recording noting
    | replace _ _ =>
      simp only [dispatchSelected, eq_ok, Prod.mk.injEq] at dispatching
      obtain ⟨⟨_, _⟩, replacing, rfl, rfl, rfl⟩ := dispatching
      obtain ⟨scopes, unstamped, old⟩ := replacementReceipt_eq_ok kept replacing
      exact Claimed.recovered scopes unstamped old recording noting

theorem claimFresh_eq_ok
    (done : claimFresh host environment store request newClaimAllowed selection =
      .ok (next, answer)) : Claimed host environment store request selection next answer := by
  rw [claimFresh, bind_eq_ok] at done
  obtain ⟨_, recovering, done⟩ := done
  have idle : Claimed host environment store request selection store none :=
    Claimed.unchanged kept fun _ absent => nomatch absent
  split at done
  · cases done
    exact idle
  · split at done
    · cases done
      exact idle
    · apply Claimed.dispatchOrNone kept _ done
      intro _ other
      exact nomatch some.inj other
  · apply Claimed.dispatchOrNone kept _ done
    rintro _ ⟨⟩ queued
    exact absurd queued (reoffered_state recovering)
  · split at done
    · cases done
      exact idle
    · rw [bind_eq_ok] at done
      obtain ⟨_, selecting, done⟩ := done
      apply Claimed.dispatchOrNone kept _ done
      intro _ selected _
      rw [map_eq_some_iff] at selected
      obtain ⟨_, rfl, same⟩ := selected
      cases same
      exact selectQueued_eq_ok selecting

theorem claimNextSelected_eq_ok
    (done : claimNextSelected host environment store request newClaimAllowed selection =
      .ok (next, answer)) : validateScope request.scope = .ok () ∧
      Claimed host environment store request selection next answer := by
  simp only [claimNextSelected, eq_ok] at done
  obtain ⟨_, valid, _, _, done⟩ := done
  simp only [validateClaimRequest, eq_ok] at valid
  refine ⟨valid.choose_spec.1, ?_⟩
  split at done
  · cases done
    apply Claimed.unchanged kept
    intro _ replay
    rw [map_eq_some_iff] at replay
    obtain ⟨_, _, rfl⟩ := replay
    rfl
  · exact claimFresh_eq_ok kept done

end

end Claims

/-! Runs. -/

inductive SchedulerEvent where
  | claim (request : RepositorySchedulerClaimRequest) (newClaimAllowed : Bool)
      (selection : QueuedJobSelection) (environment : SchedulerEnvironment)
  | submit (submission : ExecutionJobSubmission) (mode : ExecutionJobSubmissionMode)
  | transition (request : ExecutionJobTransitionRequest)
  | cancel (request : ExecutionJobCancellationRequest)
  | replace (current : ExecutionJobRecord) (requestId : String) (nextAttempt : Nat)
      (workRunId : Option String) (dispatchPayload : List UInt8) (occurredAt : String)
  | leases (registry : RegistryStore)
  | offers (offers : Table SchedulerOfferRow SchedulerOfferRow.Clash)

variable {event : SchedulerEvent}

section Runs
variable (host : SchedulerHost)

def queueAfter {Answer : Type} (store : SchedulerStore)
    (result : StorageResult (QueueStore × Answer)) : SchedulerStore :=
  { store with queue := (commit store.queue result).1 }

def step (store : SchedulerStore) : SchedulerEvent → SchedulerStore
  | .claim request newClaimAllowed selection environment =>
    (commit store (claimNextSelected host environment store request newClaimAllowed selection)).1
  | .submit submission mode =>
    queueAfter store (submitExecutionJob host.queueDigest store.queue
      submission mode)
  | .transition request =>
    queueAfter store (transitionExecutionJob host.queueDigest store.queue request)
  | .cancel request =>
    queueAfter store (cancelExecutionJob host.queueDigest store.queue request)
  | .replace current requestId nextAttempt workRunId dispatchPayload occurredAt =>
    queueAfter store (replaceExecutionJobAttempt host.queueDigest store.queue
      current requestId nextAttempt workRunId dispatchPayload occurredAt)
  | .leases registry => { store with registry := registry }
  | .offers offers => { store with offers := offers }

def dispatched (scope : RepositorySchedulerScope) (store : SchedulerStore) :
    SchedulerEvent → Option JobGroup
  | .claim request newClaimAllowed selection environment =>
    match claimNextSelected host environment store request newClaimAllowed selection with
    | .ok (_, some receipt) =>
      if request.scope = scope ∧ isFresh receipt = true then
        some (groupOf receipt.job.scope)
      else none
    | _ => none
  | _ => none

def dispatches (scope : RepositorySchedulerScope) :
    SchedulerStore → List SchedulerEvent → List JobGroup
  | _, [] => []
  | store, event :: rest =>
    (dispatched host scope store event).toList ++ dispatches scope (step host store event) rest

/-- A call of `claim_next` on the repository finds a ready job of the group. -/
def Waits (scope : RepositorySchedulerScope) (group : JobGroup) (store : SchedulerStore) :
    SchedulerEvent → Prop
  | .claim request _ selection environment => request.scope = scope → selection = .any ∧
      ∃ row ∈ store.queue.jobs.rows, isReady host environment store.queue scope request.workerId
        request.workerInstanceId none true row = true ∧ groupOf row.scope = group
  | _ => True

instance decidableWaits (scope : RepositorySchedulerScope) (group : JobGroup)
    (store : SchedulerStore) :
    (event : SchedulerEvent) → Decidable (Waits host scope group store event)
  | .claim _ _ _ _ => inferInstanceAs (Decidable (_ → _ ∧ _))
  | .submit .. | .transition _ | .cancel _ | .replace .. | .leases _ | .offers _ =>
    inferInstanceAs (Decidable True)

/-- Scopes are kept, and every stamp is below the next one. -/
structure Sound (store : SchedulerStore) : Prop where
  kept : Scoped store.queue
  sequenced : ∀ key session delivery,
    lastSequence store key session delivery < nextSequence store key

theorem Sound.empty : Sound SchedulerStore.empty :=
  ⟨Scoped.empty, fun _ _ _ => Nat.zero_lt_one⟩

variable {store : SchedulerStore} {scope : RepositorySchedulerScope}

def stamp (scope : RepositorySchedulerScope) (store : SchedulerStore) (group : JobGroup) : Nat :=
  lastSequence store (repositoryScopeKey scope) group.productSessionId (group.deliveryId.getD "")

section
variable (sound : Sound store)
include sound

theorem Sound.claimed {next : SchedulerStore} {environment : SchedulerEnvironment}
    {request : RepositorySchedulerClaimRequest} {selection : QueuedJobSelection}
    {answer : Option RepositorySchedulerClaimReceipt}
    (claimed : Claimed host environment store request selection next answer) : Sound next := by
  refine ⟨claimed.kept, ?_⟩
  intro key session delivery
  have before := sound.sequenced key session delivery
  cases claimed.outcome with
  | quiet _ unstamped _ =>
    rw [unstamped.last, unstamped.following]
    exact before
  | fresh _ dispatch =>
    rw [dispatch.stamped, dispatch.counted]
    split
    · rename_i here
      rw [here.1, if_pos rfl]
      exact Nat.lt_succ_self _
    · omega

theorem Sound.queueAfter {Answer : Type} {result : StorageResult (QueueStore × Answer)}
    (keeps : ∀ next answer, result = .ok (next, answer) → Scoped next) :
    Sound (queueAfter store result) :=
  ⟨commit_keeps sound.kept keeps, sound.sequenced⟩

theorem Sound.step (event : SchedulerEvent) : Sound (step host store event) := by
  cases event with
  | claim _ _ _ _ =>
    apply commit_keeps sound
    intro next _ done
    exact sound.claimed host (claimNextSelected_eq_ok sound.kept done).2
  | submit _ _ => exact sound.queueAfter fun next receipt done => sound.kept.submit done
  | transition _ =>
    exact sound.queueAfter fun next receipt done => (sound.kept.transition done).kept
  | cancel _ => exact sound.queueAfter fun next receipt done => (sound.kept.cancel done).kept
  | replace _ _ _ _ _ _ =>
    exact sound.queueAfter fun next receipt done => (sound.kept.replace done).kept
  | leases _ | offers _ => exact ⟨sound.kept, sound.sequenced⟩

theorem dispatched_eq_some {group : JobGroup}
    (found : dispatched host scope store event = some group) :
    ∃ request newClaimAllowed selection environment receipt,
      event = .claim request newClaimAllowed selection environment ∧ request.scope = scope ∧
        validateScope scope = .ok () ∧ groupOf receipt.job.scope = group ∧
        FreshDispatch host environment store request selection (step host store event) receipt := by
  cases event with
  | claim request newClaimAllowed selection environment =>
    simp only [dispatched] at found
    split at found
    · rename_i next receipt done
      split at found
      · rename_i fresh
        obtain ⟨valid, claimed⟩ := claimNextSelected_eq_ok sound.kept done
        refine ⟨request, newClaimAllowed, selection, environment, receipt, rfl, fresh.1,
          fresh.1 ▸ valid, some.inj found, ?_⟩
        have after : step host store (.claim request newClaimAllowed selection environment) =
            next := by
          rw [step, done]
          rfl
        rw [after]
        cases claimed.outcome with
        | quiet _ _ stale =>
          rw [stale receipt rfl] at fresh
          exact absurd fresh.2 Bool.false_ne_true
        | fresh _ dispatch => exact dispatch
      · cases found
    · cases found
  | _ => cases found

end

theorem stamp_of_none (valid : validateScope scope = .ok ()) (sound : Sound store)
    (absent : dispatched host scope store event = none) (group : JobGroup) :
    stamp scope (step host store event) group = stamp scope store group := by
  cases event with
  | claim request newClaimAllowed selection environment =>
    simp only [dispatched] at absent
    rw [step]
    cases done : claimNextSelected host environment store request newClaimAllowed selection with
    | error _ => rfl
    | ok success =>
      obtain ⟨_, _⟩ := success
      obtain ⟨requested, claimed⟩ := claimNextSelected_eq_ok sound.kept done
      cases claimed.outcome with
      | quiet _ unstamped _ => exact unstamped.last _ _ _
      | fresh _ dispatch =>
        have elsewhere : request.scope ≠ scope := by
          intro here
          rw [done] at absent
          simp [here, dispatch.new] at absent
        refine (dispatch.stamped _ _ _).trans (if_neg ?_)
        rintro ⟨same, _⟩
        exact elsewhere (repositoryScopeKey_injective valid requested same).symm
  | _ => rfl

/-- While a group waits, the others that are served had no larger stamp before, and each is
served once. -/
theorem served_once (valid : validateScope scope = .ok ()) {group : JobGroup}
    (sound : Sound store) {stretch : List SchedulerEvent}
    (waiting : Meets (step host) (Waits host scope group) store stretch)
    (passed : group ∉ dispatches host scope store stretch) :
    (dispatches host scope store stretch).Nodup ∧ ∀ other ∈ dispatches host scope store stretch,
        stamp scope store other ≤ stamp scope store group := by
  induction stretch generalizing store with
  | nil => exact ⟨nodup_nil, forall_mem_nil _⟩
  | cons event rest ih =>
    obtain ⟨waits, later⟩ := waiting
    rw [dispatches, mem_append, not_or] at passed
    obtain ⟨once, smaller⟩ := ih (sound.step host event) later passed.2
    rw [dispatches]
    cases found : dispatched host scope store event with
    | none =>
      have same := stamp_of_none host valid sound found
      simp only [same] at smaller
      exact ⟨once, smaller⟩
    | some served =>
      rcases dispatched_eq_some host sound found with ⟨request, newClaimAllowed, selection,
        environment, receipt, rfl, rfl, _, known, dispatch⟩
      obtain ⟨unselected, row, member, ready, grouped⟩ := waits rfl
      obtain ⟨_, chosen, unbound, least, about⟩ := dispatch.chosen
      rw [unbound unselected] at least
      -- The chosen job has the smallest stamp of all ready ones, and the waiting one is ready.
      have before : stamp request.scope store served ≤ stamp request.scope store group := by
        rw [← known, ← grouped, about]
        exact lastSequence_le_of_ready least member ready
      -- The waiting group has a fairness row of its own, so only the served one is stamped.
      have own : ¬ (group.productSessionId = receipt.job.scope.productSessionId ∧
          group.deliveryId.getD "" = deliveryKey receipt.job.scope) := by
        rintro ⟨session, delivery⟩
        apply passed.1
        rw [← grouped, about] at session delivery
        rw [found, ← known, ← grouped, about, mem_toList]
        exact congrArg some (groupOf_eq (sound.kept.jobs row member)
          (sound.kept.jobs chosen (mem_filter.mp (argmin_mem least)).1) session delivery).symm
      have held : stamp request.scope
          (step host store (.claim request newClaimAllowed selection environment)) group =
            stamp request.scope store group :=
        (dispatch.stamped _ _ _).trans (if_neg fun here => own here.2)
      have below : ∀ key, stamp request.scope store key <
          nextSequence store (repositoryScopeKey request.scope) :=
        fun key => sound.sequenced _ _ _
      -- The new stamp is above the waiting group's, so the served group is not served again.
      have raised : ∀ other ∈ dispatches host request.scope
          (step host store (.claim request newClaimAllowed selection environment)) rest,
          ¬ (other.productSessionId = receipt.job.scope.productSessionId ∧
            other.deliveryId.getD "" = deliveryKey receipt.job.scope) := by
        intro other served same
        have stamped := dispatch.stamped (repositoryScopeKey request.scope)
          other.productSessionId (other.deliveryId.getD "")
        rw [if_pos ⟨rfl, same⟩] at stamped
        have bound := smaller other served
        rw [held, stamp, stamped] at bound
        exact absurd bound (Nat.not_le_of_lt (below group))
      rw [toList_some, singleton_append, nodup_cons, forall_mem_cons]
      refine ⟨⟨?_, once⟩, before, ?_⟩
      · intro again
        apply raised served again
        rw [← known]
        exact ⟨rfl, rfl⟩
      · intro other member
        have unstamped := dispatch.stamped (repositoryScopeKey request.scope)
          other.productSessionId (other.deliveryId.getD "")
        rw [if_neg fun here => raised other member here.2] at unstamped
        have bound := smaller other member
        rw [held, stamp, unstamped] at bound
        exact bound

theorem dispatches_of_invalid (invalid : validateScope scope ≠ .ok ())
    (sound : Sound store) (events : List SchedulerEvent) :
    dispatches host scope store events = [] := by
  induction events generalizing store with
  | nil => rfl
  | cons event _ ih =>
    rw [dispatches, ih (sound.step host event), append_nil]
    cases found : dispatched host scope store event with
    | none => rfl
    | some _ =>
      obtain ⟨_, _, _, _, _, _, _, valid, _⟩ := dispatched_eq_some host sound found
      exact absurd valid invalid

/-- Bounded overtaking: in a stretch of a run in which every call of `claim_next` on the
repository finds a ready job of a group, and none of the fresh dispatches goes to that group,
no group is served twice. -/
theorem bounded_overtaking (scope : RepositorySchedulerScope) (group : JobGroup)
    (before stretch : List SchedulerEvent) (waiting : Meets (step host) (Waits host scope group)
      (after (step host) .empty before) stretch) (passed : group ∉ dispatches host scope
      (after (step host) .empty before) stretch) :
    (dispatches host scope (after (step host) .empty before) stretch).Nodup := by
  have sound : Sound (after (step host) .empty before) := by
    apply after_invariant
    · intro _ event sound
      exact Sound.step host sound event
    · exact Sound.empty
  by_cases valid : validateScope scope = .ok ()
  · exact (served_once host valid sound waiting passed).1
  · rw [dispatches_of_invalid host valid sound]
    exact nodup_nil

end Runs

/-! Three sessions, and two calls that pass the second one over. -/

def sampleHost : SchedulerHost where
  digest _ := "digest"
  queueDigest _ := "digest"
  registryDigest _ := "digest"
  derivedIdentifier _ identity head :=
    head ++ "_" ++ String.ofList ((identity.toList.drop 4).take 26)
  hasDeviceTarget _ := false
  replacementDispatchPayload _ := .error (.adapter "no replacement")
  logicalDispatchDigest _ := .ok "digest"

def sampleEnvironment : SchedulerEnvironment where
  workers := ⟨fun _ => .ok (some "wki_00000000000000000000000001"), fun _ _ => true,
    fun _ _ => .ok none, fun _ => .ok true⟩
  deviceFacts _ := []
  recoveryReady _ _ _ := .ok true
  slotAuthority _ := .ok none
  fenceWorkerSession _ _ := .ok ()
  insertScopeReplacement _ := .ok ()
  commitRecovery _ _ _ _ := .ok ()

def sampleScope : RepositorySchedulerScope where
  organizationId := "org_00000000000000000000000001"
  workspaceId := "wsp_00000000000000000000000001"
  projectId := "prj_00000000000000000000000001"
  repositoryId := "rep_00000000000000000000000001"

def sampleSession (last : String) : String := "psn_0000000000000000000000000" ++ last

def sampleSubmission (session last : String) : SchedulerEvent :=
  .submit
    { scope := ⟨sampleScope.organizationId, sampleScope.workspaceId, sampleScope.projectId,
        sampleScope.repositoryId, sampleSession session, none⟩
      jobId := "job_0000000000000000000000000" ++ last
      requestId := "req_A000000000000000000000000" ++ last
      payloadDigest := "sha256:aaaaaaaaaaaaaaaaaaaaaaaaaaaaaaaaaaaaaaaaaaaaaaaaaaaaaaaaaaaaaaaa"
      dispatchPayload := [0]
      attempt := 1
      dependencies := []
      workRunId := none
      submittedAt := "2027-01-01T00:00:0" ++ last ++ ".000Z" } .submitOrReplay

def sampleRequest (last : String) : RepositorySchedulerClaimRequest where
  scope := sampleScope
  requestId := "req_B000000000000000000000000" ++ last
  schedulerGeneration := "generation"
  workerId := "wrk_00000000000000000000000001"
  workerInstanceId := "wki_00000000000000000000000001"
  issuedAt := "2027-01-01T01:00:00.000Z"
  expiresAt := "2027-01-01T02:00:00.000Z"

def sampleClaim (last : String) : SchedulerEvent :=
  .claim (sampleRequest last) true .any sampleEnvironment

def sampleSubmissions : List SchedulerEvent :=
  [sampleSubmission "1" "1", sampleSubmission "3" "2", sampleSubmission "2" "3"]

def sampleClaims : List SchedulerEvent := [sampleClaim "1", sampleClaim "2"]

theorem sample_run :
    Meets (step sampleHost) (Waits sampleHost sampleScope ⟨sampleSession "2", none⟩)
        (after (step sampleHost) .empty sampleSubmissions) sampleClaims ∧
      dispatches sampleHost sampleScope
          (after (step sampleHost) .empty sampleSubmissions) sampleClaims =
        [⟨sampleSession "1", none⟩, ⟨sampleSession "3", none⟩] := by
  decide +kernel

theorem bounded_overtaking_two_served : (dispatches sampleHost sampleScope
      (after (step sampleHost) .empty sampleSubmissions) sampleClaims).Nodup :=
  bounded_overtaking sampleHost sampleScope ⟨sampleSession "2", none⟩ sampleSubmissions
    sampleClaims sample_run.1 (by rw [sample_run.2]; decide)

/-! Repeated claims. -/

section Receipts
variable {host : SchedulerHost} {environment : SchedulerEnvironment} {newClaimAllowed : Bool}
  {store next : SchedulerStore} {request : RepositorySchedulerClaimRequest}
  {selection : QueuedJobSelection} {answer : Option RepositorySchedulerClaimReceipt}
  {receipt : RepositorySchedulerClaimReceipt} {recovered : Bool}

/-- The receipt of a request that was claimed with before. -/
def driveOf (store : SchedulerStore) (request : RepositorySchedulerClaimRequest) :
    Option DriveReceiptRow :=
  store.drives.find fun row =>
    row.scopeKey == repositoryScopeKey request.scope && row.requestId == request.requestId

theorem dispatchSelected_drives {selected : ActiveJobRecovery}
    (done : dispatchSelected host environment store request selected =
      .ok (next, receipt, recovered)) : next.drives = store.drives := by
  cases selected with
  | wait => cases done
  | reoffer _ =>
    simp only [dispatchSelected, claimReadyJob, recoveredReceipt] at done
    split at done <;> simp only [eq_ok, Prod.mk.injEq] at done <;> grind
  | replace _ _ =>
    simp only [dispatchSelected, replacementReceipt, eq_ok, Prod.mk.injEq] at done
    grind

theorem recordDispatch_drives (done : recordDispatch store request receipt recovered = .ok next) :
    next.drives = store.drives := by
  simp only [recordDispatch, recordOffer, recordFairDispatch, eq_ok] at done
  obtain ⟨_, ⟨_, _, rfl⟩, done⟩ := done
  split at done
  · cases done
    rfl
  · simp only [eq_ok] at done
    grind

/-- A claim that waits answers nothing and notes nothing; any other notes its answer. -/
theorem claimFresh_drives
    (done : claimFresh host environment store request newClaimAllowed selection =
      .ok (next, answer)) : (next = store ∧ answer = none) ∨
        next.drives.rows = store.drives.rows ++
          [⟨repositoryScopeKey request.scope, request.requestId, host.digest request, answer⟩] := by
  rw [or_iff_not_imp_left]
  intro noted
  have dispatched : ∃ selected,
      dispatchOrNone host environment store request selected = .ok (next, answer) := by
    rw [claimFresh, bind_eq_ok] at done
    obtain ⟨_, _, done⟩ := done
    grind [bind_eq_ok]
  obtain ⟨selected, done⟩ := dispatched
  cases selected with
  | none =>
    simp only [dispatchOrNone, insertDriveReceipt, eq_ok, Prod.mk.injEq] at done
    obtain ⟨_, ⟨_, inserted, rfl⟩, rfl, rfl⟩ := done
    exact (insert_eq_some.mp inserted).2
  | some _ =>
    simp only [dispatchOrNone, insertDriveReceipt, eq_ok, Prod.mk.injEq] at done
    obtain ⟨⟨_, _, _⟩, selecting, _, recording, _, ⟨_, inserted, rfl⟩, rfl, rfl⟩ := done
    rw [(insert_eq_some.mp inserted).2, recordDispatch_drives recording,
      dispatchSelected_drives selecting]

/-- No event takes a receipt away or changes it. -/
theorem step_driveOf (host : SchedulerHost) (store : SchedulerStore) (event : SchedulerEvent)
    {row : DriveReceiptRow} (found : driveOf store request = some row) :
    driveOf (step host store event) request = some row := by
  cases event with
  | claim _ _ _ _ =>
    apply @commit_keeps _ _ _ (driveOf · request = some row) _ _ found
    intro next answer done
    simp only [claimNextSelected, eq_ok] at done
    obtain ⟨_, _, _, _, done⟩ := done
    split at done
    · cases done
      exact found
    · rcases claimFresh_drives done with ⟨rfl, _⟩ | noted
      · exact found
      · rw [driveOf, find, noted, find?_append]
        exact Option.or_eq_some_iff.mpr (.inl found)
  | submit _ _ | transition _ | cancel _ | replace _ _ _ _ _ _ | leases _ | offers _ => exact found

/-- A claim that was answered with a job is answered with it ever after: in every later state,
for any facts and any selection, the repeated request returns the same receipt and
changes nothing. -/
theorem claims_replay
    (done : claimNextSelected host environment store request newClaimAllowed selection =
      .ok (next, some receipt)) (events : List SchedulerEvent) (facts : SchedulerEnvironment)
    (allowed : Bool) (chosen : QueuedJobSelection) :
    claimNextSelected host facts (after (step host) next events) request allowed chosen =
      .ok (after (step host) next events, some { receipt with replayed := true }) := by
  have noted : validateClaimRequest request = .ok () ∧ ∃ row, driveOf next request = some row ∧
      row.requestDigest = host.digest request ∧
      (row.response.map fun receipt => { receipt with replayed := true }) =
        some { receipt with replayed := true } := by
    simp only [claimNextSelected, eq_ok] at done
    obtain ⟨_, valid, replay, replaying, done⟩ := done
    refine ⟨valid, ?_⟩
    unfold replayDriveReceipt at replaying
    split at replaying
    · rename_i missing
      cases replaying
      rcases claimFresh_drives done with ⟨_, absent⟩ | noted
      · cases absent
      · refine ⟨⟨repositoryScopeKey request.scope, request.requestId, host.digest request,
          some receipt⟩, ?_, rfl, rfl⟩
        rw [driveOf, find, noted, find?_append]
        exact Option.or_eq_some_iff.mpr (.inr ⟨missing, by simp⟩)
    · rename_i row found
      simp only [eq_ok, not_not] at replaying
      obtain ⟨_, same, rfl⟩ := replaying
      simp only [Except.ok.injEq, Prod.mk.injEq, map_eq_some_iff] at done
      obtain ⟨rfl, original, response, rfl⟩ := done
      exact ⟨row, found, same, by rw [response]; rfl⟩
  obtain ⟨valid, row, found, same, answers⟩ := noted
  have kept : driveOf (after (step host) next events) request = some row :=
    after_invariant _ (fun store event => step_driveOf host store event) found events
  unfold driveOf at kept
  simp only [← answers, claimNextSelected, replayDriveReceipt, kept, eq_ok, not_not]
  exact ⟨(), valid, _, ⟨(), same, rfl⟩, rfl⟩

end Receipts

def laterEvents : List SchedulerEvent := [sampleSubmission "2" "2", sampleClaim "2"]

/-- The claim is repeated after another job was submitted and claimed. -/
theorem claims_replay_later : ∃ next receipt,
    claimNextSelected sampleHost sampleEnvironment
        (step sampleHost .empty (sampleSubmission "1" "1")) (sampleRequest "1")
        true .any = .ok (next, some receipt) ∧
      claimNextSelected sampleHost sampleEnvironment (after (step sampleHost) next laterEvents)
          (sampleRequest "1") false .none = .ok (after (step sampleHost) next laterEvents,
          some { receipt with replayed := true }) := by
  have served : ((claimNextSelected sampleHost sampleEnvironment
      (step sampleHost .empty (sampleSubmission "1" "1")) (sampleRequest "1")
      true .any).toOption.bind (·.2)).isSome := by
    decide +kernel
  generalize done : claimNextSelected _ _ _ _ _ _ = answer at served
  rcases answer with _ | ⟨next, _ | receipt⟩
  · cases served
  · cases served
  · exact ⟨next, receipt, rfl, claims_replay done laterEvents sampleEnvironment false .none⟩

end RepositoryScheduler

end WinWinCode.Storage
