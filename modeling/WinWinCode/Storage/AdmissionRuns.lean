import WinWinCode.Foundation.Runs
import WinWinCode.Storage.AdmissionCharges

/-!
Runs of the admission ledger without usage reports: policies are configured, jobs
reserve, start, and are released or settled. `Moves` is the lifecycle of a
reservation on its own, and `Outcome` says everything one operation can do to the
tables. Each operation is shown to be such an outcome once, and every invariant is
derived from that.
-/

namespace WinWinCode.Storage

open Fallible Tables ExecutionAdmission List Table

variable {row : ExecutionReservationRecord}

namespace ExecutionReservationRecord

/-- The moves of a reservation; it ends within what it reserved. -/
inductive Moves (row : ExecutionReservationRecord) : ExecutionReservationProgress → Prop
  | started (now : String) (source : row.state = .queued) :
      Moves row (transition .running now (some now) none none row.toExecutionReservationProgress)
  | released (reason : ExecutionReservationReleaseReason) (now : String)
      (source : row.state = .queued ∨ row.state = .running) :
      Moves row (transition .released now row.startedAt (some now) (some reason)
        row.toExecutionReservationProgress)
  | settled (request : ExecutionReservationSettlement) (source : row.state = .running)
      (tokens : exceeds row.reservedTokens request.actualTokens = false)
      (cost : ∀ spent, request.actualCostMicrounits = some spent →
        exceeds row.reservedCostMicrounits spent = false) :
      Moves row (settled request row.toExecutionReservationProgress)

variable {progress : ExecutionReservationProgress}

theorem Moves.live (move : row.Moves progress) : row.state = .queued ∨ row.state = .running := by
  cases move with
  | started _ source => exact .inl source
  | released _ _ source => exact source
  | settled _ source _ _ => exact .inr source

def movedTo (row : ExecutionReservationRecord) (progress : ExecutionReservationProgress) :
    ExecutionReservationRecord :=
  row.advanced fun _ => progress

@[simp] theorem movedTo_claim (row : ExecutionReservationRecord)
    (progress : ExecutionReservationProgress) :
    (row.movedTo progress).toExecutionReservationClaim = row.toExecutionReservationClaim := rfl

@[simp] theorem movedTo_progress (row : ExecutionReservationRecord)
    (progress : ExecutionReservationProgress) :
    (row.movedTo progress).toExecutionReservationProgress = progress := rfl

def replaced (current : ExecutionReservationRecord) (progress : ExecutionReservationProgress) :
    List ExecutionReservationRecord → List ExecutionReservationRecord :=
  List.map (Table.alter (· == current) (·.movedTo progress))

theorem mem_replaced {current : ExecutionReservationRecord}
    {rows : List ExecutionReservationRecord} : row ∈ replaced current progress rows ↔
      (row ∈ rows ∧ row ≠ current) ∨ (current ∈ rows ∧ row = current.movedTo progress) := by
  rw [replaced, mem_map]
  constructor
  · rintro ⟨old, present, rfl⟩
    by_cases same : old = current
    · exact .inr ⟨same ▸ present, by simp [Table.alter, same]⟩
    · exact .inl (by simpa [Table.alter, same] using present)
  · rintro (⟨present, different⟩ | ⟨present, rfl⟩)
    · exact ⟨row, present, by simp [Table.alter, different]⟩
    · exact ⟨current, present, by simp [Table.alter]⟩

end ExecutionReservationRecord

variable {revision : Nat} {pool missing : String}

namespace ExecutionAdmission

open ExecutionReservationRecord

def owedRows (job requestId : String) (progress : ExecutionReservationProgress) :
    List ReconciliationRow :=
  match progress.state, progress.actualTokens, progress.actualRuntimeMillis,
    progress.actualCostMicrounits with
  | .settled, some tokens, some runtime, none =>
    [pendingReconciliation job requestId (tokenUsage tokens runtime)]
  | _, _, _, _ => []

variable {requestId scopeKey requestDigest job : String} {store next : AdmissionStore}
  {scope : ExecutionQueueScope} {current : ExecutionReservationRecord}
  {receipt : ExecutionAdmissionReceipt} {digest : Digest}

theorem mem_owedRows {progress : ExecutionReservationProgress} {owed : ReconciliationRow} :
    owed ∈ owedRows job requestId progress ↔ ∃ tokens runtime, progress.state = .settled ∧
      progress.actualTokens = some tokens ∧ progress.actualRuntimeMillis = some runtime ∧
        progress.actualCostMicrounits = none ∧
          owed = pendingReconciliation job requestId (tokenUsage tokens runtime) := by
  unfold owedRows
  split
  · rename_i tokens runtime state known ran cost
    simp [state, known, ran, cost]
  · rename_i other
    simp only [not_mem_nil, false_iff]
    rintro ⟨tokens, runtime, state, known, ran, cost, _⟩
    exact other tokens runtime state known ran cost

inductive Outcome (digest : Digest) (store : AdmissionStore) : AdmissionStore → Prop
  | still : Outcome digest store store
  | configured (policy : ExecutionAdmissionPolicy)
      (policies : Table AdmissionPolicyRow AdmissionPolicyRow.Clash)
      (fresh : store.policyRow (boundaryKey digest policy.boundary) = none)
      (inserted : policies.rows =
        store.policies.rows ++ [⟨boundaryKey digest policy.boundary, policy⟩]) :
      Outcome digest store { store with policies := policies }
  | admitted (request : ExecutionReservationRequest)
      (reservations : Table ExecutionReservationRecord ExecutionReservationRecord.Clash)
      (boundaries : Table ReservationBoundaryRow ReservationBoundaryRow.Clash)
      (receipts : Table AdmissionReceiptRow AdmissionReceiptRow.Clash)
      (fresh : store.reservationRow request.jobId = none)
      (capacity : ∀ boundary ∈ (queuedReservation request).boundaries,
        ensureBoundary digest store request boundary = .ok ())
      (inserted : reservations.rows = store.reservations.rows ++ [queuedReservation request])
      (placed : boundaries.rows = store.reservationBoundaries.rows ++
        placedRows digest request.jobId (queuedReservation request).boundaries 0)
      (receipted : store.receipts.rows ⊆ receipts.rows) :
      Outcome digest store { store with
        reservations := reservations
        reservationBoundaries := boundaries
        receipts := receipts }
  | moved (current : ExecutionReservationRecord) (progress : ExecutionReservationProgress)
      (requestId : String)
      (reservations : Table ExecutionReservationRecord ExecutionReservationRecord.Clash)
      (receipts : Table AdmissionReceiptRow AdmissionReceiptRow.Clash)
      (sources : Table SettlementSourceRow SettlementSourceRow.Clash)
      (reconciliation : Table ReconciliationRow ReconciliationRow.Clash)
      (member : current ∈ store.reservations.rows) (move : current.Moves progress)
      (gate : progress.state = .running →
        (∀ boundary ∈ current.boundaries, ensureConcurrency digest store boundary = .ok ()) ∧
          hasRepositoryWriteConflict store current = false)
      (updated : reservations.rows = replaced current progress store.reservations.rows)
      (owed : reconciliation.rows =
        store.reconciliation.rows ++ owedRows current.jobId requestId progress)
      (receipted : store.receipts.rows ⊆ receipts.rows) :
      Outcome digest store { store with
        reservations := reservations
        receipts := receipts
        settlementSources := sources
        reconciliation := reconciliation }

/-! What the helpers of the operations establish. -/

theorem loadScopedReservation_eq_ok {missing : ExecutionAdmissionError}
    (done : loadScopedReservation store scope pool job missing = .ok row) :
    row ∈ store.reservations.rows ∧ row.jobId = job ∧ row.scope = scope ∧
      row.workerPoolId = pool ∧ validateStoredReservation row = .ok () := by
  rw [loadScopedReservation, okOr_bind_eq_ok] at done
  obtain ⟨_, known, completed⟩ := done
  rw [completeReservation, bind_eq_ok] at completed
  obtain ⟨_, valid, same⟩ := completed
  obtain ⟨member, hit⟩ := find_eq_some known
  simp only [isScoped, Bool.and_eq_true, beq_iff_eq] at hit
  cases same
  exact ⟨member, hit.1.1, hit.1.2, hit.2, valid⟩

theorem validateRevisionTime_eq_ok {now : String} {done : Unit}
    (passed : validateRevisionTime current revision now = .ok done) :
    current.revision = revision := by
  rw [validateRevisionTime, refuse_bind_eq_ok] at passed
  exact not_not.mp passed.1

variable {state : ExecutionReservationState}

theorem validateRevisionStateTime_eq_ok {now : String} {done : Unit}
    (passed : validateRevisionStateTime current revision state now = .ok done) :
    current.revision = revision ∧ current.state = state := by
  rw [validateRevisionStateTime, bind_eq_ok] at passed
  obtain ⟨_, revised, same⟩ := passed
  exact ⟨validateRevisionTime_eq_ok revised, not_not.mp (refuse_eq_ok.mp same)⟩

/-- The compare-and-swap moves the row it was computed from. -/
theorem executeUpdate_eq_ok {change : ExecutionReservationProgress → ExecutionReservationProgress}
    {lost : String} (member : current ∈ store.reservations.rows)
    (here : selects job revision state current)
    (done : executeUpdate store job revision state change lost = .ok next) :
    ∃ reservations, next = { store with reservations := reservations } ∧
      reservations.rows = replaced current (change current.toExecutionReservationProgress)
        store.reservations.rows := by
  rw [executeUpdate, refuse_bind_eq_ok] at done
  refine ⟨_, (Except.ok.inj done.2).symm, ?_⟩
  rw [updateWhere_rows, replaced, map_inj_left]
  intro row present
  by_cases same : row = current
  · simp [Table.alter, same, here, movedTo, advanced]
  · -- another selected row would have the same job
    have other : selects job revision state row = false := by
      rw [Bool.eq_false_iff]
      intro hit
      simp only [selects, Bool.and_eq_true, beq_iff_eq] at hit here
      exact same (store.reservations.eq_of_clash (fun _ _ => Eq.symm) present member
        (hit.1.1.trans here.1.1.symm))
    simp [Table.alter, same, other]

theorem finishMutation_eq_ok
    (done : finishMutation store scopeKey scope pool job requestId requestDigest missing =
      .ok (next, receipt)) : ∃ receipts, next = { store with receipts := receipts } ∧
      receipts.rows = store.receipts.rows ++ [⟨scopeKey, requestId, requestDigest, receipt⟩] ∧
      validateStoredReservation receipt.reservation = .ok () := by
  rw [finishMutation, bind_eq_ok] at done
  obtain ⟨_, loaded, rest⟩ := done
  rw [okOr_bind_eq_ok] at rest
  obtain ⟨receipts, inserted, same⟩ := rest
  cases same
  exact ⟨receipts, rfl, (insert_eq_some.mp inserted).2,
    (loadScopedReservation_eq_ok loaded).2.2.2.2⟩

/-- A request was answered with a reservation, and the receipt is kept. -/
def Recorded (store : AdmissionStore) (scopeKey requestId requestDigest : String)
    (reservation : ExecutionReservationRecord) : Prop :=
  validateStoredReservation reservation = .ok () ∧
    ∃ row ∈ store.receipts.rows, row.scopeKey = scopeKey ∧ row.requestId = requestId ∧
      row.requestDigest = requestDigest ∧ row.response.reservation = reservation

variable {reservation : ExecutionReservationRecord}

section
variable (recorded : Recorded store scopeKey requestId requestDigest reservation)
include recorded

theorem Recorded.grow (kept : store.receipts.rows ⊆ next.receipts.rows) :
    Recorded next scopeKey requestId requestDigest reservation := by
  obtain ⟨valid, row, member, facts⟩ := recorded
  exact ⟨valid, row, kept member, facts⟩

theorem Recorded.replay (operation : AdmissionAnswer) :
    replayOr store scopeKey requestId requestDigest operation =
      .ok (store, ⟨reservation, true⟩) := by
  obtain ⟨valid, row, member, scope, id, body, same⟩ := recorded
  have found : receiptRow store scopeKey requestId = some row := by
    have hit : ∃ kept, receiptRow store scopeKey requestId = some kept :=
      find_isSome member (by simp [scope, id])
    obtain ⟨_, known⟩ := hit
    obtain ⟨present, hit⟩ := find_eq_some known
    simp only [Bool.and_eq_true, beq_iff_eq] at hit
    rw [known, store.receipts.eq_of_clash (fun _ _ => And.imp Eq.symm Eq.symm)
      present member ⟨hit.1.trans scope.symm, hit.2.trans id.symm⟩]
  simp [replayOr, found, completeReceipt, refuse, body, same, valid, bind, Except.bind, pure,
    Except.pure]

end

theorem finishMutation_recorded
    (done : finishMutation store scopeKey scope pool job requestId requestDigest missing =
      .ok (next, receipt)) :
    Recorded next scopeKey requestId requestDigest receipt.reservation := by
  obtain ⟨_, rfl, rows, valid⟩ := finishMutation_eq_ok done
  exact ⟨valid, _, by rw [rows]; exact mem_concat_self, rfl, rfl, rfl, rfl⟩

/-! Each operation as an outcome. -/

theorem configurePolicy_outcome {policy : ExecutionAdmissionPolicy} {fresh : Bool}
    (done : configurePolicy digest store policy = .ok (next, fresh)) :
    Outcome digest store next := by
  rw [configurePolicy, bind_eq_ok] at done
  obtain ⟨_, _, done⟩ := done
  split at done
  · rename_i row found
    rw [bind_eq_ok] at done
    obtain ⟨_, _, done⟩ := done
    rw [refuse_bind_eq_ok] at done
    cases done.2
    exact .still
  · rename_i absent
    rw [okOr_bind_eq_ok] at done
    obtain ⟨policies, inserted, same⟩ := done
    cases same
    exact .configured policy policies absent (insert_eq_some.mp inserted).2

theorem reserveNew_outcome {request : ExecutionReservationRequest}
    (done : reserveNew digest store request = .ok (next, receipt)) : Outcome digest store next := by
  rw [reserveNew, refuse_bind_eq_ok, bind_eq_ok] at done
  obtain ⟨absent, _, capacity, done⟩ := done
  rw [bind_eq_ok] at done
  obtain ⟨_, insertion, finished⟩ := done
  rw [insertReservation, okOr_bind_eq_ok] at insertion
  obtain ⟨reservations, added, insertion⟩ := insertion
  rw [bind_eq_ok] at insertion
  obtain ⟨boundaries, placed, same⟩ := insertion
  obtain ⟨receipts, rfl, rows, _⟩ := finishMutation_eq_ok finished
  rw [← Except.ok.inj same] at rows ⊢
  exact .admitted request reservations boundaries receipts
    (Option.not_isSome_iff_eq_none.mp absent) (forM_eq_ok.mp capacity)
    (insert_eq_some.mp added).2 (insertBoundaries_rows placed)
    (by rw [rows]; exact subset_append_left _ _)

theorem startNew_outcome {request : ExecutionReservationStart}
    (done : startNew digest store request = .ok (next, receipt)) : Outcome digest store next := by
  simp only [startNew, bind_eq_ok] at done
  rcases done with
    ⟨current, loaded, _, timely, _, concurrency, _, free, updated, update, finished⟩
  obtain ⟨member, job, scope, pool, _⟩ := loadScopedReservation_eq_ok loaded
  obtain ⟨revision, state⟩ := validateRevisionStateTime_eq_ok timely
  have here : selects request.jobId request.expectedRevision .queued current := by
    simp [selects, job, revision, state]
  obtain ⟨reservations, rfl, rows⟩ := executeUpdate_eq_ok member here update
  obtain ⟨receipts, rfl, answered, _⟩ := finishMutation_eq_ok finished
  have gate : ∀ boundary ∈ current.boundaries,
      ensureConcurrency digest store boundary = .ok () := by
    rw [boundaries, scope, pool]
    exact forM_eq_ok.mp concurrency
  exact .moved current _ request.requestId reservations receipts store.settlementSources
    store.reconciliation member (.started request.startedAt state)
    (fun _ => ⟨gate, by simpa using refuse_eq_ok.mp free⟩) rows
    (append_nil _).symm (by rw [answered]; exact subset_append_left _ _)

theorem releaseNew_outcome {request : ExecutionReservationRelease}
    (done : releaseNew digest store request none = .ok (next, receipt)) :
    Outcome digest store next := by
  simp only [releaseNew, retainUsage, bind_eq_ok] at done
  rcases done with
    ⟨current, loaded, _, live, _, timely, updated, update, retained, same, finished⟩
  obtain ⟨member, job, _⟩ := loadScopedReservation_eq_ok loaded
  have here : selects request.jobId request.expectedRevision current.state current := by
    simp [selects, job, validateRevisionTime_eq_ok timely]
  obtain ⟨reservations, rfl, rows⟩ := executeUpdate_eq_ok member here update
  rw [← Except.ok.inj same] at finished
  obtain ⟨receipts, rfl, answered, _⟩ := finishMutation_eq_ok finished
  have source : current.state = .queued ∨ current.state = .running := by
    have open_ := refuse_eq_ok.mp live
    tauto
  exact .moved current _ request.requestId reservations receipts store.settlementSources
    store.reconciliation member (.released request.reason request.releasedAt source)
    (by rintro ⟨⟩) rows
    (append_nil _).symm (by rw [answered]; exact subset_append_left _ _)

theorem retainUsage_eq_ok {usage : Option ExecutionOutcomeUsage}
    (done : retainUsage store job requestId usage = .ok next) :
    ∃ reconciliation, next = { store with reconciliation := reconciliation } ∧
      reconciliation.rows = store.reconciliation.rows ++
        (usage.map (pendingReconciliation job requestId)).toList := by
  cases usage with
  | none =>
    cases done
    exact ⟨store.reconciliation, rfl, (append_nil _).symm⟩
  | some _ =>
    rw [retainUsage, okOr_bind_eq_ok] at done
    obtain ⟨reconciliation, inserted, same⟩ := done
    exact ⟨reconciliation, (Except.ok.inj same).symm, (insert_eq_some.mp inserted).2⟩

theorem settleNew_outcome {request : ExecutionReservationSettlement}
    (done : settleNew digest store request = .ok (next, receipt)) : Outcome digest store next := by
  simp only [settleNew, bind_eq_ok] at done
  rcases done with ⟨current, loaded, _, timely, _, within, updated, update, sourced, sourcing,
    retained, retain, finished⟩
  obtain ⟨member, job, _⟩ := loadScopedReservation_eq_ok loaded
  obtain ⟨revision, state⟩ := validateRevisionStateTime_eq_ok timely
  have here : selects request.jobId request.expectedRevision .running current := by
    simp [selects, job, revision, state]
  obtain ⟨reservations, rfl, rows⟩ := executeUpdate_eq_ok member here update
  simp only [insertSettlementSource, bind_eq_ok] at sourcing
  obtain ⟨_, _, sources, _, same⟩ := sourcing
  rw [← Except.ok.inj same] at retain
  obtain ⟨reconciliation, rfl, owed⟩ := retainUsage_eq_ok retain
  obtain ⟨receipts, rfl, answered, _⟩ := finishMutation_eq_ok finished
  have bounds := refuse_eq_ok.mp within
  simp only [not_or, Bool.not_eq_true] at bounds
  have cost : ∀ spent, request.actualCostMicrounits = some spent →
      exceeds current.reservedCostMicrounits spent = false := by
    intro spent known
    simpa [known] using bounds.2.1
  have owedHere : reconciliation.rows = store.reconciliation.rows ++
      owedRows current.jobId request.requestId
        (settled request current.toExecutionReservationProgress) := by
    rw [owed, job]
    cases priced : request.actualCostMicrounits <;>
      simp [owedRows, settled, unpricedUsage, priced]
  exact .moved current _ request.requestId reservations receipts sources reconciliation member
    (.settled request state bounds.1 cost) (by rintro ⟨⟩) rows owedHere
    (by rw [answered]; exact subset_append_left _ _)

theorem replayOr_eq_ok {operation : AdmissionAnswer}
    (done : replayOr store scopeKey requestId requestDigest operation = .ok (next, receipt)) :
    (next = store ∧ Recorded store scopeKey requestId requestDigest receipt.reservation) ∨
      operation = .ok (next, receipt) := by
  unfold replayOr at done
  split at done
  · rename_i row found
    rw [bind_eq_ok] at done
    obtain ⟨_, completed, same⟩ := done
    cases same
    rw [completeReceipt, refuse_bind_eq_ok, bind_eq_ok] at completed
    obtain ⟨body, _, valid, answered⟩ := completed
    obtain ⟨member, hit⟩ := find_eq_some found
    simp only [Bool.and_eq_true, beq_iff_eq] at hit
    cases answered
    exact .inl ⟨rfl, valid, row, member, hit.1, hit.2, not_not.mp body, rfl⟩
  · exact .inr done

end ExecutionAdmission

inductive AdmissionRequest where
  | reserve (request : ExecutionReservationRequest)
  | start (request : ExecutionReservationStart)
  | release (request : ExecutionReservationRelease)
  | settle (request : ExecutionReservationSettlement)

variable {request : AdmissionRequest} {next : AdmissionStore}

namespace AdmissionRequest

def run (digest : Digest) (store : AdmissionStore) : AdmissionRequest → AdmissionAnswer
  | reserve request => ExecutionAdmission.reserve digest store request
  | start request => ExecutionAdmission.start digest store request
  | release request => ExecutionAdmission.release digest store request
  | settle request => ExecutionAdmission.settle digest store request

def runNew (digest : Digest) (store : AdmissionStore) : AdmissionRequest → AdmissionAnswer
  | reserve request => reserveNew digest store request
  | start request => startNew digest store request
  | release request => releaseNew digest store request none
  | settle request => settleNew digest store request

def requestId : AdmissionRequest → String
  | reserve request => request.requestId
  | start request => request.requestId
  | release request => request.requestId
  | settle request => request.requestId

def scopeKey (digest : Digest) : AdmissionRequest → String
  | reserve request => reservationScopeKey digest request.scope request.workerPoolId
  | start request => reservationScopeKey digest request.scope request.workerPoolId
  | release request => reservationScopeKey digest request.scope request.workerPoolId
  | settle request => reservationScopeKey digest request.scope request.workerPoolId

def body (digest : Digest) : AdmissionRequest → String
  | reserve request => digest (.reservation request)
  | start request => digest (.start request)
  | release request => digest (.release request)
  | settle request => digest (.settlement request)

def validate : AdmissionRequest → AdmissionCheck
  | reserve request => validateReservationRequest request
  | start request => validateStart request
  | release request => validateRelease request
  | settle request => validateSettlement request

variable {store : AdmissionStore} {receipt : ExecutionAdmissionReceipt}

variable {digest : Digest}

/-- Where no attempt waits for its accounting, a request is checked and then replayed or
run. -/
theorem run_eq (quiet : store.attemptPending.rows = []) (request : AdmissionRequest) :
    request.run digest store = request.validate >>= fun _ =>
      replayOr store (request.scopeKey digest) request.requestId (request.body digest)
        (request.runNew digest store) := by
  cases request with
  | reserve _ | start _ | release _ => rfl
  | settle _ =>
    simp [run, validate, scopeKey, requestId, body, runNew, ExecutionAdmission.settle, refuse,
      missingTotal, quiet, bind, Except.bind]

theorem run_cases (done : request.run digest store = .ok (next, receipt)) :
    next = store ∨ request.runNew digest store = .ok (next, receipt) := by
  have answered : replayOr store (request.scopeKey digest) request.requestId
      (request.body digest) (request.runNew digest store) = .ok (next, receipt) := by
    cases request with
    | reserve _ =>
      rw [run, ExecutionAdmission.reserve, bind_eq_ok] at done
      exact done.choose_spec.2
    | start _ =>
      rw [run, ExecutionAdmission.start, bind_eq_ok] at done
      exact done.choose_spec.2
    | release _ =>
      rw [run, ExecutionAdmission.release, releaseReservation, bind_eq_ok] at done
      exact done.choose_spec.2
    | settle _ =>
      simp only [run, ExecutionAdmission.settle, eq_ok] at done
      obtain ⟨_, _, _, _, _, _, answered⟩ := done
      exact answered
  rcases replayOr_eq_ok answered with ⟨same, _⟩ | performed
  · exact .inl same
  · exact .inr performed

theorem runNew_outcome (done : request.runNew digest store = .ok (next, receipt)) :
    Outcome digest store next := by
  cases request with
  | reserve _ => exact reserveNew_outcome done
  | start _ => exact startNew_outcome done
  | release _ => exact releaseNew_outcome done
  | settle _ => exact settleNew_outcome done

theorem runNew_recorded (done : request.runNew digest store = .ok (next, receipt)) :
    Recorded next (request.scopeKey digest) request.requestId (request.body digest)
      receipt.reservation := by
  cases request with
  | reserve _ =>
    simp only [runNew, reserveNew, eq_ok] at done
    obtain ⟨_, _, _, _, _, _, finished⟩ := done
    exact finishMutation_recorded finished
  | start _ =>
    simp only [runNew, startNew, eq_ok] at done
    obtain ⟨_, _, _, _, _, _, _, _, _, _, finished⟩ := done
    exact finishMutation_recorded finished
  | release _ =>
    simp only [runNew, releaseNew, eq_ok] at done
    obtain ⟨_, _, _, _, _, _, _, _, _, _, finished⟩ := done
    exact finishMutation_recorded finished
  | settle _ =>
    simp only [runNew, settleNew, eq_ok] at done
    obtain ⟨_, _, _, _, _, _, _, _, _, _, _, _, finished⟩ := done
    exact finishMutation_recorded finished

end AdmissionRequest

inductive AdmissionEvent where
  | opened
  | configurePolicy (policy : ExecutionAdmissionPolicy)
  | requested (request : AdmissionRequest)

def AdmissionStore.step (digest : Digest) (store : AdmissionStore) : AdmissionEvent → AdmissionStore
  | .opened => openAdmission store
  | .configurePolicy policy => (commit store (configurePolicy digest store policy)).1
  | .requested request => (commit store (request.run digest store)).1

end WinWinCode.Storage
