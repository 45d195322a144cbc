import WinWinCode.Storage.AccountingVisibility

/-!
Runs of the accounting of terminal jobs, and when they keep unresolved accounting
visible.
-/

namespace WinWinCode.Storage

open Fallible Tables ExecutionAdmission AttemptAccounting List Table Option Runs

inductive AccountingEvent where
  | admission (event : AdmissionEvent)
  | releaseWithUnknownUsage (request : ExecutionReservationRelease)
      (usage : ExecutionOutcomeUsage)
  | retainReleasedTerminalUsage (request : ExecutionReservationRelease)
      (usage : ExecutionOutcomeUsage)
  | settleReconciliation (settlement : ReconciliationSettlement)
  | reconcileProviderAttempt (leases : Leases) (statement : AttemptAccountingStatement)
      (now : String)
  /-- An attempt's lease was replaced, and the attempt's accounting is awaited. -/
  | attemptLost (previous : ExecutionLeaseRecord) (now : String)
  | attemptReported (leases : Leases) (stamp : ExecutionLeaseStamp)
      (usage : ExecutionOutcomeUsage)

/-- `INSERT INTO execution_attempt_accounting_pending` of a replaced lease. -/
def loseAttempt (store : AccountingStore) (previous : ExecutionLeaseRecord) (now : String) :
    StorageResult (AccountingStore × Unit) := do
  refuse (9223372036854775807 < previous.attempt) invalid
  let pending ← okOr (store.attemptPending.insert
    ⟨previous.jobId, previous.attempt, previous, now⟩) sqlFailure
  return ({ store with attemptPending := pending }, ())

namespace AccountingStore

variable (digest : Digest) (codec : AccountingCodec)

def step (store : AccountingStore) : AccountingEvent → AccountingStore
  | .admission event => store.withAdmission (store.toAdmissionStore.step digest event)
  | .releaseWithUnknownUsage request usage => store.withAdmission
      (commit store.toAdmissionStore
        (releaseWithUnknownUsage digest store.toAdmissionStore request usage)).1
  | .retainReleasedTerminalUsage request usage => store.withAdmission
      (commit store.toAdmissionStore (retainReleasedTerminalUsage digest
        store.toAdmissionStore request usage)).1
  | .settleReconciliation settlement => store.withAdmission
      (commit store.toAdmissionStore
        (settleReconciliation store.toAdmissionStore settlement)).1
  | .reconcileProviderAttempt leases statement now =>
    (AttemptAccounting.reconcileProviderAttempt digest codec leases store statement now).1
  | .attemptLost previous now => (commit store (loseAttempt store previous now)).1
  | .attemptReported leases stamp usage =>
    (commit store (retainTerminalUsage leases store stamp usage)).1

end AccountingStore

/-! What the operations leave in place. -/

/-- No fact is added and no status is written. -/
structure AdmissionStore.Grows (store next : AdmissionStore) : Prop where
  facts : next.reconciliationFacts = store.reconciliationFacts
  settled : ∀ row ∈ next.reconciliation.rows, row.accountingStatus = .settled →
    row ∈ store.reconciliation.rows
  pending : next.attemptPending = store.attemptPending

variable {job requestId : String} {usage : Option ExecutionOutcomeUsage}
  {requestDigest scopeKey : String}

namespace AdmissionStore.Grows

theorem refl (store : AdmissionStore) : store.Grows store := ⟨rfl, fun _ member _ => member, rfl⟩

theorem settled_of_appended {old new added : List ReconciliationRow} (rows : new = old ++ added)
    (awaited : ∀ row ∈ added, row.accountingStatus = .pending) :
    ∀ row ∈ new, row.accountingStatus = .settled → row ∈ old := by
  intro row member settled
  rw [rows, mem_append] at member
  rcases member with kept | fresh
  · exact kept
  · exact nomatch (awaited row fresh).symm.trans settled

variable {digest : Digest} {store next : AdmissionStore} {receipt : ExecutionAdmissionReceipt}
  {request : ExecutionReservationRelease} {usage : ExecutionOutcomeUsage}

theorem of_outcome (outcome : Outcome digest store next) : store.Grows next := by
  cases outcome with
  | still => exact refl store
  | configured _ _ _ _ => exact ⟨rfl, fun _ member _ => member, rfl⟩
  | admitted _ reservations _ receipts _ _ _ _ receipted =>
    exact ⟨rfl, fun _ member _ => member, rfl⟩
  | moved current progress requestId reservations receipts sources reconciliation member move gate
      updated owed receipted =>
      refine ⟨rfl, settled_of_appended owed fun row added => ?_, rfl⟩
      obtain ⟨_, _, _, _, _, _, rfl⟩ := mem_owedRows.mp added
      rfl

theorem of_retainUsage (done : retainUsage store job requestId usage = .ok next) :
    store.Grows next := by
  obtain ⟨_, rfl, rows⟩ := retainUsage_eq_ok done
  refine ⟨rfl, settled_of_appended rows fun row added => ?_, rfl⟩
  obtain ⟨_, _, rfl⟩ := map_eq_some_iff.mp (mem_toList.mp added)
  rfl

theorem trans {early middle late : AdmissionStore} (first : early.Grows middle)
    (second : middle.Grows late) : early.Grows late :=
  ⟨second.facts.trans first.facts,
    fun row member settled => first.settled row (second.settled row member settled) settled,
    second.pending.trans first.pending⟩

theorem of_finishMutation {scope : ExecutionQueueScope} {pool missing : String}
    (done : finishMutation store scopeKey scope pool job requestId requestDigest missing =
      .ok (next, receipt)) : store.Grows next := by
  obtain ⟨_, rfl, _⟩ := finishMutation_eq_ok done
  exact ⟨rfl, fun _ member _ => member, rfl⟩

theorem of_replayOr {operation : AdmissionAnswer}
    (performs : operation = .ok (next, receipt) → store.Grows next)
    (done : replayOr store scopeKey requestId requestDigest operation = .ok (next, receipt)) :
    store.Grows next := by
  rcases replayOr_eq_ok done with ⟨rfl, _⟩ | performed
  · exact refl _
  · exact performs performed

theorem backfillRow_pending {row : ExecutionReservationRecord} {owed : ReconciliationRow}
    (selected : backfillRow store row = some owed) : owed.accountingStatus = .pending := by
  simp only [backfillRow, bind_eq_bind, bind_eq_some_iff] at selected
  obtain ⟨_, _, _, _, _, _, chosen⟩ := selected
  split at chosen
  · rw [← some.inj chosen]
    rfl
  · cases chosen

theorem settled_of_ignored (owed : List ReconciliationRow)
    (awaited : ∀ row ∈ owed, row.accountingStatus = .pending)
    (table : Table ReconciliationRow ReconciliationRow.Clash) :
    ∀ row ∈ (owed.foldl Table.insertOrIgnore table).rows, row.accountingStatus = .settled →
      row ∈ table.rows := by
  induction owed generalizing table with
  | nil => exact fun _ member _ => member
  | cons first rest ih =>
    intro row member settled
    have later : ∀ row ∈ rest, row.accountingStatus = .pending :=
      fun row among => awaited row (mem_cons_of_mem first among)
    rcases mem_insertOrIgnore (ih later (table.insertOrIgnore first) row member settled)
      with kept | same
    · exact kept
    · rw [same, awaited first mem_cons_self] at settled
      cases settled

theorem of_openAdmission (store : AdmissionStore) : store.Grows (openAdmission store) := by
  refine ⟨rfl, settled_of_ignored _ (fun row member => ?_) store.reconciliation, rfl⟩
  obtain ⟨_, _, selected⟩ := mem_filterMap.mp member
  exact backfillRow_pending selected

theorem of_releaseNew (done : releaseNew digest store request usage = .ok (next, receipt)) :
    store.Grows next := by
  simp only [releaseNew, eq_ok] at done
  obtain ⟨_, _, _, _, _, _, _, update, _, retain, finished⟩ := done
  rw [executeUpdate, refuse_bind_eq_ok] at update
  cases update.2
  refine trans (trans ?_ (of_retainUsage retain)) (of_finishMutation finished)
  exact ⟨rfl, fun _ member _ => member, rfl⟩

theorem of_releaseWithUnknownUsage
    (done : releaseWithUnknownUsage digest store request usage = .ok (next, receipt)) :
    store.Grows next := by
  rw [releaseWithUnknownUsage, refuse_bind_eq_ok, releaseReservation, bind_eq_ok] at done
  obtain ⟨_, _, _, answered⟩ := done
  exact of_replayOr of_releaseNew answered

theorem of_retainReleasedNew
    (done : retainReleasedNew digest store request usage = .ok (next, receipt)) :
    store.Grows next := by
  simp only [retainReleasedNew, eq_ok] at done
  obtain ⟨_, _, _, _, _, _, _, _, _, _, _, retain, finished⟩ := done
  exact (of_retainUsage retain).trans (of_finishMutation finished)

theorem of_retainReleasedTerminalUsage
    (done : retainReleasedTerminalUsage digest store request usage = .ok (next, receipt)) :
    store.Grows next := by
  simp only [retainReleasedTerminalUsage, eq_ok] at done
  obtain ⟨_, _, _, _, answered⟩ := done
  exact of_replayOr of_retainReleasedNew answered

theorem of_step (digest : Digest) (store : AdmissionStore) (event : AdmissionEvent) :
    store.Grows (store.step digest event) := by
  cases event with
  | opened => exact of_openAdmission store
  | configurePolicy _ =>
    exact commit_keeps (refl store) fun next fresh done => of_outcome (configurePolicy_outcome done)
  | requested _ =>
    refine commit_keeps (refl store) fun next receipt done => ?_
    rcases AdmissionRequest.run_cases done with same | performed
    · exact same ▸ refl store
    · exact of_outcome (AdmissionRequest.runNew_outcome performed)

end AdmissionStore.Grows

/-! Settled accounting is complete. -/

structure AdmissionStore.Visible (store : AdmissionStore) : Prop where
  complete : ∀ row ∈ store.reconciliation.rows, row.accountingStatus = .settled →
    ∃ fact, store.latestFact row.jobId = some fact ∧ fact.usage.resolved = true
  representable : ∀ row ∈ store.attemptPending.rows, row.lease.attempt ≤ 9223372036854775807

variable {original : ExecutionOutcomeUsage} {usage : ExecutionOutcomeUsage}
  {row : ReconciliationRow} {next : AdmissionStore}

namespace AdmissionStore.Visible

theorem empty : AdmissionStore.empty.Visible := ⟨forall_mem_nil _, forall_mem_nil _⟩

variable {store : AdmissionStore} {settlement : ReconciliationSettlement}

theorem grow (visible : store.Visible) (grows : store.Grows next) : next.Visible := by
  constructor
  · intro row member settled
    rw [latestFact, grows.facts]
    exact visible.complete row (grows.settled row member settled) settled
  · rw [grows.pending]
    exact visible.representable

theorem reconciliationRow_of_mem (member : row ∈ store.reconciliation.rows) :
    store.reconciliationRow row.jobId = some row := by
  have hit : ∃ found, store.reconciliationRow row.jobId = some found := find_isSome member (by simp)
  obtain ⟨_, known⟩ := hit
  obtain ⟨present, same⟩ := find_eq_some known
  rw [known, store.reconciliation.eq_of_clash (fun _ _ => Eq.symm) present member
    (beq_iff_eq.mp same)]

theorem mem_settleStatus (member : row ∈ (settleStatus store settlement).reconciliation.rows)
    (settled : row.accountingStatus = .settled) : row ∈ store.reconciliation.rows ∨
      (row.jobId = settlement.jobId ∧ settlement.usage.resolved) := by
  unfold settleStatus at member
  split at member
  · rename_i complete
    obtain ⟨old, present, rfl⟩ := mem_map.mp member
    by_cases hit : isPendingFor settlement.jobId old = true
    · rw [Table.alter, if_pos hit]
      simp only [isPendingFor, Bool.and_eq_true, beq_iff_eq] at hit
      exact .inr ⟨hit.1, complete⟩
    · rw [Table.alter, if_neg hit]
      exact .inl present
  · exact .inl member

theorem settleStatus_kept (store : AdmissionStore) (settlement : ReconciliationSettlement) :
    (settleStatus store settlement).reconciliationFacts = store.reconciliationFacts ∧
      (settleStatus store settlement).attemptPending = store.attemptPending := by
  unfold settleStatus
  split <;> exact ⟨rfl, rfl⟩

section
variable {providerAuthority changed : Bool} (visible : store.Visible)
  (conclusive : ∀ row, store.reconciliationRow settlement.jobId = some row →
    row.accountingStatus = .settled →
    changesKnown providerAuthority (originalUsage store row) settlement.usage = false →
    settlement.usage.resolved = true)
include visible conclusive

/-- An appended fact keeps settled accounting complete when it is complete itself, or when
its job is not settled. -/
theorem appendFact (done : ExecutionAdmission.appendFact store settlement providerAuthority =
      .ok (next, changed)) : next.Visible := by
  simp only [ExecutionAdmission.appendFact, bind_eq_ok] at done
  obtain ⟨_, _, known, found, _, same, facts, inserted, result⟩ := done
  cases result
  have repeated := (not_or.mp (refuse_eq_ok.mp same)).2
  have appended := (insert_eq_some.mp (okOr_eq_ok.mp inserted)).2
  have kept := settleStatus_kept { store with reconciliationFacts := facts } settlement
  constructor
  · intro row member settled
    rw [latestFact, kept.1, appended, reverse_append]
    by_cases here : settlement.jobId = row.jobId
    · -- the fact is now the latest of this job
      rw [reverse_singleton, singleton_append, find?_cons_of_pos (by simp [here])]
      refine ⟨_, rfl, ?_⟩
      rcases mem_settleStatus member settled with old | ⟨_, complete⟩
      · have current : store.reconciliationRow row.jobId = some row := reconciliationRow_of_mem old
        rw [← here, okOr_eq_ok.mp found] at current
        cases current
        exact conclusive known (okOr_eq_ok.mp found) settled (Bool.not_eq_true _ ▸ repeated)
      · exact complete
    · rw [reverse_singleton, singleton_append, find?_cons_of_neg (by simp [here])]
      rcases mem_settleStatus member settled with old | ⟨same, _⟩
      · exact visible.complete row old settled
      · exact absurd same.symm here
  · rw [kept.2]
    exact visible.representable

theorem settleReconciliationWithAuthority
    (done : ExecutionAdmission.settleReconciliationWithAuthority store settlement
      providerAuthority = .ok (next, changed)) : next.Visible := by
  simp only [ExecutionAdmission.settleReconciliationWithAuthority, eq_ok] at done
  obtain ⟨_, _, _, _, _, _, _, _, _, _, done⟩ := done
  split at done
  · -- a replay writes nothing
    simp only [replayFact, eq_ok] at done
    obtain ⟨_, _, _, _, _, _, same⟩ := done
    cases same
    exact visible
  · exact visible.appendFact conclusive done

end

/-- Without provider authority a known amount has to be repeated. -/
theorem resolved_of_repeated (repeated : changesKnown false original usage = false)
    (known : original.resolved) : usage.resolved = true := by
  simp only [changesKnown, Bool.or_eq_false_iff] at repeated
  simp only [ExecutionOutcomeUsage.resolved, Bool.and_eq_true, isSome_iff_exists]
    at known ⊢
  obtain ⟨⟨tokens, counted⟩, cost, priced⟩ := known
  have sameTokens : usage.tokens = some tokens := by
    simpa [changesAmount, counted] using repeated.1.2
  have sameCost : usage.costMicrounits = some cost := by
    simpa [changesAmount, priced] using repeated.2
  exact ⟨⟨tokens, sameTokens⟩, cost, sameCost⟩

theorem settleReconciliation {changed : Bool} (visible : store.Visible)
    (done : settleReconciliation store settlement = .ok (next, changed)) : next.Visible := by
  apply visible.settleReconciliationWithAuthority _ done
  intro row found settled repeated
  apply resolved_of_repeated repeated
  obtain ⟨_, latest, complete⟩ := visible.complete row (find_eq_some found).1 settled
  rw [originalUsage, latest]
  exact complete

end AdmissionStore.Visible

/-! Provider statements. -/

variable {store next : AccountingStore} {statementDigest now : String}

namespace AttemptAccounting

open AdmissionStore

variable {statement : AttemptAccountingStatement}

theorem importOnce_grows (done : importOnce store statement statementDigest now = .ok next) :
    store.toAdmissionStore.Grows next.toAdmissionStore := by
  unfold importOnce at done
  split at done
  · cases done
    exact Grows.refl _
  · obtain ⟨_, imports, _⟩ := importStatement_eq_ok done
    refine ⟨imports.facts, fun row member _ => ?_, imports.pending⟩
    exact imports.reconciliation ▸ member

theorem loadReconciliationSource_eq_ok {digest : Digest}
    {source : Option (String × ExecutionOutcomeUsage)}
    (done : loadReconciliationSource digest store job = .ok (next, source)) :
    ∃ reconciliation, next = store.withAdmission
        { store.toAdmissionStore with reconciliation := reconciliation } ∧
      ∀ row ∈ reconciliation.rows, row.accountingStatus = .settled →
        row ∈ store.reconciliation.rows := by
  unfold loadReconciliationSource at done
  split at done
  · cases done
    exact ⟨store.reconciliation, rfl, fun _ member _ => member⟩
  · rw [bind_eq_ok] at done
    obtain ⟨found, _, done⟩ := done
    cases found with
    | none =>
      cases done
      exact ⟨store.reconciliation, rfl, fun _ member _ => member⟩
    | some _ =>
      cases done
      refine ⟨_, rfl, fun row member settled => ?_⟩
      rcases mem_insertOrIgnore member with kept | same
      · exact kept
      · rw [same] at settled
        cases settled

theorem settleTotals_visible {codec : AccountingCodec} {leases : Leases} {terminalId : String}
    {answer : Unit} (visible : store.toAdmissionStore.Visible)
    (accounted : ∀ row, store.reconciliationRow statement.lease.jobId = some row →
      row.accountingStatus = .settled → ∀ current, leases statement.lease.jobId = some current →
        Accounted store statement.lease.jobId current)
    (done : settleTotals codec leases store statement statementDigest terminalId original now =
      .ok (next, answer)) : next.toAdmissionStore.Visible := by
  simp only [settleTotals, bind_eq_ok] at done
  obtain ⟨current, held, _, summed, ⟨_, _⟩, imported, same⟩ := done
  cases same
  rw [admitted, mapError_eq_ok, settleImported, refuse_bind_eq_ok] at imported
  apply visible.settleReconciliationWithAuthority _ imported.2
  intro row found settled _
  exact (accounted row found settled current (okOr_eq_ok.mp held)).jobUsage_resolved summed

end AttemptAccounting

/-! Whole runs. -/

/-- The calls that keep unresolved accounting visible, judged by the store before the call:
a provider statement about a job whose accounting is settled has to account for every
attempt of the job. -/
def AccountingEvent.Allowed (codec : AccountingCodec) (store : AccountingStore) :
    AccountingEvent → Prop
  | .reconcileProviderAttempt leases statement _ =>
    ((store.reconciliationRow statement.lease.jobId).any fun row =>
      row.accountingStatus == .settled) = true → Conclusive codec leases store statement
  | _ => True

instance (codec : AccountingCodec) (store : AccountingStore) (event : AccountingEvent) :
    Decidable (event.Allowed codec store) :=
  match event with
  | .reconcileProviderAttempt leases statement _ =>
    inferInstanceAs (Decidable (_ → Conclusive codec leases store statement))
  | .admission _ => isTrue trivial
  | .releaseWithUnknownUsage _ _ => isTrue trivial
  | .retainReleasedTerminalUsage _ _ => isTrue trivial
  | .settleReconciliation _ => isTrue trivial
  | .attemptLost _ _ => isTrue trivial
  | .attemptReported _ _ _ => isTrue trivial

namespace AccountingStore

open AdmissionStore AttemptAccounting

variable {digest : Digest} {codec : AccountingCodec}

theorem commit_visible {result : StorageResult (AccountingStore × Unit)}
    (visible : store.toAdmissionStore.Visible)
    (succeeds : ∀ next answer, result = .ok (next, answer) → next.toAdmissionStore.Visible) :
    (commit store result).1.toAdmissionStore.Visible := by
  let Shown : AccountingStore → Prop := fun store => store.toAdmissionStore.Visible
  have kept : Shown (commit store result).1 := commit_keeps visible succeeds
  exact kept

variable {leases : Leases}

theorem reconcileProviderAttempt_visible {statement : AttemptAccountingStatement}
    (allowed : AccountingEvent.Allowed codec store (.reconcileProviderAttempt leases statement now))
    (visible : store.toAdmissionStore.Visible) :
    (AttemptAccounting.reconcileProviderAttempt digest codec leases store statement
      now).1.toAdmissionStore.Visible := by
  have grown := Grows.of_openAdmission store.toAdmissionStore
  have openedVisible : (opened store).toAdmissionStore.Visible := visible.grow grown
  unfold AttemptAccounting.reconcileProviderAttempt
  simp only
  split
  · exact openedVisible
  · rename_i imported checked
    simp only [importChecked, eq_ok] at checked
    obtain ⟨_, _, _, _, _, _, importing⟩ := checked
    have importGrows := importOnce_grows importing
    have importVisible := openedVisible.grow importGrows
    unfold reconcileAttemptTotals
    split
    · exact importVisible
    · rename_i sourced loaded
      obtain ⟨rows, rfl, kept⟩ := loadReconciliationSource_eq_ok loaded
      exact importVisible.grow ⟨rfl, kept, rfl⟩
    · rename_i sourced terminalId original loaded
      obtain ⟨rows, rfl, kept⟩ := loadReconciliationSource_eq_ok loaded
      have sourcedVisible : { imported.toAdmissionStore with reconciliation := rows }.Visible :=
        importVisible.grow ⟨rfl, kept, rfl⟩
      refine commit_visible sourcedVisible fun next answer settled => ?_
      apply settleTotals_visible sourcedVisible _ settled
      intro row found status current held
      -- the row was settled in the store the call started from
      obtain ⟨member, hit⟩ := find_eq_some found
      have before := grown.settled row (importGrows.settled row (kept row member status) status)
        status
      have known := Visible.reconciliationRow_of_mem before
      rw [beq_iff_eq.mp hit] at known
      have conclusive : Conclusive codec leases (opened store) statement :=
        allowed (by rw [known, any_some, status]; rfl)
      have accounted := conclusive.accounted held importing
      exact ⟨accounted.totals, accounted.pending, accounted.current⟩

theorem step_visible {event : AccountingEvent} (allowed : event.Allowed codec store)
    (visible : store.toAdmissionStore.Visible) :
    (store.step digest codec event).toAdmissionStore.Visible := by
  cases event with
  | admission event => exact visible.grow (Grows.of_step digest store.toAdmissionStore event)
  | releaseWithUnknownUsage _ _ =>
    exact visible.grow (commit_keeps (Grows.refl _) fun _ _ done =>
      Grows.of_releaseWithUnknownUsage done)
  | retainReleasedTerminalUsage _ _ =>
    exact visible.grow (commit_keeps (Grows.refl _) fun _ _ done =>
      Grows.of_retainReleasedTerminalUsage done)
  | settleReconciliation _ =>
    exact commit_keeps visible fun _ _ done => visible.settleReconciliation done
  | reconcileProviderAttempt _ _ _ =>
    exact reconcileProviderAttempt_visible allowed visible
  | attemptLost _ _ =>
    refine commit_visible visible fun next answer done => ?_
    rw [loseAttempt, refuse_bind_eq_ok, okOr_bind_eq_ok] at done
    obtain ⟨small, _, inserted, same⟩ := done
    cases same
    refine ⟨visible.complete, fun row member => ?_⟩
    rw [show _ = _ from (insert_eq_some.mp inserted).2, mem_append, mem_singleton] at member
    rcases member with old | rfl
    · exact visible.representable row old
    · exact Nat.le_of_not_lt small
  | attemptReported _ _ _ =>
    refine commit_visible visible fun next answer done => ?_
    simp only [retainTerminalUsage, eq_ok] at done
    obtain ⟨_, _, _, _, _, _, _, _, same⟩ := done
    cases same
    exact visible

/-- A job whose accounting is open has a pending row, and opening the ledger keeps it. -/
theorem awaited_of_unresolved (visible : store.toAdmissionStore.Visible)
    (known : store.reconciledUsage job = some usage) (unresolved : usage.resolved = false) :
    ⟨job, none⟩ ∈ awaitedAccounting (opened store) := by
  obtain ⟨row, found, stated⟩ := map_eq_some_iff.mp known
  obtain ⟨member, hit⟩ := find_eq_some found
  have here : row.jobId = job := beq_iff_eq.mp hit
  have pending : row.accountingStatus = .pending := by
    cases status : row.accountingStatus with
    | pending => rfl
    | settled =>
      obtain ⟨fact, latest, complete⟩ := visible.complete row member status
      rw [here] at latest
      rw [latest] at stated
      have same : fact.usage = usage := stated
      rw [same, unresolved] at complete
      cases complete
  have kept : ∀ (owed : List ReconciliationRow)
      (table : Table ReconciliationRow ReconciliationRow.Clash), row ∈ table.rows →
        row ∈ (owed.foldl Table.insertOrIgnore table).rows := by
    intro owed
    induction owed with
    | nil => exact fun _ present => present
    | cons first _ ih =>
      exact fun table present => ih _ (insertOrIgnore_keeps table first present)
  refine mem_append_right _ (mem_map.mpr ⟨row, mem_filter.mpr ⟨?_, ?_⟩, ?_⟩)
  · exact kept _ store.reconciliation member
  · rw [pending]
    rfl
  · rw [here]

def Leased (leases : Leases) (store : AccountingStore) : Prop :=
  ∀ row ∈ store.reconciliation.rows, ∃ lease, leases row.jobId = some lease ∧
    lease.jobId = row.jobId ∧ lease.attempt ≤ 9223372036854775807

theorem awaitedStamp_total (visible : store.toAdmissionStore.Visible)
    (leased : Leased leases store) {awaited : AwaitedAccounting}
    (member : awaited ∈ awaitedAccounting store) :
    ∃ stamp, awaitedStamp leases awaited = .ok stamp ∧
      (awaited.lease = none → stamp.jobId = awaited.jobId) := by
  have stamped : ∀ lease : ExecutionLeaseRecord, lease.attempt ≤ 9223372036854775807 →
      ∃ stamp, leaseStamp lease = .ok stamp ∧ stamp.jobId = lease.jobId := by
    intro lease small
    refine ⟨⟨lease.jobId, lease.leaseId, lease.workerId, lease.workerInstanceId, lease.attempt,
      lease.fencingToken, lease.issuedAt, lease.expiresAt⟩, ?_, rfl⟩
    rw [leaseStamp, refuse, if_neg (Nat.not_lt.mpr small)]
    rfl
  rcases mem_append.mp member with lost | open_
  · obtain ⟨row, present, rfl⟩ := mem_map.mp lost
    rcases stamped row.lease (visible.representable row (mem_filter.mp present).1) with
      ⟨stamp, done, _⟩
    exact ⟨stamp, done, by rintro ⟨⟩⟩
  · obtain ⟨row, present, rfl⟩ := mem_map.mp open_
    obtain ⟨lease, held, same, small⟩ := leased row (mem_filter.mp present).1
    obtain ⟨stamp, done, named⟩ := stamped lease small
    refine ⟨stamp, ?_, fun _ => named.trans same⟩
    rw [awaitedStamp, awaitedLease, held]
    exact done

theorem listed_of_awaited (visible : (opened store).toAdmissionStore.Visible)
    (leased : Leased leases (opened store))
    (few : (awaitedAccounting (opened store)).length ≤ 9223372036854775807)
    (awaited : ⟨job, none⟩ ∈ awaitedAccounting (opened store)) :
    ∃ offset stamps, pendingAccountingLeases codec leases store offset = .ok stamps ∧
      ∃ stamp ∈ stamps, stamp.jobId = job := by
  let sorted := (awaitedAccounting (opened store)).insertionSort
    fun left right => sortsBefore codec left right = true
  have same := perm_insertionSort (fun left right => sortsBefore codec left right = true)
    (awaitedAccounting (opened store))
  obtain ⟨offset, inside, here⟩ := mem_iff_getElem.mp (same.mem_iff.mpr awaited)
  have total : ∀ item ∈ (sorted.drop offset).take 100,
      ∃ stamp, awaitedStamp leases item = .ok stamp := by
    intro _ member
    have present := same.mem_iff.mp (mem_of_mem_drop (mem_of_mem_take member))
    obtain ⟨stamp, done, _⟩ := awaitedStamp_total visible leased present
    exact ⟨stamp, done⟩
  obtain ⟨stamps, mapped⟩ := mapM_total total
  refine ⟨offset, stamps, ?_, ?_⟩
  · rw [pendingAccountingLeases, refuse,
      if_neg (Nat.not_lt.mpr (le_trans (le_of_lt inside) (same.length_eq.symm ▸ few)))]
    exact mapped
  · have first : (⟨job, none⟩ : AwaitedAccounting) ∈ (sorted.drop offset).take 100 := by
      rw [drop_eq_getElem_cons inside, take_succ_cons, here]
      exact mem_cons_self
    obtain ⟨stamp, present, done⟩ := exists_of_mapM mapped _ first
    obtain ⟨_, known, named⟩ := awaitedStamp_total visible leased awaited
    rw [Except.ok.inj (known.symm.trans done)] at named
    exact ⟨stamp, present, named rfl⟩

/-- In every run whose provider statements about settled jobs account for all their
attempts, a settled status means complete accounting, and a job whose accounting is open is
awaited: it is selected, and shown on some page once the registry knows the leases. -/
theorem unresolved_accounting_visible (digest : Digest) (codec : AccountingCodec)
    (events : List AccountingEvent)
    (meets : Meets (step digest codec) (fun store event => event.Allowed codec store) .empty
      events) : let store := after (step digest codec) .empty events
    (∀ job row, store.reconciliationRow job = some row → row.accountingStatus = .settled →
      ∃ fact, store.latestFact job = some fact ∧ fact.usage.resolved = true) ∧
    ∀ job usage, store.reconciledUsage job = some usage → usage.resolved = false →
      ⟨job, none⟩ ∈ awaitedAccounting (opened store) ∧
      ∀ leases, Leased leases (opened store) →
        (awaitedAccounting (opened store)).length ≤ 9223372036854775807 →
        ∃ offset stamps, pendingAccountingLeases codec leases store offset = .ok stamps ∧
          ∃ stamp ∈ stamps, stamp.jobId = job := by
  have visible := after_invariant_meets (step digest codec) (fun _ _ => step_visible)
    AdmissionStore.Visible.empty events meets
  refine ⟨fun job row found settled => ?_, fun job usage known unresolved => ?_⟩
  · obtain ⟨member, hit⟩ := find_eq_some found
    exact beq_iff_eq.mp hit ▸ visible.complete row member settled
  · have awaited := awaited_of_unresolved visible known unresolved
    refine ⟨awaited, fun leases leased few => ?_⟩
    exact listed_of_awaited (visible.grow (Grows.of_openAdmission _)) leased few awaited

/-! One job that is settled by its worker and then stated by its provider. -/

def sampleId (head : String) (last : Char) : String :=
  head ++ "0000000000000000000000000" ++ last.toString

def sampleTime : String := "2026-01-01T00:00:00.000Z"

def sampleScope : ExecutionQueueScope :=
  ⟨sampleId "org_" '1', sampleId "wsp_" '1', sampleId "prj_" '1', sampleId "rep_" '1',
    sampleId "psn_" '1', none⟩

def sampleDigest : Digest
  | .boundary (.organization _) => "organization"
  | .boundary (.project ..) => "project"
  | .boundary (.repository ..) => "repository"
  | .boundary (.delivery ..) => "delivery"
  | .boundary (.productSession ..) => "session"
  | .boundary (.workerPool ..) => "pool"
  | .scope .. => "scope"
  | .reservation _ => "reservation"
  | .start _ => "start"
  | .releaseWithUsage .. => "release"
  | _ => "other"

def sampleCodec : AccountingCodec where
  encode _ := "statement"
  statementDigest text := text
  settlementId _ _ _ := sampleId "req_" '5'
  leaseText lease := lease.leaseId

def sampleLease : ExecutionLeaseRecord :=
  ⟨sampleId "job_" '1', sampleId "lse_" '1', "digest", sampleId "wrk_" '1', sampleId "wki_" '1', 1,
    "1", sampleTime, "2026-01-01T01:00:00.000Z"⟩

def sampleStatement (receipts : List ProviderAccountingReceipt) : AttemptAccountingStatement :=
  ⟨⟨sampleLease.jobId, sampleLease.leaseId, sampleLease.workerId, sampleLease.workerInstanceId,
    sampleLease.attempt, sampleLease.fencingToken, sampleLease.issuedAt, sampleLease.expiresAt⟩,
    ["slot"], receipts⟩

def sampleReceipt : ProviderAccountingReceipt :=
  ⟨"slot", "mdl_1", "provider", "receipt",
    "sha256:0000000000000000000000000000000000000000000000000000000000000000", some 3, 3, some 4⟩

def sampleRun (receipts : List ProviderAccountingReceipt) : List AccountingEvent :=
  ((requestBoundaries sampleScope (sampleId "wpl_" '1')).map fun boundary =>
    .admission (.configurePolicy ⟨boundary, ⟨1, 1, some 10, some 10, none⟩⟩)) ++
  [.admission (.requested (.reserve ⟨sampleScope, sampleId "usr_" '1', sampleId "wpl_" '1',
      sampleId "job_" '1', sampleId "req_" '1', .sharedWrite, some 5, some 5, none, sampleTime⟩)),
    .admission (.requested (.start ⟨sampleScope, sampleId "wpl_" '1', sampleId "job_" '1',
      sampleId "req_" '2', 1, sampleTime⟩)),
    .releaseWithUnknownUsage ⟨sampleScope, sampleId "wpl_" '1', sampleId "job_" '1',
      sampleId "req_" '3', 2, .failed, sampleTime⟩ ⟨.unknown, none, 3, 7, none⟩,
    .settleReconciliation ⟨sampleId "job_" '1', sampleId "req_" '3', sampleId "req_" '4',
      ⟨.known, some 4, 3, 7, some 3⟩, sampleTime⟩,
    .reconcileProviderAttempt (fun _ => some sampleLease) (sampleStatement receipts) sampleTime]

/-- A provider that states every slot keeps the job settled with complete accounting. -/
theorem unresolved_accounting_visible_stated :
    Meets (step sampleDigest sampleCodec) (fun store event => event.Allowed sampleCodec store)
      .empty (sampleRun [sampleReceipt]) ∧
    ((after (step sampleDigest sampleCodec) .empty
      (sampleRun [sampleReceipt])).reconciliationFacts.rows.length = 2) ∧
    ∃ fact, (after (step sampleDigest sampleCodec) .empty
      (sampleRun [sampleReceipt])).latestFact (sampleId "job_" '1') = some fact ∧
        fact.usage.resolved = true := by
  -- evaluated together, so that the run is evaluated once
  have runs :
      let store := after (step sampleDigest sampleCodec) .empty (sampleRun [sampleReceipt])
      Meets (step sampleDigest sampleCodec)
        (fun store event => event.Allowed sampleCodec store) .empty (sampleRun [sampleReceipt]) ∧
      store.reconciliationFacts.rows.length = 2 ∧
      store.reconciliationRow (sampleId "job_" '1') = some ⟨sampleId "job_" '1',
        sampleId "req_" '3', ⟨.unknown, none, 3, 7, none⟩, .settled,
        some (sampleId "req_" '4', ⟨.known, some 4, 3, 7, some 3⟩, sampleTime)⟩ := by
    decide +kernel
  obtain ⟨meets, stated, found⟩ := runs
  exact ⟨meets, stated, (unresolved_accounting_visible _ _ _ meets).1 _ _ found rfl⟩

/-- A statement of the slots without receipts takes the settled amounts back: the boundary
counts the job as pending and its cost as unknown, and nobody is asked for it. -/
theorem settled_accounting_reopened_unseen :
    let store := after (step sampleDigest sampleCodec) .empty (sampleRun [])
    (store.reconciliationRow (sampleId "job_" '1')).map (·.accountingStatus) = some .settled ∧
      (store.reconciledUsage (sampleId "job_" '1')).map (·.resolved) = some false ∧
      ((loadUsage store.toAdmissionStore "organization").toOption.map fun usage =>
        (usage.accountingPending, usage.committedCostMicrounits)) = some (1, none) ∧
      awaitedAccounting (opened store) = [] ∧
      pendingAccountingLeases sampleCodec (fun _ => some sampleLease) store 0 = .ok [] := by
  decide +kernel

end AccountingStore

end WinWinCode.Storage
