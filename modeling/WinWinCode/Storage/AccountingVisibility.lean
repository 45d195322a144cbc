import WinWinCode.Storage.AdmissionRuns
import WinWinCode.Storage.AttemptAccounting

/-!
Whether unresolved accounting stays visible. The status of a reconciliation row is
written with the first complete fact and never taken back, so a row marked
`settled` shows its job's accounting only while every later fact is complete too. A
settlement repeats what is known; a provider statement may come with receipts
missing. `Conclusive` says, of the state before, when a statement leaves nothing
open.
-/

namespace WinWinCode.Storage

open Fallible Tables ExecutionAdmission AttemptAccounting List Table

/-! Complete sums. -/

variable {usage next : ExecutionOutcomeUsage}

namespace AttemptAccounting

theorem addTotal_isSome {sum : Int → Int → Option Int} {total amount result : Option Int}
    (done : addTotal sum total amount = .ok result) (known : total.isSome)
    (stated : amount.isSome) : result.isSome = true := by
  cases total <;> cases amount <;> simp only [addTotal, Option.isSome_none, Bool.false_eq_true]
    at done known stated
  case some.some total amount =>
    cases added : okOr (sum total amount) invalid with
    | error _ => rw [added] at done; cases done
    | ok _ =>
      rw [added] at done
      cases done
      rfl

theorem addAttempt_resolved {tokens cost : Option Int}
    (done : addAttempt usage tokens cost = .ok next) (complete : usage.resolved)
    (known : tokens.isSome) (priced : cost.isSome) : next.resolved = true := by
  simp only [addAttempt, eq_ok] at done
  obtain ⟨_, _, _, summed, _, costed, same⟩ := done
  simp only [ExecutionOutcomeUsage.resolved, Bool.and_eq_true] at complete ⊢
  cases same
  exact ⟨addTotal_isSome summed complete.1 known, addTotal_isSome costed complete.2 priced⟩

theorem addAttemptOrLower_resolved {tokens cost lower : Option Int}
    (done : addAttemptOrLower usage tokens cost lower = .ok next) (complete : usage.resolved)
    (known : tokens.isSome) (priced : cost.isSome) : next.resolved = true := by
  rw [addAttemptOrLower, bind_eq_ok] at done
  obtain ⟨_, first, done⟩ := done
  have still := addAttempt_resolved first complete known priced
  cases lower with
  | none => exact Except.ok.inj done ▸ still
  | some _ =>
    simp only [addLower, eq_ok] at done
    obtain ⟨_, _, rfl⟩ := done
    exact still

def isComplete (receipt : ProviderAccountingReceipt) : Bool :=
  receipt.tokens.isSome && receipt.costMicrounits.isSome

variable {store next : AccountingStore} {statement : AttemptAccountingStatement} {job : String}
  {attempt : Int} {current : ExecutionLeaseRecord} {totals : ExecutionOutcomeUsage}

theorem statementTotals_resolved (done : statementTotals store statement = .ok totals)
    (covered : ∀ slot ∈ statement.manifest,
      (store.slotReceipt statement.lease.jobId statement.lease.attempt slot).any isComplete =
        true) : totals.resolved = true := by
  apply foldlM_keeps (·.resolved = true) _ rfl done
  intro slot member _ _ complete added
  have receipted := covered slot member
  cases found : store.slotReceipt statement.lease.jobId statement.lease.attempt slot with
  | none => simp [found] at receipted
  | some _ =>
    simp only [found, Option.any_some, isComplete, Bool.and_eq_true] at receipted
    apply addAttemptOrLower_resolved added complete <;> simp [found, receipted]

theorem mergeTerminalMetrics_resolved {merged : ExecutionOutcomeUsage}
    (done : mergeTerminalMetrics store statement totals = .ok merged) :
    merged.resolved = totals.resolved := by
  unfold mergeTerminalMetrics at done
  split at done
  · rw [← Except.ok.inj done]
  · simp only [eq_ok] at done
    obtain ⟨_, _, _, _, same⟩ := done
    cases same
    rfl

/-! What an import leaves in the tables. -/

/-- The receipt a slot has after a statement: the stated one, else the stored one. -/
def statedReceipt (store : AccountingStore) (job : String) (attempt : Int)
    (receipts : List ProviderAccountingReceipt) (slot : String) :
    Option ProviderAccountingReceipt :=
  (receipts.reverse.find? fun receipt => receipt.slot == slot).or
    (store.slotReceipt job attempt slot)

structure SameAttempts (store next : AccountingStore) : Prop where
  admission : next.toAdmissionStore = store.toAdmissionStore
  reported : next.terminalUsage = store.terminalUsage

theorem importReceipt_eq_ok {receipt : ProviderAccountingReceipt}
    (done : importReceipt job attempt store receipt = .ok next) :
    SameAttempts store next ∧ next.manifests = store.manifests ∧
      ∀ otherJob otherAttempt slot, next.slotReceipt otherJob otherAttempt slot =
        if (otherJob, otherAttempt, slot) = (job, attempt, receipt.slot) then some receipt
        else store.slotReceipt otherJob otherAttempt slot := by
  rw [importReceipt, refuse_bind_eq_ok] at done
  have upserted := done.2
  unfold upsertReceipt at upserted
  split at upserted
  · -- the slot had a receipt, and its row is updated
    rename_i previous found
    rw [refuse_bind_eq_ok] at upserted
    cases upserted.2
    refine ⟨⟨rfl, rfl⟩, rfl, fun otherJob otherAttempt slot => ?_⟩
    have kept := store.providerReceipts.find_updateWhere
      (ProviderReceiptRow.isSlot job attempt receipt.slot)
      (ProviderReceiptRow.isSlot otherJob otherAttempt slot)
      ({ · with receipt := receipt }) (fun _ _ _ => ⟨id, id⟩) fun _ => rfl
    simp only [AccountingStore.slotReceipt, kept] at found ⊢
    by_cases here : (otherJob, otherAttempt, slot) = (job, attempt, receipt.slot)
    · cases here
      obtain ⟨row, known, _⟩ := Option.map_eq_some_iff.mp found
      simp [known, Table.alter, (find_eq_some known).2]
    · rw [if_neg here]
      cases known : store.providerReceipts.find
          (ProviderReceiptRow.isSlot otherJob otherAttempt slot) with
      | none => rfl
      | some row =>
        have miss : ¬ row.isSlot job attempt receipt.slot := by
          intro hit
          have mine := (find_eq_some known).2
          simp only [ProviderReceiptRow.isSlot, Bool.and_eq_true, beq_iff_eq] at hit mine
          exact here (by rw [← mine.1.1, ← mine.1.2, ← mine.2, hit.1.1, hit.1.2, hit.2])
        simp [Table.alter, miss]
  · rename_i absent
    rw [okOr_bind_eq_ok] at upserted
    obtain ⟨_, inserted, same⟩ := upserted
    cases same
    refine ⟨⟨rfl, rfl⟩, rfl, fun otherJob otherAttempt slot => ?_⟩
    simp only [AccountingStore.slotReceipt, find_insert inserted] at absent ⊢
    by_cases here : (otherJob, otherAttempt, slot) = (job, attempt, receipt.slot)
    · cases here
      simp [Option.map_eq_none_iff.mp absent, ProviderReceiptRow.isSlot]
    · have miss : ¬ ((job = otherJob ∧ attempt = otherAttempt) ∧ receipt.slot = slot) := by
        rintro ⟨⟨rfl, rfl⟩, rfl⟩
        exact here rfl
      rw [if_neg here]
      simp [ProviderReceiptRow.isSlot, miss]

theorem importReceipts_eq_ok {receipts : List ProviderAccountingReceipt}
    (done : importReceipts store job attempt receipts = .ok next) :
    SameAttempts store next ∧ next.manifests = store.manifests ∧
      ∀ otherJob otherAttempt slot, next.slotReceipt otherJob otherAttempt slot =
        if (otherJob, otherAttempt) = (job, attempt) then
          statedReceipt store job attempt receipts slot
        else store.slotReceipt otherJob otherAttempt slot := by
  induction receipts generalizing store with
  | nil =>
    cases done
    refine ⟨⟨rfl, rfl⟩, rfl, fun otherJob otherAttempt slot => ?_⟩
    split
    · rename_i same
      cases same
      simp [statedReceipt]
    · rfl
  | cons receipt _ ih =>
    rw [importReceipts, foldlM_cons, bind_eq_ok] at done
    obtain ⟨_, first, others⟩ := done
    obtain ⟨same, kept, here⟩ := importReceipt_eq_ok first
    obtain ⟨later, unchanged, found⟩ := ih others
    refine ⟨⟨later.admission.trans same.admission, later.reported.trans same.reported⟩,
      unchanged.trans kept, fun otherJob otherAttempt slot => ?_⟩
    simp only [found, statedReceipt, here]
    by_cases apart : (otherJob, otherAttempt) = (job, attempt)
    · cases apart
      by_cases hit : slot = receipt.slot
      · simp [find?_append, hit]
      · simp [find?_append, hit, Ne.symm hit]
    · have other : ¬ (otherJob, otherAttempt, slot) = (job, attempt, receipt.slot) :=
        fun same => apart (by cases same; rfl)
      simp only [if_neg apart, if_neg other]

theorem mem_upsertTotals {row : AttemptTotalsRow}
    (member : row ∈ (upsertTotals store job attempt totals).attemptTotals.rows) :
    (isAttempt job attempt row ∧ row.tokens = totals.tokens ∧ row.cost = totals.costMicrounits) ∨
      (isAttempt job attempt row = false ∧ row ∈ store.attemptTotals.rows) := by
  obtain ⟨old, present, rfl⟩ := mem_map.mp member
  by_cases here : isAttempt job attempt old = true
  · rw [Table.alter, if_pos here]
    exact .inl ⟨here, rfl, rfl⟩
  · right
    rcases mem_insertOrIgnore present with kept | new
    · simpa [Table.alter, here] using kept
    · exact absurd (by simp [new, isAttempt]) here

theorem totalsRow_upsert (store : AccountingStore) (job : String) (attempt : Int)
    (totals : ExecutionOutcomeUsage) (otherJob : String) (otherAttempt : Int) :
    (upsertTotals store job attempt totals).totalsRow otherJob otherAttempt =
      if (otherJob, otherAttempt) = (job, attempt) then
        some ⟨job, attempt, totals.tokens, totals.costMicrounits, totals.knownTokens⟩
      else store.totalsRow otherJob otherAttempt := by
  have kept := (store.attemptTotals.insertOrIgnore
      ⟨job, attempt, totals.tokens, totals.costMicrounits, totals.knownTokens⟩).find_updateWhere
    (isAttempt job attempt) (fun row => row.jobId == otherJob && row.attempt == otherAttempt)
    (fun row => { row with
      tokens := totals.tokens
      cost := totals.costMicrounits
      knownTokens := totals.knownTokens }) (fun _ _ _ => ⟨id, id⟩) fun _ => rfl
  have added := store.attemptTotals.find_insertOrIgnore
    ⟨job, attempt, totals.tokens, totals.costMicrounits, totals.knownTokens⟩
    (fun row => row.jobId == otherJob && row.attempt == otherAttempt) (by
      rintro row ⟨sameJob, sameAttempt⟩ hit
      simpa [sameJob, sameAttempt] using hit)
  simp only [AdmissionStore.totalsRow, upsertTotals, kept, added]
  cases found : store.attemptTotals.find
      (fun row => row.jobId == otherJob && row.attempt == otherAttempt) with
  | none =>
    by_cases here : (otherJob, otherAttempt) = (job, attempt)
    · cases here
      simp [Table.alter, isAttempt]
    · rw [if_neg here]
      have miss : ¬ ((job == otherJob && attempt == otherAttempt) = true) := by
        intro hit
        simp only [Bool.and_eq_true, beq_iff_eq] at hit
        exact here (Prod.ext hit.1.symm hit.2.symm)
      simp [miss]
  | some row =>
    have key := (find_eq_some found).2
    simp only [Bool.and_eq_true, beq_iff_eq] at key
    by_cases here : (otherJob, otherAttempt) = (job, attempt)
    · cases here
      simp [Table.alter, isAttempt, key]
    · have miss : ¬ (isAttempt job attempt row = true) := by
        intro hit
        simp only [isAttempt, Bool.and_eq_true, beq_iff_eq] at hit
        exact here (Prod.ext (key.1.symm.trans hit.1) (key.2.symm.trans hit.2))
      rw [if_neg here, Option.some_or, Option.map_some, Table.alter, if_neg miss]

/-! Statements that leave nothing open. -/

def hasTotals (row : AttemptTotalsRow) : Bool := row.tokens.isSome && row.cost.isSome

/-- After the statement its own attempt has complete totals: it has them already, or
every slot has a complete receipt. -/
def statesAttempt (store : AccountingStore) (statement : AttemptAccountingStatement)
    (statementDigest : String) : Bool :=
  if isImported store statementDigest then
    (store.totalsRow statement.lease.jobId statement.lease.attempt).any hasTotals
  else statement.manifest.all fun slot =>
    (statedReceipt store statement.lease.jobId statement.lease.attempt statement.receipts
      slot).any isComplete

def statesOthers (store : AccountingStore) (job : String) (attempt : Int) : Bool :=
  (store.attemptTotals.rows.all fun row =>
      row.jobId != job || row.attempt == attempt || hasTotals row) &&
    store.attemptPending.rows.all fun row =>
      row.jobId != job || row.attempt == attempt || (store.totalsRow job row.attempt).isSome

/-- The current attempt has totals, or reported complete usage. -/
def statesCurrent (store : AccountingStore) (job : String) (attempt : Int)
    (current : ExecutionLeaseRecord) : Bool :=
  (current.attempt : Int) == attempt || (store.totalsRow job current.attempt).isSome ||
    (store.terminalUsageOf job current.attempt).any (·.resolved)

/-- Every attempt of the job is accounted for once the statement is in. -/
def Conclusive (codec : AccountingCodec) (leases : Leases) (store : AccountingStore)
    (statement : AttemptAccountingStatement) : Prop :=
  statesAttempt store statement (codec.statementDigest (codec.encode statement)) = true ∧
    statesOthers store statement.lease.jobId statement.lease.attempt = true ∧
      ((leases statement.lease.jobId).all fun current =>
        statesCurrent store statement.lease.jobId statement.lease.attempt current) = true

instance (codec : AccountingCodec) (leases : Leases) (store : AccountingStore)
    (statement : AttemptAccountingStatement) :
    Decidable (Conclusive codec leases store statement) :=
  inferInstanceAs (Decidable (_ ∧ _ ∧ _))

/-- Every attempt of a job has complete totals, or has just reported them. -/
structure Accounted (store : AccountingStore) (job : String) (current : ExecutionLeaseRecord) :
    Prop where
  totals : ∀ row ∈ store.attemptTotals.rows, row.jobId = job → hasTotals row = true
  pending : ∀ row ∈ store.attemptPending.rows, row.jobId = job →
    (store.totalsRow job row.attempt).isSome = true
  current : (store.totalsRow job current.attempt).isSome = true ∨
    (store.terminalUsageOf job current.attempt).any (·.resolved) = true

theorem Accounted.figures (accounted : Accounted store job current) {figures : AttemptFigures}
    (member : figures ∈ attemptFigures store job) :
    figures.tokens.isSome ∧ figures.cost.isSome = true := by
  simp only [attemptFigures, mem_append, mem_map, mem_filter, Bool.and_eq_true,
    beq_iff_eq] at member
  rcases member with ⟨row, ⟨present, job_⟩, rfl⟩ | ⟨row, ⟨present, job_, open_⟩, _⟩
  · simpa [hasTotals] using accounted.totals row present job_
  · have known := accounted.pending row present job_
    rw [Option.isNone_iff_eq_none.mp open_] at known
    cases known

theorem mem_attemptFigures (known : (store.totalsRow job attempt).isSome) :
    ((attemptFigures store job).any fun figures => figures.attempt == attempt) = true := by
  obtain ⟨row, found⟩ := Option.isSome_iff_exists.mp known
  obtain ⟨present, hit⟩ := find_eq_some found
  simp only [Bool.and_eq_true, beq_iff_eq] at hit
  rw [any_eq_true]
  refine ⟨⟨row.attempt, row.tokens, row.cost, row.knownTokens⟩, ?_, by simp [hit.2]⟩
  simp only [attemptFigures, mem_append, mem_map, mem_filter, beq_iff_eq]
  exact .inl ⟨row, ⟨present, hit.1⟩, rfl⟩

theorem Accounted.jobUsage_resolved (accounted : Accounted store job current)
    {original : ExecutionOutcomeUsage} (done : jobUsage store job current original = .ok usage) :
    usage.resolved = true := by
  simp only [jobUsage, eq_ok] at done
  obtain ⟨summed, folded, total, added, _, _, same⟩ := done
  have complete : summed.resolved := by
    apply foldlM_keeps (·.resolved = true) _ rfl folded
    intro figures member _ _ known step
    have both := accounted.figures member
    exact addAttemptOrLower_resolved step known both.1 both.2
  have whole : total.resolved := by
    unfold addCurrentUnlessKnown at added
    split at added
    · exact Except.ok.inj added ▸ complete
    · rename_i absent
      rcases accounted.current with known | reported
      · exact absurd (mem_attemptFigures known) absent
      · cases found : store.terminalUsageOf job current.attempt with
        | none => simp [found] at reported
        | some _ =>
          simp only [found, Option.any_some, ExecutionOutcomeUsage.resolved,
            Bool.and_eq_true] at reported
          apply addAttemptOrLower_resolved added complete <;> simp [found, reported]
  cases same
  exact whole

structure Imports (store next : AccountingStore) (statement : AttemptAccountingStatement)
    (merged : ExecutionOutcomeUsage) : Prop where
  reconciliation : next.reconciliation = store.reconciliation
  facts : next.reconciliationFacts = store.reconciliationFacts
  pending : next.attemptPending = store.attemptPending
  reported : next.terminalUsage = store.terminalUsage
  totals : next.attemptTotals = (upsertTotals store statement.lease.jobId
    statement.lease.attempt merged).attemptTotals

theorem importStatement_eq_ok {statementDigest now : String}
    (done : importStatement store statement statementDigest now = .ok next) :
    ∃ merged, Imports store next statement merged ∧
      ((∀ slot ∈ statement.manifest, (statedReceipt store statement.lease.jobId
        statement.lease.attempt statement.receipts slot).any isComplete) → merged.resolved) := by
  simp only [importStatement, eq_ok] at done
  obtain ⟨_, _, _, importing, _, summed, merged, merging, _, _, same⟩ := done
  obtain ⟨⟨admission, reported⟩, _, stated⟩ := importReceipts_eq_ok importing
  cases same
  refine ⟨merged, ⟨?_, ?_, ?_, reported, ?_⟩, fun covered => ?_⟩
  · exact congrArg (·.reconciliation) admission
  · exact congrArg (·.reconciliationFacts) admission
  · exact congrArg (·.attemptPending) admission
  · simp only [upsertTotals, admission]
  · rw [mergeTerminalMetrics_resolved merging]
    apply statementTotals_resolved summed
    intro slot member
    rw [stated, if_pos rfl]
    exact covered slot member

/-- The attempts of a job are accounted for when the stated one is and the others, kept
as they were, are. -/
theorem accounted_of_stated
    (own : ∀ row ∈ next.attemptTotals.rows, isAttempt job attempt row → hasTotals row)
    (kept : ∀ row ∈ next.attemptTotals.rows, isAttempt job attempt row = false →
      row ∈ store.attemptTotals.rows) (known : ∀ other : Int, (next.totalsRow job other).isSome =
      ((store.totalsRow job other).isSome || attempt == other))
    (pending : next.attemptPending = store.attemptPending)
    (reported : next.terminalUsage = store.terminalUsage) (others : statesOthers store job attempt)
    (currents : statesCurrent store job attempt current) : Accounted next job current := by
  simp only [statesOthers, Bool.and_eq_true, all_eq_true, Bool.or_eq_true, bne_iff_ne,
    beq_iff_eq] at others
  constructor
  · intro row member here
    by_cases mine : isAttempt job attempt row = true
    · exact own row member mine
    · rw [Bool.not_eq_true] at mine
      rcases others.1 row (kept row member mine) with (foreign | same) | total
      · exact absurd here foreign
      · simp [isAttempt, here, same] at mine
      · exact total
  · intro row member here
    rw [pending] at member
    rw [known]
    rcases others.2 row member with (foreign | same) | total
    · exact absurd here foreign
    · simp [same]
    · simp [total]
  · simp only [statesCurrent, Bool.or_eq_true, beq_iff_eq] at currents
    rw [known, AccountingStore.terminalUsageOf, reported]
    rcases currents with (same | total) | reportedHere
    · simp [same]
    · simp [total]
    · exact .inr reportedHere

theorem Conclusive.accounted {codec : AccountingCodec} {leases : Leases} {now : String}
    (conclusive : Conclusive codec leases store statement)
    (held : leases statement.lease.jobId = some current)
    (done : importOnce store statement (codec.statementDigest (codec.encode statement)) now =
      .ok next) : Accounted next statement.lease.jobId current := by
  obtain ⟨own, others, currents⟩ := conclusive
  rw [held, Option.all_some] at currents
  unfold importOnce at done
  unfold statesAttempt at own
  split at done
  · -- a replay: the tables are as they were, and the attempt has its totals
    rename_i imported
    rw [if_pos imported] at own
    cases done
    cases found : store.totalsRow statement.lease.jobId statement.lease.attempt with
    | none => simp [found] at own
    | some _ =>
      rw [found, Option.any_some] at own
      obtain ⟨present, hit⟩ := find_eq_some found
      simp only [Bool.and_eq_true, beq_iff_eq] at hit
      apply accounted_of_stated _ (fun _ member _ => member) _ rfl rfl others currents
      · intro row member mine
        simp only [isAttempt, Bool.and_eq_true, beq_iff_eq] at mine
        rwa [store.attemptTotals.eq_of_clash (fun _ _ => And.imp Eq.symm Eq.symm) member present
          ⟨mine.1.trans hit.1.symm, mine.2.trans hit.2.symm⟩]
      · intro other
        by_cases same : statement.lease.attempt = other
        · simp [← same, found]
        · simp [same]
  · rename_i fresh
    rw [if_neg fresh, all_eq_true] at own
    obtain ⟨merged, imports, complete⟩ := importStatement_eq_ok done
    have resolved := complete own
    apply accounted_of_stated _ _ _ imports.pending imports.reported others currents
    · intro row member mine
      rw [imports.totals] at member
      rcases mem_upsertTotals member with ⟨_, tokens, cost⟩ | ⟨other, _⟩
      · simpa [hasTotals, tokens, cost, ExecutionOutcomeUsage.resolved] using resolved
      · exact nomatch mine.symm.trans other
    · intro row member other
      rw [imports.totals] at member
      rcases mem_upsertTotals member with ⟨mine, _⟩ | ⟨_, old⟩
      · exact nomatch mine.symm.trans other
      · exact old
    · intro other
      have row := totalsRow_upsert store statement.lease.jobId statement.lease.attempt merged
        statement.lease.jobId other
      rw [AdmissionStore.totalsRow, ← imports.totals] at row
      rw [AdmissionStore.totalsRow, row]
      by_cases same : other = statement.lease.attempt
      · simp [same]
      · simp [same, Ne.symm same]

end AttemptAccounting

end WinWinCode.Storage
