import WinWinCode.Storage.AccountingRuns

/-!
Provider accounting over runs of `reconcile_provider_attempt`. A slot's receipt is
only ever completed, so the amounts of a slot never go back, and neither do the
totals of an attempt, which are the sums over its manifest. The other tables that a
call writes (the reconciliation rows) only matter for the usage an attempt reported
itself.
-/

namespace WinWinCode.Storage

open Fallible Tables ExecutionAdmission AttemptAccounting AccountingStore List Table

structure ProviderCall where
  leases : Leases
  statement : AttemptAccountingStatement
  now : String

def knownSum (amounts : List (Option Nat)) : Option Nat :=
  if amounts.all Option.isSome then some (amounts.map (·.getD 0)).sum else none

def ProviderAccountingReceipt.floor (receipt : ProviderAccountingReceipt) : Nat :=
  receipt.tokens.getD receipt.knownTokens

/-- A later receipt of a slot: known amounts stay, and the lower bound does not fall. -/
structure ProviderAccountingReceipt.CompletedBy (previous next : ProviderAccountingReceipt) :
    Prop where
  provider : next.providerId = previous.providerId
  receiptId : next.providerReceiptId = previous.providerReceiptId
  tokens : ∀ amount, previous.tokens = some amount → next.tokens = some amount
  cost : ∀ amount, previous.costMicrounits = some amount → next.costMicrounits = some amount
  knownTokens : previous.knownTokens ≤ next.knownTokens

namespace AccountingStore

/-- A store without any provider accounting; the other tables are arbitrary. -/
def unstated (admission : AdmissionStore)
    (terminalUsage : Table TerminalUsageRow TerminalUsageRow.Clash) : AccountingStore :=
  ⟨{ admission with attemptTotals := .empty }, .empty, .empty, .empty, terminalUsage⟩

variable (store : AccountingStore) (job : String) (attempt : Int)

def manifestOf : Option (List String) :=
  (store.manifests.find fun row => row.jobId == job && row.attempt == attempt).map (·.manifest)

def slotTokens (slot : String) : Option Nat :=
  (store.slotReceipt job attempt slot).bind (·.tokens)

def slotCost (slot : String) : Option Nat :=
  (store.slotReceipt job attempt slot).bind (·.costMicrounits)

def slotFloor (slot : String) : Nat :=
  ((store.slotReceipt job attempt slot).map (·.floor)).getD 0

def floorSum (manifest : List String) : Nat :=
  (manifest.map (store.slotFloor job attempt)).sum

/-- What the attempt reported itself, as `merge_terminal_metrics` reads it. -/
def reportedUsage : Option ExecutionOutcomeUsage :=
  (store.terminalUsageOf job attempt).or
    (if store.attemptPending.rows.any fun row => row.jobId == job then none
    else (store.reconciliationRow job).map (·.terminalUsage))

def reportedTokens : Int :=
  max 0 (((store.reportedUsage job attempt).map (·.knownTokens)).getD 0)

def reconcile (digest : Digest) (codec : AccountingCodec) (store : AccountingStore)
    (call : ProviderCall) : AccountingStore × StorageCheck :=
  reconcileProviderAttempt digest codec call.leases store call.statement call.now

end AccountingStore

variable {totals : ExecutionOutcomeUsage} {previous receipt : ProviderAccountingReceipt}
  {usage : ExecutionOutcomeUsage}

namespace AttemptAccounting

/-! Sums over slots. -/

theorem wordSum_eq_some {left right sum : Int} (summed : wordSum left right = some sum) :
    sum = left + right := by
  unfold wordSum at summed
  split at summed
  · exact (Option.some.inj summed).symm
  · cases summed

theorem safeSum_eq_some {left right sum : Int} (summed : safeSum left right = some sum) :
    sum = left + right := by
  rw [safeSum, Option.filter_eq_some_iff] at summed
  exact wordSum_eq_some summed.1

theorem addTotal_eq_ok {sum : Int → Int → Option Int} {total amount result : Option Int}
    (exact_ : ∀ {left right value}, sum left right = some value → value = left + right)
    (done : addTotal sum total amount = .ok result) :
    result = total.bind fun total => amount.map (total + ·) := by
  cases total <;> cases amount <;> simp only [addTotal] at done
  case some.some total amount =>
    cases added : okOr (sum total amount) invalid with
    | error _ => rw [added] at done; cases done
    | ok _ =>
      rw [added] at done
      rw [← Except.ok.inj done, exact_ (okOr_eq_ok.mp added)]
      rfl
  all_goals
    cases done
    rfl

theorem addAttemptOrLower_eq_ok {next : ExecutionOutcomeUsage} {tokens cost lower : Option Int}
    (done : addAttemptOrLower usage tokens cost lower = .ok next) :
    next.tokens = (usage.tokens.bind fun total => tokens.map (total + ·)) ∧
      next.costMicrounits = (usage.costMicrounits.bind fun total => cost.map (total + ·)) ∧
      next.knownTokens = usage.knownTokens + tokens.getD 0 + lower.getD 0 := by
  simp only [addAttemptOrLower, addAttempt, eq_ok] at done
  obtain ⟨_, ⟨known, counted, _, summed, _, costed, rfl⟩, done⟩ := done
  have raised : known = usage.knownTokens + tokens.getD 0 := by
    cases tokens with
    | none => simpa [addKnownTokens] using (Except.ok.inj counted).symm
    | some _ => exact safeSum_eq_some (okOr_eq_ok.mp counted)
  have totals := addTotal_eq_ok wordSum_eq_some summed
  have costs := addTotal_eq_ok safeSum_eq_some costed
  cases lower with
  | none =>
    cases done
    exact ⟨totals, costs, by simp [raised]⟩
  | some _ =>
    simp only [addLower, eq_ok] at done
    obtain ⟨_, added, rfl⟩ := done
    rw [Option.filter_eq_some_iff] at added
    refine ⟨totals, costs, ?_⟩
    rw [safeSum_eq_some added.1, raised]
    rfl

theorem knownSum_cons (amount : Option Nat) (rest : List (Option Nat)) :
    knownSum (amount :: rest) = amount.bind fun first => (knownSum rest).map (first + ·) := by
  cases amount with
  | none => simp [knownSum]
  | some _ =>
    by_cases known : rest.all Option.isSome = true
    · simp [knownSum, known]
    · simp [knownSum, known]

theorem add_knownSum_cons (total : Option Int) (amount : Option Nat) (rest : List (Option Nat)) :
    ((total.bind fun total => (amount.map Int.ofNat).map (total + ·)).bind fun total =>
        (knownSum rest).map fun sum => total + Int.ofNat sum) =
      total.bind fun total => (knownSum (amount :: rest)).map fun sum => total + Int.ofNat sum := by
  rw [knownSum_cons]
  cases total <;> cases amount <;> cases knownSum rest <;> simp [Int.add_assoc]

variable {statement : AttemptAccountingStatement} {store : AccountingStore}

theorem addSlots_eq_ok {slots : List String}
    (done : slots.foldlM (addSlot store statement) usage = .ok totals) :
    let job := statement.lease.jobId
    let attempt := statement.lease.attempt
    totals.tokens = (usage.tokens.bind fun total =>
        (knownSum (slots.map (store.slotTokens job attempt))).map fun sum => total + Int.ofNat sum) ∧
      totals.costMicrounits = (usage.costMicrounits.bind fun total =>
        (knownSum (slots.map (store.slotCost job attempt))).map fun sum => total + Int.ofNat sum) ∧
      totals.knownTokens = usage.knownTokens + Int.ofNat (store.floorSum job attempt slots) := by
  induction slots generalizing usage with
  | nil =>
    cases done
    simp [knownSum, floorSum]
  | cons slot _ ih =>
    rw [foldlM_cons, bind_eq_ok] at done
    obtain ⟨_, first, others⟩ := done
    obtain ⟨tokens, cost, known⟩ := addAttemptOrLower_eq_ok first
    obtain ⟨restTokens, restCost, restKnown⟩ := ih others
    refine ⟨?_, ?_, ?_⟩
    · rw [restTokens, tokens, map_cons, ← add_knownSum_cons, slotTokens, Option.map_bind]
      rfl
    · rw [restCost, cost, map_cons, ← add_knownSum_cons, slotCost, Option.map_bind]
      rfl
    · rw [restKnown, known]
      simp only [floorSum, map_cons, sum_cons, slotFloor]
      cases store.slotReceipt statement.lease.jobId statement.lease.attempt slot with
      | none => simp
      | some receipt =>
        cases tokens : receipt.tokens <;>
          simp [ProviderAccountingReceipt.floor, Option.filter, tokens, Int.add_assoc]

theorem statementTotals_eq_ok (done : statementTotals store statement = .ok totals) :
    let job := statement.lease.jobId
    let attempt := statement.lease.attempt
    totals.tokens = (knownSum (statement.manifest.map (store.slotTokens job attempt))).map
        Int.ofNat ∧
      totals.costMicrounits = (knownSum (statement.manifest.map (store.slotCost job attempt))).map
        Int.ofNat ∧
      totals.knownTokens = Int.ofNat (store.floorSum job attempt statement.manifest) := by
  obtain ⟨tokens, cost, known⟩ := addSlots_eq_ok done
  simp only [knownUsage, Option.bind_some, Int.zero_add] at tokens cost known
  exact ⟨tokens, cost, known⟩

theorem mergeTerminalMetrics_eq_ok {merged : ExecutionOutcomeUsage}
    (done : mergeTerminalMetrics store statement totals = .ok merged)
    (natural : 0 ≤ totals.knownTokens) :
    merged.tokens = totals.tokens ∧ merged.costMicrounits = totals.costMicrounits ∧
      merged.knownTokens = max totals.knownTokens
        (store.reportedTokens statement.lease.jobId statement.lease.attempt) := by
  unfold mergeTerminalMetrics at done
  have same : terminalMetrics store statement =
      store.reportedUsage statement.lease.jobId statement.lease.attempt := rfl
  unfold reportedTokens
  rw [same] at done
  split at done
  · rename_i absent
    rw [← Except.ok.inj done, absent]
    refine ⟨rfl, rfl, ?_⟩
    simp [natural]
  · rename_i terminal present
    simp only [eq_ok] at done
    obtain ⟨_, _, _, _, rfl⟩ := done
    rw [present]
    refine ⟨rfl, rfl, ?_⟩
    simp only [Option.map_some, Option.getD_some]
    rw [← max_assoc, max_eq_left natural]

/-! Receipts of slots. -/

theorem completedBy_of_not_contradicts (fits : ¬ contradicts previous receipt) :
    previous.CompletedBy receipt := by
  simp only [contradicts, Bool.or_eq_true, not_or, Bool.not_eq_true, Bool.and_eq_false_iff,
    bne_eq_false_iff_eq, decide_eq_false_iff_not, not_lt] at fits
  obtain ⟨⟨⟨⟨⟨⟨_, provider⟩, receiptId⟩, tokens⟩, cost⟩, known⟩, _⟩ := fits
  refine ⟨provider.symm, receiptId.symm, ?_, ?_, known⟩
  · intro _ stated
    simpa [stated] using tokens
  · intro _ stated
    simpa [stated] using cost

end AttemptAccounting

namespace ProviderAccountingReceipt

theorem CompletedBy.refl (receipt : ProviderAccountingReceipt) : receipt.CompletedBy receipt :=
  ⟨rfl, rfl, fun _ stated => stated, fun _ stated => stated, le_refl _⟩

theorem CompletedBy.trans {first second third : ProviderAccountingReceipt}
    (early : first.CompletedBy second) (late : second.CompletedBy third) :
    first.CompletedBy third where
  provider := late.provider.trans early.provider
  receiptId := late.receiptId.trans early.receiptId
  tokens := fun amount stated => late.tokens amount (early.tokens amount stated)
  cost := fun amount stated => late.cost amount (early.cost amount stated)
  knownTokens := le_trans early.knownTokens late.knownTokens

/-- The lower bound of a receipt is one of its tokens. -/
def Bounded (receipt : ProviderAccountingReceipt) : Prop :=
  ∀ amount, receipt.tokens = some amount → receipt.knownTokens ≤ amount

theorem CompletedBy.floor_le {next : ProviderAccountingReceipt}
    (completed : previous.CompletedBy next) (bounded : next.Bounded) :
    previous.floor ≤ next.floor := by
  unfold floor
  cases known : previous.tokens with
  | some amount => simp [completed.tokens amount known]
  | none =>
    cases stated : next.tokens with
    | none => exact completed.knownTokens
    | some amount => exact le_trans completed.knownTokens (bounded amount stated)

end ProviderAccountingReceipt

variable {statementDigest : String} {middle early late : AccountingStore} {now : String}
  {row : ReconciliationRow}

namespace AttemptAccounting

/-- The rows repeat the identity of the receipts they hold, and hold valid ones. -/
structure Rowed (row : ProviderReceiptRow) : Prop where
  slot : row.receipt.slot = row.slot
  provider : row.receipt.providerId = row.providerId
  receiptId : row.receipt.providerReceiptId = row.providerReceiptId
  bounded : row.receipt.Bounded

structure Completes (store next : AccountingStore) : Prop where
  rowed : (∀ row ∈ store.providerReceipts.rows, Rowed row) →
    ∀ row ∈ next.providerReceipts.rows, Rowed row
  slots : (∀ row ∈ store.providerReceipts.rows, Rowed row) →
    ∀ job attempt slot receipt, store.slotReceipt job attempt slot = some receipt →
      ∃ later, next.slotReceipt job attempt slot = some later ∧ receipt.CompletedBy later

variable {store next : AccountingStore} {job : String} {attempt : Int}
  {receipts : List ProviderAccountingReceipt} {statement : AttemptAccountingStatement}

theorem Completes.of_same (same : next.providerReceipts = store.providerReceipts) :
    Completes store next := by
  constructor
  · intro rowed
    rw [same]
    exact rowed
  · intro _ _ _ _ receipt known
    refine ⟨receipt, ?_, .refl receipt⟩
    rw [slotReceipt, same]
    exact known

theorem Completes.trans (first : Completes early middle) (second : Completes middle late) :
    Completes early late where
  rowed := fun rowed => second.rowed (first.rowed rowed)
  slots := by
    intro rowed job attempt slot receipt known
    obtain ⟨next, found, completed⟩ := first.slots rowed job attempt slot receipt known
    obtain ⟨last, end_, later⟩ := second.slots (first.rowed rowed) job attempt slot next found
    exact ⟨last, end_, completed.trans later⟩

/-- An imported receipt completes the receipt its slot had. -/
theorem importReceipt_completes (valid : receipt.Bounded)
    (done : importReceipt job attempt store receipt = .ok next) : Completes store next := by
  have slots := (importReceipt_eq_ok done).2.2
  rw [importReceipt, refuse_bind_eq_ok] at done
  have upserted := done.2
  unfold upsertReceipt at upserted
  split at upserted
  · rename_i previous found
    rw [refuse_bind_eq_ok] at upserted
    have completed := completedBy_of_not_contradicts upserted.1
    cases upserted.2
    constructor
    · intro rowed row member
      obtain ⟨old, present, rfl⟩ := mem_map.mp member
      by_cases hit : old.isSlot job attempt receipt.slot = true
      · rw [Table.alter, if_pos hit]
        have own := rowed old present
        obtain ⟨_, known, rfl⟩ := Option.map_eq_some_iff.mp found
        obtain ⟨listed, same⟩ := find_eq_some known
        simp only [ProviderReceiptRow.isSlot, Bool.and_eq_true, beq_iff_eq] at hit same
        -- A slot has one row, so the row hit is the one the receipt was compared with.
        rw [← store.providerReceipts.eq_of_clash
          (fun left right clash => clash.imp (fun key => ⟨key.1.symm, key.2.1.symm, key.2.2.symm⟩)
            fun key => ⟨key.1.symm, key.2.symm⟩) present listed
          (Or.inl ⟨hit.1.1.trans same.1.1.symm, hit.1.2.trans same.1.2.symm,
            hit.2.trans same.2.symm⟩)] at completed
        exact ⟨hit.2.symm, completed.provider.trans own.provider,
          completed.receiptId.trans own.receiptId, valid⟩
      · rw [Table.alter, if_neg hit]
        exact rowed old present
    · intro rowed _ _ _ stated known
      rw [slots]
      split
      · rename_i same
        cases same
        cases found.symm.trans known
        exact ⟨receipt, rfl, completed⟩
      · exact ⟨stated, known, .refl stated⟩
  · rename_i absent
    rw [okOr_bind_eq_ok] at upserted
    obtain ⟨_, inserted, same⟩ := upserted
    cases same
    constructor
    · intro rowed
      rw [(insert_eq_some.mp inserted).2]
      exact forall_mem_concat rowed ⟨rfl, rfl, rfl, valid⟩
    · intro _ _ _ _ stated known
      rw [slots, if_neg]
      · exact ⟨stated, known, .refl stated⟩
      · intro same
        cases same
        cases absent.symm.trans known

theorem importReceipts_completes (valid : ∀ receipt ∈ receipts, receipt.Bounded)
    (done : importReceipts store job attempt receipts = .ok next) : Completes store next := by
  apply foldlM_keeps (Completes store) _ (.of_same rfl) done
  exact fun receipt member reached later before added =>
    before.trans (importReceipt_completes (valid receipt member) added)

variable {manifest : List String}

theorem bounded_of_validateReceipts {seen : List String}
    (valid : AttemptAccountingStatement.validateReceipts manifest seen receipts = .ok ()) :
    ∀ receipt ∈ receipts, receipt.Bounded := by
  induction receipts generalizing seen with
  | nil => exact forall_mem_nil _
  | cons _ _ ih =>
    rw [AttemptAccountingStatement.validateReceipts, refuse_bind_eq_ok] at valid
    rw [forall_mem_cons]
    refine ⟨?_, ih valid.2⟩
    intro _ stated
    have checked := valid.1
    simp only [Bool.not_eq_false, AttemptAccountingStatement.validReceipt, Bool.and_eq_true]
      at checked
    simpa [stated] using checked.1.2

/-! Imports. -/

structure TotalsOf (store : AccountingStore) (job : String) (attempt : Int)
    (manifest : List String) (row : AttemptTotalsRow) : Prop where
  tokens : row.tokens = (knownSum (manifest.map (store.slotTokens job attempt))).map Int.ofNat
  cost : row.cost = (knownSum (manifest.map (store.slotCost job attempt))).map Int.ofNat
  floor : Int.ofNat (store.floorSum job attempt manifest) ≤ row.knownTokens

theorem TotalsOf.of_slots {row : AttemptTotalsRow}
    (totals : TotalsOf store job attempt manifest row)
    (same : ∀ slot, next.slotReceipt job attempt slot = store.slotReceipt job attempt slot) :
    TotalsOf next job attempt manifest row := by
  have tokens : next.slotTokens job attempt = store.slotTokens job attempt := by
    funext slot
    rw [slotTokens, same, slotTokens]
  have cost : next.slotCost job attempt = store.slotCost job attempt := by
    funext slot
    rw [slotCost, same, slotCost]
  have floors : next.slotFloor job attempt = store.slotFloor job attempt := by
    funext slot
    rw [slotFloor, same, slotFloor]
  refine ⟨?_, ?_, ?_⟩
  · rw [tokens]
    exact totals.tokens
  · rw [cost]
    exact totals.cost
  · rw [floorSum, floors]
    exact totals.floor

theorem manifestOf_insert
    (fits : ¬ ((store.manifests.find fun row => row.jobId == job && row.attempt == attempt).any
      fun row => row.manifest != manifest)) (otherJob : String) (otherAttempt : Int) :
    ({ store with manifests := store.manifests.insertOrIgnore ⟨job, attempt, manifest⟩ } :
        AccountingStore).manifestOf otherJob otherAttempt =
      if (otherJob, otherAttempt) = (job, attempt) then some manifest
      else store.manifestOf otherJob otherAttempt := by
  have added := store.manifests.find_insertOrIgnore ⟨job, attempt, manifest⟩
    (fun row => row.jobId == otherJob && row.attempt == otherAttempt) (by
      rintro row ⟨sameJob, sameAttempt⟩ hit
      simpa [sameJob, sameAttempt] using hit)
  simp only [manifestOf, added]
  by_cases here : (otherJob, otherAttempt) = (job, attempt)
  · cases here
    cases found : store.manifests.find fun row => row.jobId == job && row.attempt == attempt with
    | none => simp
    | some _ =>
      rw [found] at fits
      simpa using fits
  · rw [if_neg here]
    have miss : ¬ ((job == otherJob && attempt == otherAttempt) = true) := by
      intro hit
      simp only [Bool.and_eq_true, beq_iff_eq] at hit
      exact here (Prod.ext hit.1.symm hit.2.symm)
    simp [miss]

structure Stated (store next : AccountingStore) (statement : AttemptAccountingStatement)
    (row : AttemptTotalsRow) : Prop where
  manifests : ∀ job attempt, next.manifestOf job attempt =
    if (job, attempt) = (statement.lease.jobId, statement.lease.attempt) then
      some statement.manifest else store.manifestOf job attempt
  completes : Completes store next
  others : ∀ job attempt slot,
    (job, attempt) ≠ (statement.lease.jobId, statement.lease.attempt) →
      next.slotReceipt job attempt slot = store.slotReceipt job attempt slot
  rows : ∀ job attempt, next.totalsRow job attempt =
    if (job, attempt) = (statement.lease.jobId, statement.lease.attempt) then some row
    else store.totalsRow job attempt
  totals : TotalsOf next statement.lease.jobId statement.lease.attempt statement.manifest row
  known : row.knownTokens = max
    (Int.ofNat (next.floorSum statement.lease.jobId statement.lease.attempt statement.manifest))
    (next.reportedTokens statement.lease.jobId statement.lease.attempt)
  fixed : ∀ job attempt, next.reportedTokens job attempt = store.reportedTokens job attempt
  repeated : ∀ job attempt manifest, store.manifestOf job attempt = some manifest →
    (job, attempt) = (statement.lease.jobId, statement.lease.attempt) →
      manifest = statement.manifest

theorem importStatement_stated (valid : ∀ receipt ∈ statement.receipts, receipt.Bounded)
    (done : importStatement store statement statementDigest now = .ok next) :
    ∃ row, Stated store next statement row := by
  simp only [importStatement, eq_ok] at done
  obtain ⟨_, fits, receipted, importing, _, summed, merged, merging, _, _, rfl⟩ := done
  obtain ⟨⟨admission, reported⟩, manifests, slots⟩ := importReceipts_eq_ok importing
  have completes := importReceipts_completes valid importing
  obtain ⟨tokens, cost, known⟩ := statementTotals_eq_ok summed
  rcases mergeTerminalMetrics_eq_ok merging (by rw [known]; exact Int.natCast_nonneg _) with
    ⟨mergedTokens, mergedCost, mergedKnown⟩
  have inserted := manifestOf_insert fits
  have reportedSame : ∀ job attempt, receipted.reportedTokens job attempt =
      store.reportedTokens job attempt := by
    intro job attempt
    simp only [reportedTokens, reportedUsage,
      terminalUsageOf, AdmissionStore.reconciliationRow, admission, reported]
  refine ⟨⟨statement.lease.jobId, statement.lease.attempt, merged.tokens, merged.costMicrounits,
    merged.knownTokens⟩, ?_, ⟨completes.rowed, completes.slots⟩,
    fun job attempt slot other => (slots job attempt slot).trans (if_neg other), ?_, ?_, ?_,
    reportedSame, ?_⟩
  · intro job attempt
    rw [← inserted job attempt, manifestOf, manifestOf, ← manifests]
    rfl
  · intro job attempt
    have same : store.totalsRow job attempt = receipted.totalsRow job attempt := by
      rw [AdmissionStore.totalsRow, AdmissionStore.totalsRow, admission]
    rw [same]
    exact totalsRow_upsert receipted _ _ merged job attempt
  · refine ⟨mergedTokens.trans tokens, mergedCost.trans cost, ?_⟩
    rw [mergedKnown, known]
    exact le_max_left _ _
  · rw [mergedKnown, known]
    rfl
  · intro _ _ _ stored here
    cases here
    obtain ⟨_, found, rfl⟩ := Option.map_eq_some_iff.mp stored
    rw [found] at fits
    simpa using fits

/-! The rest of a call. -/

structure Frames (store next : AccountingStore) : Prop where
  manifests : next.manifests = store.manifests
  receipts : next.providerReceipts = store.providerReceipts
  facts : next.statementFacts = store.statementFacts
  totals : next.attemptTotals = store.attemptTotals
  pending : next.attemptPending = store.attemptPending
  reported : next.terminalUsage = store.terminalUsage
  usage : ∀ job row, store.reconciliationRow job = some row →
    ∃ later, next.reconciliationRow job = some later ∧ later.terminalUsage = row.terminalUsage

theorem Frames.refl (store : AccountingStore) : Frames store store :=
  ⟨rfl, rfl, rfl, rfl, rfl, rfl, fun _ row found => ⟨row, found, rfl⟩⟩

theorem Frames.trans (first : Frames early middle) (second : Frames middle late) :
    Frames early late where
  manifests := second.manifests.trans first.manifests
  receipts := second.receipts.trans first.receipts
  facts := second.facts.trans first.facts
  totals := second.totals.trans first.totals
  pending := second.pending.trans first.pending
  reported := second.reported.trans first.reported
  usage := by
    intro job row found
    obtain ⟨next, known, same⟩ := first.usage job row found
    obtain ⟨last, final, kept⟩ := second.usage job next known
    exact ⟨last, final, kept.trans same⟩

theorem find_insertOrIgnore_of_some {table : Table ReconciliationRow ReconciliationRow.Clash}
    {owed : ReconciliationRow} (found : table.find (·.jobId == job) = some row) :
    (table.insertOrIgnore owed).find (·.jobId == job) = some row := by
  rw [Table.find, insertOrIgnore_rows]
  split
  · exact found
  · rw [Table.find] at found
    rw [find?_append, found]
    rfl

theorem Frames.opened (store : AccountingStore) : Frames store (opened store) := by
  refine ⟨rfl, rfl, rfl, rfl, rfl, rfl, ?_⟩
  intro job row found
  refine ⟨row, ?_, rfl⟩
  let Kept (table : Table ReconciliationRow ReconciliationRow.Clash) : Prop :=
    table.find (·.jobId == job) = some row
  have kept : ∀ owed : List ReconciliationRow, ∀ table, Kept table →
      Kept (owed.foldl Table.insertOrIgnore table) := by
    intro owed
    induction owed with
    | nil => exact fun _ before => before
    | cons _ _ ih => exact fun table before => ih _ (find_insertOrIgnore_of_some before)
  exact kept _ _ found

theorem Frames.loaded {digest : Digest} {source : Option (String × ExecutionOutcomeUsage)}
    (done : loadReconciliationSource digest store job = .ok (next, source)) :
    Frames store next := by
  unfold loadReconciliationSource at done
  split at done
  · cases done
    exact .refl _
  · rw [bind_eq_ok] at done
    obtain ⟨found, _, done⟩ := done
    cases found with
    | none =>
      cases done
      exact .refl _
    | some _ =>
      cases done
      refine ⟨rfl, rfl, rfl, rfl, rfl, rfl, ?_⟩
      intro _ row found
      exact ⟨row, find_insertOrIgnore_of_some found, rfl⟩

theorem settleStatus_usage (store : AdmissionStore) (settlement : ReconciliationSettlement)
    (found : store.reconciliationRow job = some row) :
    ∃ later, (settleStatus store settlement).reconciliationRow job = some later ∧
      later.terminalUsage = row.terminalUsage := by
  unfold settleStatus
  split
  · have kept := store.reconciliation.find_updateWhere (isPendingFor settlement.jobId)
      (·.jobId == job) (markSettled settlement) (fun _ _ _ => ⟨id, id⟩) fun _ => rfl
    refine ⟨Table.alter (isPendingFor settlement.jobId) (markSettled settlement) row, ?_, ?_⟩
    · rw [AdmissionStore.reconciliationRow] at found ⊢
      rw [kept, found]
      rfl
    · unfold Table.alter
      split <;> rfl
  · exact ⟨row, found, rfl⟩

theorem Frames.settled {codec : AccountingCodec} {leases : Leases} {terminalId : String}
    {original : ExecutionOutcomeUsage} {answer : Unit}
    (done : settleTotals codec leases store statement statementDigest terminalId original now =
      .ok (next, answer)) : Frames store next := by
  simp only [settleTotals, eq_ok] at done
  obtain ⟨_, _, _, _, ⟨_, _⟩, imported, same⟩ := done
  cases same
  rw [admitted, mapError_eq_ok, settleImported, refuse_bind_eq_ok] at imported
  have settled := imported.2
  simp only [settleReconciliationWithAuthority, eq_ok] at settled
  obtain ⟨_, _, _, _, _, _, _, _, _, _, settled⟩ := settled
  split at settled
  · simp only [replayFact, eq_ok] at settled
    obtain ⟨_, _, _, _, _, _, same⟩ := settled
    cases same
    exact .refl store
  · simp only [appendFact, eq_ok] at settled
    obtain ⟨_, _, _, _, _, _, facts, _, same⟩ := settled
    cases same
    refine ⟨rfl, rfl, rfl, ?_, ?_, rfl, ?_⟩
    · simp only [withAdmission, settleStatus]
      split <;> rfl
    · simp only [withAdmission, settleStatus]
      split <;> rfl
    · intro _ _ found
      exact settleStatus_usage { store.toAdmissionStore with reconciliationFacts := facts } _ found

/-- The totals of a job are settled without touching the accounting of its attempts. -/
theorem Frames.reconciled (digest : Digest) (codec : AccountingCodec) (leases : Leases)
    (store : AccountingStore) (statement : AttemptAccountingStatement)
    (statementDigest now : String) :
    Frames store (reconcileAttemptTotals digest codec leases store statement
      statementDigest now).1 := by
  unfold reconcileAttemptTotals
  split
  · exact .refl store
  · rename_i sourced loaded
    exact .loaded loaded
  · rename_i sourced terminalId original loaded
    let Framed (reached : AccountingStore) : Prop := Frames store reached
    have kept : Framed (commit sourced (settleTotals codec leases sourced statement
        statementDigest terminalId original now)).1 :=
      commit_keeps (Frames.loaded loaded) fun _ _ done =>
        (Frames.loaded loaded).trans (.settled done)
    exact kept

theorem Frames.slotReceipt (frames : Frames store next) (job : String) (attempt : Int)
    (slot : String) : next.slotReceipt job attempt slot = store.slotReceipt job attempt slot := by
  rw [AccountingStore.slotReceipt, frames.receipts, AccountingStore.slotReceipt]

theorem Frames.reportedTokens_le (frames : Frames store next) (job : String) (attempt : Int) :
    store.reportedTokens job attempt ≤ next.reportedTokens job attempt := by
  simp only [reportedTokens, reportedUsage, terminalUsageOf, frames.reported, frames.pending]
  cases store.terminalUsage.find fun row => row.jobId == job && row.attempt == attempt with
  | some row => exact le_refl _
  | none =>
    simp only [Option.map_none, Option.none_or]
    split
    · exact le_refl _
    · cases found : store.reconciliationRow job with
      | none => exact le_max_left _ _
      | some row =>
        obtain ⟨_, known, same⟩ := frames.usage job row found
        simp [known, same]

theorem importStatement_imported
    (done : importStatement store statement statementDigest now = .ok next) :
    isImported next statementDigest = true := by
  simp only [importStatement, eq_ok] at done
  obtain ⟨_, _, _, _, _, _, _, _, _, inserted, rfl⟩ := done
  simp only [isImported, (insert_eq_some.mp inserted).2]
  simp

inductive Reconciles (store : AccountingStore) (statement : AttemptAccountingStatement)
    (statementDigest : String) : AccountingStore → Prop
  | spared {next : AccountingStore} (frames : Frames store next) :
      Reconciles store statement statementDigest next
  | imported {before after next : AccountingStore} {row : AttemptTotalsRow}
      (opened : Frames store before) (stated : Stated before after statement row)
      (closed : Frames after next) (fresh : isImported store statementDigest = false)
      (known : isImported next statementDigest = true) :
      Reconciles store statement statementDigest next

theorem reconcileProviderAttempt_reconciles (digest : Digest) (codec : AccountingCodec)
    (leases : Leases) (store : AccountingStore) (statement : AttemptAccountingStatement)
    (now : String) : Reconciles store statement (codec.statementDigest (codec.encode statement))
      (reconcileProviderAttempt digest codec leases store statement now).1 := by
  have opening := Frames.opened store
  unfold reconcileProviderAttempt
  simp only
  split
  · exact .spared opening
  · rename_i imported checked
    simp only [importChecked, eq_ok, mapError_eq_ok] at checked
    obtain ⟨_, valid, _, _, _, _, importing⟩ := checked
    have closing := Frames.reconciled digest codec leases imported statement
      (codec.statementDigest (codec.encode statement)) now
    unfold importOnce at importing
    split at importing
    · -- the statement was imported before
      cases importing
      exact .spared (opening.trans closing)
    · rename_i unknown
      simp only [AttemptAccountingStatement.validate, eq_ok] at valid
      obtain ⟨_, _, _, _, _, receipts, _⟩ := valid
      rcases importStatement_stated (bounded_of_validateReceipts receipts) importing with
        ⟨row, stated⟩
      refine .imported opening stated closing ?_ ?_
      · simpa [isImported, opening.facts] using unknown
      · have known := importStatement_imported importing
        rw [isImported] at known ⊢
        rw [closing.facts]
        exact known

end AttemptAccounting

variable {store : AccountingStore}

namespace AccountingStore

open AttemptAccounting

structure Sound (store : AccountingStore) : Prop where
  rowed : ∀ row ∈ store.providerReceipts.rows, Rowed row
  totals : ∀ job attempt row, store.totalsRow job attempt = some row →
    ∃ manifest, store.manifestOf job attempt = some manifest ∧
      TotalsOf store job attempt manifest row ∧
      row.knownTokens ≤ max (Int.ofNat (store.floorSum job attempt manifest))
        (store.reportedTokens job attempt)
  stated : ∀ job attempt manifest, store.manifestOf job attempt = some manifest →
    (store.totalsRow job attempt).isSome

/-- How the accounting of an earlier state stands to that of a later one. -/
structure Precedes (early late : AccountingStore) : Prop where
  manifests : ∀ job attempt manifest, early.manifestOf job attempt = some manifest →
    late.manifestOf job attempt = some manifest
  slots : ∀ job attempt slot receipt, early.slotReceipt job attempt slot = some receipt →
    ∃ later, late.slotReceipt job attempt slot = some later ∧ receipt.CompletedBy later
  totals : ∀ job attempt row, early.totalsRow job attempt = some row →
    ∃ later, late.totalsRow job attempt = some later ∧ row.knownTokens ≤ later.knownTokens

theorem Precedes.refl (store : AccountingStore) : store.Precedes store where
  manifests := fun _ _ _ known => known
  slots := fun _ _ _ receipt known => ⟨receipt, known, .refl receipt⟩
  totals := fun _ _ row known => ⟨row, known, le_refl _⟩

theorem Precedes.trans (first : early.Precedes middle) (second : middle.Precedes late) :
    early.Precedes late where
  manifests := fun job attempt manifest known =>
    second.manifests job attempt manifest (first.manifests job attempt manifest known)
  slots := by
    intro job attempt slot receipt known
    obtain ⟨next, found, completed⟩ := first.slots job attempt slot receipt known
    obtain ⟨last, final, later⟩ := second.slots job attempt slot next found
    exact ⟨last, final, completed.trans later⟩
  totals := by
    intro job attempt row known
    obtain ⟨next, found, grows⟩ := first.totals job attempt row known
    obtain ⟨last, final, later⟩ := second.totals job attempt next found
    exact ⟨last, final, le_trans grows later⟩

theorem floorSum_of_slots {next : AccountingStore} {job : String} {attempt : Int}
    (same : ∀ slot, next.slotReceipt job attempt slot = store.slotReceipt job attempt slot)
    (manifest : List String) :
    next.floorSum job attempt manifest = store.floorSum job attempt manifest := by
  have floors : next.slotFloor job attempt = store.slotFloor job attempt := by
    funext slot
    rw [slotFloor, same, slotFloor]
  rw [floorSum, floors, floorSum]

section Framed
variable {next : AccountingStore} (frames : Frames store next)
include frames

theorem manifestOf_of_frames (job : String) (attempt : Int) :
    next.manifestOf job attempt = store.manifestOf job attempt := by
  rw [manifestOf, frames.manifests, manifestOf]

theorem totalsRow_of_frames (job : String) (attempt : Int) :
    next.totalsRow job attempt = store.totalsRow job attempt := by
  rw [AdmissionStore.totalsRow, frames.totals, AdmissionStore.totalsRow]

theorem Sound.of_frames (sound : store.Sound) : next.Sound where
  rowed := by
    rw [frames.receipts]
    exact sound.rowed
  totals := by
    intro job attempt row known
    rw [totalsRow_of_frames frames] at known
    obtain ⟨manifest, found, totals, capped⟩ := sound.totals job attempt row known
    refine ⟨manifest, ?_, totals.of_slots (frames.slotReceipt job attempt), ?_⟩
    · rw [manifestOf_of_frames frames]
      exact found
    · rw [floorSum_of_slots (frames.slotReceipt job attempt)]
      exact le_trans capped (max_le_max_left _ (frames.reportedTokens_le job attempt))
  stated := by
    intro job attempt manifest known
    rw [manifestOf_of_frames frames] at known
    rw [totalsRow_of_frames frames]
    exact sound.stated job attempt manifest known

theorem Precedes.of_frames : store.Precedes next where
  manifests := fun job attempt _ known => (manifestOf_of_frames frames job attempt).trans known
  slots := fun job attempt slot receipt known =>
    ⟨receipt, (frames.slotReceipt job attempt slot).trans known, .refl receipt⟩
  totals := fun job attempt row known =>
    ⟨row, (totalsRow_of_frames frames job attempt).trans known, le_refl _⟩

end Framed

section Imported
variable {next : AccountingStore} {statement : AttemptAccountingStatement} {row : AttemptTotalsRow}
  (stated : Stated store next statement row)
include stated

theorem Sound.of_stated (sound : store.Sound) : next.Sound where
  rowed := stated.completes.rowed sound.rowed
  totals := by
    intro job attempt found known
    rw [stated.rows] at known
    by_cases here : (job, attempt) = (statement.lease.jobId, statement.lease.attempt)
    · rw [if_pos here] at known
      cases known
      cases here
      refine ⟨statement.manifest, ?_, stated.totals, ?_⟩
      · rw [stated.manifests, if_pos rfl]
      · rw [stated.known]
    · rw [if_neg here] at known
      obtain ⟨manifest, listed, totals, capped⟩ := sound.totals job attempt found known
      have same := fun slot => stated.others job attempt slot here
      refine ⟨manifest, ?_, totals.of_slots same, ?_⟩
      · rw [stated.manifests, if_neg here]
        exact listed
      · rw [floorSum_of_slots same, stated.fixed]
        exact capped
  stated := by
    intro job attempt manifest known
    rw [stated.manifests] at known
    rw [stated.rows]
    split
    · rfl
    · rename_i apart
      rw [if_neg apart] at known
      exact sound.stated job attempt manifest known

theorem floorSum_le_of_completes (sound : store.Sound) (job : String) (attempt : Int)
    (manifest : List String) :
    store.floorSum job attempt manifest ≤ next.floorSum job attempt manifest := by
  apply sum_le_sum
  intro slot _
  unfold slotFloor
  cases known : store.slotReceipt job attempt slot with
  | none => exact Nat.zero_le _
  | some receipt =>
    rcases stated.completes.slots sound.rowed job attempt slot receipt known with
      ⟨later, found, completed⟩
    rw [found]
    apply completed.floor_le
    obtain ⟨own, selected, rfl⟩ := Option.map_eq_some_iff.mp found
    exact (stated.completes.rowed sound.rowed own (find_eq_some selected).1).bounded

theorem Precedes.of_stated (sound : store.Sound) : store.Precedes next where
  manifests := by
    intro job attempt manifest known
    rw [stated.manifests]
    split
    · rename_i here
      rw [stated.repeated job attempt manifest known here]
    · exact known
  slots := stated.completes.slots sound.rowed
  totals := by
    intro job attempt old known
    rw [stated.rows]
    split
    · rename_i here
      refine ⟨row, rfl, ?_⟩
      obtain ⟨manifest, listed, _, capped⟩ := sound.totals job attempt old known
      have repeated := stated.repeated job attempt manifest listed here
      cases here
      subst repeated
      have grows := floorSum_le_of_completes stated sound statement.lease.jobId
        statement.lease.attempt statement.manifest
      rw [stated.known, stated.fixed]
      exact le_trans capped (max_le_max_right _ (Int.ofNat_le.mpr grows))
    · exact ⟨old, known, le_refl _⟩

end Imported

variable (digest : Digest) (codec : AccountingCodec)

theorem Sound.unstated (admission : AdmissionStore)
    (terminalUsage : Table TerminalUsageRow TerminalUsageRow.Clash) :
    (unstated admission terminalUsage).Sound where
  rowed := forall_mem_nil _
  totals := fun _ _ _ known => nomatch known
  stated := fun _ _ _ known => nomatch known

theorem Sound.reconcile (store : AccountingStore) (call : ProviderCall) (sound : store.Sound) :
    (store.reconcile digest codec call).1.Sound := by
  cases reconcileProviderAttempt_reconciles digest codec call.leases store call.statement
    call.now with
  | spared frames => exact sound.of_frames frames
  | imported opened stated closed _ _ =>
    exact ((sound.of_frames opened).of_stated stated).of_frames closed

theorem Precedes.reconcile (store : AccountingStore) (call : ProviderCall) (sound : store.Sound) :
    store.Precedes (store.reconcile digest codec call).1 := by
  cases reconcileProviderAttempt_reconciles digest codec call.leases store call.statement
    call.now with
  | spared frames => exact .of_frames frames
  | imported opened stated closed _ _ =>
    have before := Precedes.of_frames opened
    have inside := Precedes.of_stated stated (sound.of_frames opened)
    exact (before.trans inside).trans (.of_frames closed)

theorem Sound.attributed (sound : store.Sound) {left right : ProviderReceiptRow}
    (leftIn : left ∈ store.providerReceipts.rows) (rightIn : right ∈ store.providerReceipts.rows)
    (provider : left.receipt.providerId = right.receipt.providerId)
    (receiptId : left.receipt.providerReceiptId = right.receipt.providerReceiptId) :
    left = right := by
  have leftRowed := sound.rowed left leftIn
  have rightRowed := sound.rowed right rightIn
  apply store.providerReceipts.eq_of_clash _ leftIn rightIn
  · right
    rw [← leftRowed.provider, ← leftRowed.receiptId, provider, receiptId]
    exact ⟨rightRowed.provider, rightRowed.receiptId⟩
  · rintro _ _ (key | ids)
    · exact .inl ⟨key.1.symm, key.2.1.symm, key.2.2.symm⟩
    · exact .inr ⟨ids.1.symm, ids.2.symm⟩

def reconciled (store : AccountingStore) (calls : List ProviderCall) : AccountingStore :=
  Runs.after (fun store call => (store.reconcile digest codec call).1) store calls

/-- Provider accounting counts each receipt once and never goes back. A statement that was
imported before, or that a call does not import, leaves receipts, manifests and totals as
they are. -/
theorem provider_accounting_monotone (admission : AdmissionStore)
    (terminalUsage : Table TerminalUsageRow TerminalUsageRow.Clash)
    (early later : List ProviderCall) :
    let store := (unstated admission terminalUsage).reconciled digest codec early
    (∀ left ∈ store.providerReceipts.rows, ∀ right ∈ store.providerReceipts.rows,
      left.receipt.providerId = right.receipt.providerId →
      left.receipt.providerReceiptId = right.receipt.providerReceiptId → left = right) ∧
    (∀ job attempt manifest, store.manifestOf job attempt = some manifest →
      ∃ row, store.totalsRow job attempt = some row ∧ TotalsOf store job attempt manifest row) ∧
    (∀ job attempt, store.manifestOf job attempt = none → store.totalsRow job attempt = none) ∧
    store.Precedes (store.reconciled digest codec later) ∧
    ∀ call : ProviderCall,
      let statementDigest := codec.statementDigest (codec.encode call.statement)
      let next := (store.reconcile digest codec call).1
      (isImported store statementDigest = true ∨ isImported next statementDigest = false) →
        next.providerReceipts = store.providerReceipts ∧ next.manifests = store.manifests ∧
          next.attemptTotals = store.attemptTotals := by
  intro store
  have sound : store.Sound := Runs.after_invariant _ (Sound.reconcile digest codec)
    (Sound.unstated admission terminalUsage) early
  refine ⟨?_, ?_, ?_, ?_, ?_⟩
  · intro _ leftIn _ rightIn provider receiptId
    exact sound.attributed leftIn rightIn provider receiptId
  · intro job attempt manifest listed
    obtain ⟨row, known⟩ := Option.isSome_iff_exists.mp (sound.stated job attempt manifest listed)
    obtain ⟨_, found, totals, _⟩ := sound.totals job attempt row known
    rw [listed] at found
    cases found
    exact ⟨row, known, totals⟩
  · intro job attempt unlisted
    rw [Option.eq_none_iff_forall_ne_some]
    intro row known
    obtain ⟨_, found, _⟩ := sound.totals job attempt row known
    rw [unlisted] at found
    cases found
  · exact Runs.after_related _ Precedes.refl Precedes.trans (Sound.reconcile digest codec)
      (Precedes.reconcile digest codec) sound later
  · intro call _ _ unimported
    cases reconcileProviderAttempt_reconciles digest codec call.leases store call.statement
      call.now with
    | spared frames => exact ⟨frames.receipts, frames.manifests, frames.totals⟩
    | imported _ _ _ fresh known =>
      rcases unimported with before | unknown
      · exact absurd (before.symm.trans fresh) nofun
      · exact absurd (unknown.symm.trans known) nofun

def sampleSettled : AccountingStore :=
  Runs.after (step sampleDigest sampleCodec) .empty (sampleRun []).dropLast

/-- A statement of a lower cost is refused by the settlement of the job, after its receipt
and the totals of its attempt were stored. -/
theorem refused_statement_stored :
    let store := unstated sampleSettled.toAdmissionStore sampleSettled.terminalUsage
    let statement := sampleStatement [{ sampleReceipt with costMicrounits := some 2 }]
    let outcome := store.reconcile sampleDigest sampleCodec
      ⟨fun _ => some sampleLease, statement, sampleTime⟩
    statement.validate sampleCodec = .ok () ∧
      outcome.2 = .error (.adapter "settlement changed known accounting or authority") ∧
      store.providerReceipts.rows = [] ∧ store.attemptTotals.rows = [] ∧
      outcome.1.providerReceipts.rows.map (·.receipt) =
        [{ sampleReceipt with costMicrounits := some 2 }] ∧
      outcome.1.attemptTotals.rows = [⟨sampleLease.jobId, 1, some 3, some 2, 3⟩] := by
  decide +kernel

end AccountingStore

end WinWinCode.Storage
