import WinWinCode.Storage.ExecutionReconciliation
import WinWinCode.Storage.StorageErrors

/-!
Provider accounting of single attempts, from `execution_attempt_accounting.rs` and
`accounting.rs` of the execution port. A provider's statement names the slots of an
attempt and the receipts it has for them; an attempt's totals are known once every
slot has a receipt that knows them. After an import the totals of all attempts of a
terminal job are appended as its latest accounting fact. Columns that are written
and never read (`lease_json` of a manifest, `statement_json`) are left out.
-/

namespace WinWinCode.Storage

open Fallible Tables Text ExecutionAdmission

structure ProviderAccountingReceipt where
  (slot modelExchangeId providerId providerReceiptId sourceDigest : String)
  tokens : Option Nat
  knownTokens : Nat
  costMicrounits : Option Nat
deriving DecidableEq

structure AttemptAccountingStatement where
  lease : ExecutionLeaseStamp
  manifest : List String
  receipts : List ProviderAccountingReceipt

structure AccountingCodec where
  encode : AttemptAccountingStatement → String
  statementDigest : String → String
  /-- `req_` and the first symbols of the digest of job, terminal request and usage. -/
  settlementId : String → String → ExecutionOutcomeUsage → String
  leaseText : ExecutionLeaseRecord → String

namespace AttemptAccountingStatement

def maxAccountingStatementBytes : Nat := 2 * 1024 * 1024

def isControl (symbol : Char) : Bool :=
  decide (symbol.toNat < 32) || (decide (127 ≤ symbol.toNat) && decide (symbol.toNat < 160))

def isToken (bound : Nat) (value : String) : Bool :=
  value != "" && decide (value.utf8ByteSize ≤ bound) && !value.toList.any isControl

def isHexDigit (symbol : Char) : Bool :=
  symbol.isDigit || (decide ('a' ≤ symbol) && decide (symbol ≤ 'f')) ||
    (decide ('A' ≤ symbol) && decide (symbol ≤ 'F'))

def isDigest (value : String) : Bool :=
  match stripPrefix "sha256:" value with
  | some hex => hex.length == 64 && hex.all isHexDigit
  | none => false

def isAscending : List String → Bool
  | first :: second :: rest => decide (first < second) && isAscending (second :: rest)
  | _ => true

def validReceipt (manifest : List String) (seen : List String)
    (receipt : ProviderAccountingReceipt) : Bool :=
  manifest.contains receipt.slot && !seen.contains receipt.slot &&
    "mdl_".toList.isPrefixOf receipt.modelExchangeId.toList &&
    isToken 128 receipt.providerId && isToken 256 receipt.providerReceiptId &&
    isDigest receipt.sourceDigest &&
    receipt.tokens.all (fun value => decide (value ≤ maxSafeInteger)) &&
    decide (receipt.knownTokens ≤ maxSafeInteger) &&
    receipt.tokens.all (fun tokens => decide (receipt.knownTokens ≤ tokens)) &&
    receipt.costMicrounits.all (fun value => decide (value ≤ maxSafeInteger))

def validateReceipts (manifest : List String) :
    List String → List ProviderAccountingReceipt → Except String Unit
  | _, [] => .ok ()
  | seen, receipt :: rest => do
    refuse (validReceipt manifest seen receipt = false) "invalid Provider accounting receipt"
    validateReceipts manifest (receipt.slot :: seen) rest

def validate (codec : AccountingCodec) (statement : AttemptAccountingStatement) :
    Except String Unit := do
  refuse (statement.lease.attempt < 1 ∨ statement.manifest = [] ∨
      4096 < statement.manifest.length ∨
      statement.manifest.length < statement.receipts.length ∨
      isAscending statement.manifest = false) "invalid accounting manifest"
  refuse (statement.manifest.all (isToken 256) = false) "invalid accounting slot"
  validateReceipts statement.manifest [] statement.receipts
  refuse (maxAccountingStatementBytes < (codec.encode statement).utf8ByteSize)
    "accounting statement too large"

end AttemptAccountingStatement

/-! The tables. -/

structure AttemptManifestRow where
  jobId : String
  attempt : Int
  manifest : List String

abbrev AttemptManifestRow.Clash (left right : AttemptManifestRow) : Prop :=
  left.jobId = right.jobId ∧ left.attempt = right.attempt

structure ProviderReceiptRow where
  jobId : String
  attempt : Int
  (slot providerId providerReceiptId : String)
  receipt : ProviderAccountingReceipt

/-- Primary key `(job_id, attempt, slot)`, unique `(provider_id, provider_receipt_id)`. -/
abbrev ProviderReceiptRow.Clash (left right : ProviderReceiptRow) : Prop :=
  (left.jobId = right.jobId ∧ left.attempt = right.attempt ∧ left.slot = right.slot) ∨
    (left.providerId = right.providerId ∧ left.providerReceiptId = right.providerReceiptId)

def ProviderReceiptRow.isSlot (job : String) (attempt : Int) (slot : String)
    (row : ProviderReceiptRow) : Bool :=
  row.jobId == job && row.attempt == attempt && row.slot == slot

structure StatementFactRow where
  (statementDigest jobId : String)
  attempt : Int
  observedAt : String

abbrev StatementFactRow.Clash (left right : StatementFactRow) : Prop :=
  left.statementDigest = right.statementDigest

structure TerminalUsageRow where
  jobId : String
  attempt : Int
  usage : ExecutionOutcomeUsage

abbrev TerminalUsageRow.Clash (left right : TerminalUsageRow) : Prop :=
  left.jobId = right.jobId ∧ left.attempt = right.attempt

structure AccountingStore extends AdmissionStore where
  manifests : Table AttemptManifestRow AttemptManifestRow.Clash
  providerReceipts : Table ProviderReceiptRow ProviderReceiptRow.Clash
  statementFacts : Table StatementFactRow StatementFactRow.Clash
  terminalUsage : Table TerminalUsageRow TerminalUsageRow.Clash

namespace AccountingStore

def empty : AccountingStore := ⟨.empty, .empty, .empty, .empty, .empty⟩

section
variable (store : AccountingStore) (job : String) (attempt : Int)

def slotReceipt (slot : String) : Option ProviderAccountingReceipt :=
  (store.providerReceipts.find (ProviderReceiptRow.isSlot job attempt slot)).map (·.receipt)

def terminalUsageOf : Option ExecutionOutcomeUsage :=
  (store.terminalUsage.find fun row =>
    row.jobId == job && row.attempt == attempt).map (·.usage)

def pendingRow : Option AttemptPendingRow :=
  store.attemptPending.find fun row => row.jobId == job && row.attempt == attempt

def withAdmission (admission : AdmissionStore) : AccountingStore :=
  { store with toAdmissionStore := admission }

end

end AccountingStore

namespace AttemptAccounting

def invalid : StorageError :=
  .invalidInput "Provider attempt accounting conflicts with durable authority"

def adapter (message : String) : StorageError := .adapter message

def sqlFailure : StorageError := adapter "UNIQUE constraint failed"

def admitted {α : Type} (result : AdmissionResult α) : StorageResult α :=
  result.mapError fun error => adapter error.message

def sameLease (stamp : ExecutionLeaseStamp) (lease : ExecutionLeaseRecord) : Bool :=
  stamp.jobId == lease.jobId && stamp.leaseId == lease.leaseId &&
    stamp.workerId == lease.workerId && stamp.workerInstanceId == lease.workerInstanceId &&
    stamp.attempt == lease.attempt && stamp.fencingToken == lease.fencingToken &&
    stamp.issuedAt == lease.issuedAt

/-! Sums of usage. -/

def wordSum (left right : Int) : Option Int :=
  if -9223372036854775808 ≤ left + right ∧ left + right ≤ 9223372036854775807 then
    some (left + right)
  else none

def safeSum (left right : Int) : Option Int :=
  (wordSum left right).filter fun sum => sum ≤ maxSafeInteger

def statusOf (tokens : Option Int) : ExecutionOutcomeUsageAccountingStatus :=
  if tokens.isSome then .known else .unknown

def addKnownTokens (known : Int) : Option Int → StorageResult Int
  | some tokens => okOr (safeSum known tokens) invalid
  | none => .ok known

section
variable (usage : ExecutionOutcomeUsage) (tokens cost : Option Int)

/-- A sum is unknown once one of its terms is. -/
def addTotal (sum : Int → Int → Option Int) (total amount : Option Int) :
    StorageResult (Option Int) :=
  match total, amount with
  | some total, some amount => (okOr (sum total amount) invalid).map some
  | _, _ => .ok none

def addAttempt : StorageResult ExecutionOutcomeUsage := do
  let knownTokens ← addKnownTokens usage.knownTokens tokens
  let total ← addTotal wordSum usage.tokens tokens
  let totalCost ← addTotal safeSum usage.costMicrounits cost
  return { usage with
    knownTokens := knownTokens
    tokens := total
    costMicrounits := totalCost
    accountingStatus := statusOf total }

def addLower (lower : Int) : StorageResult ExecutionOutcomeUsage := do
  let knownTokens ← okOr ((safeSum usage.knownTokens lower).filter fun sum => 0 ≤ sum) invalid
  return { usage with knownTokens := knownTokens }

/-- An attempt with unknown tokens still raises what is known at least. -/
def addAttemptOrLower (lower : Option Int) : StorageResult ExecutionOutcomeUsage := do
  let added ← addAttempt usage tokens cost
  match lower with
  | some lower => addLower added lower
  | none => .ok added

end

def knownUsage (runtimeMillis : Int) : ExecutionOutcomeUsage :=
  ⟨.known, some 0, 0, runtimeMillis, some 0⟩

/-! `reconcile_provider_attempt`. -/

variable (leases : Leases) (store : AccountingStore) (statement : AttemptAccountingStatement)

/-- What a slot's receipt adds to the totals of its attempt; a slot without a receipt
makes them unknown. -/
def addSlot (totals : ExecutionOutcomeUsage) (slot : String) :
    StorageResult ExecutionOutcomeUsage :=
  let receipt := store.slotReceipt statement.lease.jobId statement.lease.attempt slot
  addAttemptOrLower totals (receipt.bind fun receipt => receipt.tokens.map Int.ofNat)
    (receipt.bind fun receipt => receipt.costMicrounits.map Int.ofNat)
    ((receipt.filter fun receipt => receipt.tokens.isNone).map fun receipt =>
      Int.ofNat receipt.knownTokens)

def statementTotals : StorageResult ExecutionOutcomeUsage :=
  statement.manifest.foldlM (addSlot store statement) (knownUsage 0)

/-- The usage the attempt itself reported; for a job without lost attempts, the terminal
usage of the job. -/
def terminalMetrics : Option ExecutionOutcomeUsage :=
  (store.terminalUsageOf statement.lease.jobId statement.lease.attempt).or
    (if store.attemptPending.rows.any fun row => row.jobId == statement.lease.jobId then none
    else (store.reconciliationRow statement.lease.jobId).map (·.terminalUsage))

def isBelow (left right : Option Int) : Bool :=
  left.any fun left => right.any fun right => left < right

section
variable (job : String) (attempt : Int)

def mergeTerminalMetrics (totals : ExecutionOutcomeUsage) : StorageResult ExecutionOutcomeUsage :=
  match terminalMetrics store statement with
  | none => .ok totals
  | some terminal => do
    refuse (isBelow totals.tokens terminal.tokens = true ∨
      isBelow totals.costMicrounits terminal.costMicrounits = true) invalid
    let merged := { totals with
      knownTokens := max totals.knownTokens terminal.knownTokens
      accountingStatus := statusOf totals.tokens }
    refuse (merged.validUsage = false) invalid
    return merged

/-- A receipt may complete what an earlier one left open, and nothing else. -/
def contradicts (previous receipt : ProviderAccountingReceipt) : Bool :=
  previous.modelExchangeId != receipt.modelExchangeId ||
    previous.providerId != receipt.providerId ||
    previous.providerReceiptId != receipt.providerReceiptId ||
    previous.tokens.any (fun value => receipt.tokens != some value) ||
    previous.costMicrounits.any (fun value => receipt.costMicrounits != some value) ||
    decide (receipt.knownTokens < previous.knownTokens) ||
    (previous.tokens == receipt.tokens && previous.costMicrounits == receipt.costMicrounits &&
      previous.knownTokens == receipt.knownTokens &&
      previous.sourceDigest != receipt.sourceDigest)

/-- `INSERT ... ON CONFLICT(job_id, attempt, slot) DO UPDATE SET receipt_json`. -/
def upsertReceipt (receipt : ProviderAccountingReceipt) : StorageResult AccountingStore :=
  match store.slotReceipt job attempt receipt.slot with
  | some previous => do
    refuse (contradicts previous receipt = true) invalid
    return { store with
      providerReceipts := store.providerReceipts.updateWhere
        (ProviderReceiptRow.isSlot job attempt receipt.slot)
        (fun row => { row with receipt := receipt }) fun _ _ _ => ⟨id, id⟩ }
  | none => do
    let rows ← okOr (store.providerReceipts.insert ⟨job, attempt, receipt.slot,
      receipt.providerId, receipt.providerReceiptId, receipt⟩) sqlFailure
    return { store with providerReceipts := rows }

/-- A provider's receipt id belongs to one slot of one attempt. -/
def importReceipt (store : AccountingStore)
    (receipt : ProviderAccountingReceipt) : StorageResult AccountingStore := do
  let owner := store.providerReceipts.find fun row =>
    row.providerId == receipt.providerId && row.providerReceiptId == receipt.providerReceiptId
  refuse ((owner.any fun row => !row.isSlot job attempt receipt.slot) = true) invalid
  upsertReceipt store job attempt receipt

def importReceipts (receipts : List ProviderAccountingReceipt) : StorageResult AccountingStore :=
  receipts.foldlM (importReceipt job attempt) store

def isAttempt (row : AttemptTotalsRow) : Bool :=
  row.jobId == job && row.attempt == attempt

/-- `INSERT ... ON CONFLICT(job_id, attempt) DO UPDATE` of an attempt's totals. -/
def upsertTotals (totals : ExecutionOutcomeUsage) : AccountingStore :=
  { store with
    attemptTotals := (store.attemptTotals.insertOrIgnore
        ⟨job, attempt, totals.tokens, totals.costMicrounits, totals.knownTokens⟩).updateWhere
      (isAttempt job attempt)
      (fun row => { row with
        tokens := totals.tokens
        cost := totals.costMicrounits
        knownTokens := totals.knownTokens }) fun _ _ _ => ⟨id, id⟩ }

end

def importStatement (statementDigest now : String) : StorageResult AccountingStore := do
  let job := statement.lease.jobId
  let attempt := statement.lease.attempt
  let known := store.manifests.find fun row => row.jobId == job && row.attempt == attempt
  refuse ((known.any fun row => row.manifest != statement.manifest) = true) invalid
  let manifested := { store with
    manifests := store.manifests.insertOrIgnore ⟨job, attempt, statement.manifest⟩ }
  let receipted ← importReceipts manifested job attempt statement.receipts
  let totals ← statementTotals receipted statement
  let merged ← mergeTerminalMetrics receipted statement totals
  let totaled := upsertTotals receipted job attempt merged
  let facts ← okOr (totaled.statementFacts.insert ⟨statementDigest, job, attempt, now⟩) sqlFailure
  return { totaled with statementFacts := facts }

def isImported (statementDigest : String) : Bool :=
  store.statementFacts.rows.any fun row => row.statementDigest == statementDigest

def importOnce (statementDigest now : String) : StorageResult AccountingStore :=
  if isImported store statementDigest then .ok store
  else importStatement store statement statementDigest now

abbrev Leases := String → Option ExecutionLeaseRecord

def terminalLease (job : String) : StorageResult ExecutionLeaseRecord := do
  let loaded ← admitted (loadReservationByJob store.toAdmissionStore job)
  let reservation ← okOr loaded invalid
  refuse (reservation.state ≠ .released ∧ reservation.state ≠ .settled) invalid
  okOr (leases job) invalid

/-- A statement is about a lost attempt, or about the lease of a terminal job. -/
def statedLease : StorageResult ExecutionLeaseRecord :=
  match store.pendingRow statement.lease.jobId statement.lease.attempt with
  | some row => .ok row.lease
  | none => terminalLease leases store statement.lease.jobId

/-! `reconcile_attempt_totals`. -/

structure AttemptFigures where
  attempt : Int
  (tokens cost : Option Int)
  lower : Int

section
variable (job : String) (attempt : Int) (usage : ExecutionOutcomeUsage)

def attemptFigures : List AttemptFigures :=
  ((store.attemptTotals.rows.filter fun row => row.jobId == job).map fun row =>
      ⟨row.attempt, row.tokens, row.cost, row.knownTokens⟩) ++
    ((store.attemptPending.rows.filter fun row => row.jobId == job &&
        (store.totalsRow job row.attempt).isNone).map fun row => ⟨row.attempt, none, none, 0⟩)

def addFigures (figures : AttemptFigures) : StorageResult ExecutionOutcomeUsage :=
  addAttemptOrLower usage figures.tokens figures.cost
    (if figures.tokens.isNone then some figures.lower else none)

/-- The current attempt counts with what it reported itself while it has no figures. -/
def addCurrent : StorageResult ExecutionOutcomeUsage :=
  let reported := store.terminalUsageOf job attempt
  addAttemptOrLower usage (reported.bind (·.tokens)) (reported.bind (·.costMicrounits))
    ((reported.filter fun usage => usage.tokens.isNone).map (·.knownTokens))

def addCurrentUnlessKnown : StorageResult ExecutionOutcomeUsage :=
  if (attemptFigures store job).any fun figures => figures.attempt == attempt then .ok usage
  else addCurrent store job attempt usage

def jobUsage (current : ExecutionLeaseRecord)
    (original : ExecutionOutcomeUsage) : StorageResult ExecutionOutcomeUsage := do
  let summed ← (attemptFigures store job).foldlM addFigures (knownUsage original.runtimeMillis)
  let usage ← addCurrentUnlessKnown store job current.attempt summed
  let raised := { usage with knownTokens := max usage.knownTokens original.knownTokens }
  refuse ((raised.tokens.any fun tokens => tokens < raised.knownTokens) = true) invalid
  return raised

end

def sourceUsage (fact : WorkerSettlementSourceFact) : ExecutionOutcomeUsage :=
  ⟨.known, fact.actualCostMicrounits.map Int.ofNat, fact.actualTokens, fact.actualRuntimeMillis,
    some fact.actualTokens⟩

/-- The terminal request and usage of a job. A settled job without a reconciliation row
gets one, outside any transaction. -/
def loadReconciliationSource (digest : Digest) (store : AccountingStore) (job : String) :
    StorageResult (AccountingStore × Option (String × ExecutionOutcomeUsage)) :=
  match store.reconciliationRow job with
  | some row => .ok (store, some (row.terminalRequestId, row.terminalUsage))
  | none => do
    match ← admitted (loadSettlementSource digest store.toAdmissionStore job) with
    | some fact =>
      .ok ({ store with
        reconciliation := store.reconciliation.insertOrIgnore
          (pendingReconciliation job fact.settlementRequestId (sourceUsage fact)) },
        some (fact.settlementRequestId, sourceUsage fact))
    | none => .ok (store, none)

/-- The fact that a job's totals amount to. A fact already stored keeps its time. -/
def totalsSettlement (codec : AccountingCodec) (store : AccountingStore) (job terminalId : String)
    (usage : ExecutionOutcomeUsage) (now : String) : ReconciliationSettlement :=
  let settlementId := codec.settlementId job terminalId usage
  ⟨job, terminalId, settlementId, usage,
    ((factRow store.toAdmissionStore settlementId).map (·.observedAt)).getD now⟩

def settleImported (statementDigest : String) (settlement : ReconciliationSettlement) :
    AdmissionResult (AdmissionStore × Bool) := do
  refuse ((store.statementFacts.rows.any fun row => row.statementDigest == statementDigest &&
      row.jobId == statement.lease.jobId && row.attempt == statement.lease.attempt) = false)
    (.invalid "Provider authority was not imported")
  settleReconciliationWithAuthority store.toAdmissionStore settlement true

section
variable (digest : Digest) (codec : AccountingCodec)

def settleTotals (leases : Leases) (store : AccountingStore)
    (statement : AttemptAccountingStatement) (statementDigest terminalId : String)
    (original : ExecutionOutcomeUsage) (now : String) : StorageResult (AccountingStore × Unit) := do
  let job := statement.lease.jobId
  let current ← okOr (leases job) invalid
  let usage ← jobUsage store job current original
  let (admission, _) ← admitted (settleImported store statement statementDigest
    (totalsSettlement codec store job terminalId usage now))
  return (store.withAdmission admission, ())

def reconcileAttemptTotals (leases : Leases)
    (store : AccountingStore) (statement : AttemptAccountingStatement)
    (statementDigest now : String) : AccountingStore × StorageCheck :=
  match loadReconciliationSource digest store statement.lease.jobId with
  | .error error => (store, .error error)
  | .ok (sourced, none) => (sourced, .ok ())
  | .ok (sourced, some (terminalId, original)) =>
    commit sourced (settleTotals codec leases sourced statement statementDigest terminalId
      original now)

def importChecked (leases : Leases) (store : AccountingStore)
    (statement : AttemptAccountingStatement) (statementDigest now : String) :
    StorageResult AccountingStore := do
  (statement.validate codec).mapError adapter
  let lease ← statedLease leases store statement
  refuse (sameLease statement.lease lease = false) invalid
  importOnce store statement statementDigest now

/-- Opening the admission ledger first; it is opened again before each of its look-ups,
which then finds nothing more to backfill. -/
def opened : AccountingStore :=
  store.withAdmission (openAdmission store.toAdmissionStore)

/-- An imported statement stays imported when the totals are refused. -/
def reconcileProviderAttempt (leases : Leases)
    (store : AccountingStore) (statement : AttemptAccountingStatement) (now : String) :
    AccountingStore × StorageCheck :=
  let statementDigest := codec.statementDigest (codec.encode statement)
  match importChecked codec leases (opened store) statement statementDigest now with
  | .error error => (opened store, .error error)
  | .ok imported =>
    reconcileAttemptTotals digest codec leases imported statement statementDigest now

end

/-! What attempts report, and which accounting is still awaited. -/

/-- `combine_execution_attempt_usage` keeps the usage an attempt reported. The combined
usage it answers with is read from the same tables and not stored. -/
def retainTerminalUsage (stamp : ExecutionLeaseStamp)
    (usage : ExecutionOutcomeUsage) : StorageResult (AccountingStore × Unit) := do
  refuse (usage.validUsage = false) invalid
  let current ← okOr (leases stamp.jobId) invalid
  refuse (sameLease stamp current = false) invalid
  refuse (((store.terminalUsageOf stamp.jobId stamp.attempt).any fun previous =>
    previous != usage) = true) invalid
  return ({ store with
    terminalUsage := store.terminalUsage.insertOrIgnore ⟨stamp.jobId, stamp.attempt, usage⟩ }, ())

structure AwaitedAccounting where
  jobId : String
  lease : Option ExecutionLeaseRecord

def awaitedAccounting : List AwaitedAccounting :=
  ((store.attemptPending.rows.filter (unresolvedAttempt store.toAdmissionStore)).map fun row =>
      ⟨row.jobId, some row.lease⟩) ++
    ((store.reconciliation.rows.filter fun row => row.accountingStatus == .pending).map fun row =>
      ⟨row.jobId, none⟩)

/-- `ORDER BY job_id, lease_json`, where `NULL` comes first. -/
def sortsBefore (codec : AccountingCodec) (left right : AwaitedAccounting) : Bool :=
  decide (left.jobId < right.jobId) || (left.jobId == right.jobId &&
    match left.lease, right.lease with
    | none, _ => true
    | some _, none => false
    | some left, some right => decide (codec.leaseText left ≤ codec.leaseText right))

def awaitedLease (awaited : AwaitedAccounting) : StorageResult ExecutionLeaseRecord :=
  match awaited.lease with
  | some lease => .ok lease
  | none => okOr (leases awaited.jobId) invalid

def leaseStamp (lease : ExecutionLeaseRecord) : StorageResult ExecutionLeaseStamp := do
  refuse (9223372036854775807 < lease.attempt) (adapter "out of range integral type conversion")
  return ⟨lease.jobId, lease.leaseId, lease.workerId, lease.workerInstanceId, lease.attempt,
    lease.fencingToken, lease.issuedAt, lease.expiresAt⟩

def awaitedStamp (awaited : AwaitedAccounting) : StorageResult ExecutionLeaseStamp := do
  let lease ← awaitedLease leases awaited
  leaseStamp lease

def pendingAccountingLeases (codec : AccountingCodec) (leases : Leases) (store : AccountingStore)
    (offset : Nat) : StorageResult (List ExecutionLeaseStamp) := do
  refuse (9223372036854775807 < offset) invalid
  let sorted := (awaitedAccounting (opened store)).insertionSort
    fun left right => sortsBefore codec left right = true
  ((sorted.drop offset).take 100).mapM (awaitedStamp leases)

end AttemptAccounting

end WinWinCode.Storage
