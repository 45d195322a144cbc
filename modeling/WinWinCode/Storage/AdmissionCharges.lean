import WinWinCode.Storage.ExecutionAdmission

/-!
What a boundary is charged. `charged` says it without the tables: counts and
unbounded sums over the reservations under a boundary. The ledger finds those
reservations through its boundary rows and adds with checked arithmetic; where it
answers, the answer is `charged`.
-/

namespace WinWinCode.Storage

open Fallible Tables ExecutionAdmission List

namespace ExecutionReservationRecord

variable (row : ExecutionReservationRecord)

def boundaries : List ExecutionAdmissionBoundary :=
  requestBoundaries row.scope row.workerPoolId

theorem boundaries_nodup (row : ExecutionReservationRecord) : row.boundaries.Nodup := by
  cases delivery : row.scope.deliveryId <;>
    simp [boundaries, requestBoundaries, deliveryBoundaries, delivery]

def heldTokens : Nat :=
  match row.state with
  | .queued | .running => row.reservedTokens.getD 0
  | .released | .settled => 0

def heldCost : Nat :=
  match row.state with
  | .queued | .running => row.reservedCostMicrounits.getD 0
  | .released | .settled => 0

def spentTokens : Nat :=
  match row.state with
  | .settled => row.actualTokens.getD 0
  | .queued | .running | .released => 0

def spentCost : Nat :=
  match row.state with
  | .settled => row.actualCostMicrounits.getD 0
  | .queued | .running | .released => 0

def priced : Bool :=
  row.state != .settled || row.actualCostMicrounits.isSome

end ExecutionReservationRecord

namespace ExecutionAdmissionUsage

def plus (usage : ExecutionAdmissionUsage) (row : ExecutionReservationRecord) :
    ExecutionAdmissionUsage where
  queued := usage.queued + if row.state = .queued then 1 else 0
  running := usage.running + if row.state = .running then 1 else 0
  reservedTokens := usage.reservedTokens + row.heldTokens
  reservedCostMicrounits := usage.reservedCostMicrounits + row.heldCost
  committedTokens := usage.committedTokens + row.spentTokens
  accountingPending := usage.accountingPending
  committedCostMicrounits :=
    if row.priced then usage.committedCostMicrounits.map (· + row.spentCost) else none

variable (usage : ExecutionAdmissionUsage) (row : ExecutionReservationRecord)

theorem plus_eq : usage.plus row = match row.state with
      | .queued => { usage with
          queued := usage.queued + 1
          reservedTokens := usage.reservedTokens + row.reservedTokens.getD 0
          reservedCostMicrounits :=
            usage.reservedCostMicrounits + row.reservedCostMicrounits.getD 0 }
      | .running => { usage with
          running := usage.running + 1
          reservedTokens := usage.reservedTokens + row.reservedTokens.getD 0
          reservedCostMicrounits :=
            usage.reservedCostMicrounits + row.reservedCostMicrounits.getD 0 }
      | .settled => { usage with
          committedTokens := usage.committedTokens + row.actualTokens.getD 0
          committedCostMicrounits :=
            if row.actualCostMicrounits.isSome then
              usage.committedCostMicrounits.map (· + row.actualCostMicrounits.getD 0)
            else none }
      | .released => usage := by
  cases state : row.state <;>
    simp [plus, ExecutionReservationRecord.heldTokens, ExecutionReservationRecord.heldCost,
      ExecutionReservationRecord.spentTokens, ExecutionReservationRecord.spentCost,
      ExecutionReservationRecord.priced, state]

def plusAll (usage : ExecutionAdmissionUsage) (rows : List ExecutionReservationRecord) :
    ExecutionAdmissionUsage where
  queued := usage.queued + rows.countP (·.state = .queued)
  running := usage.running + rows.countP (·.state = .running)
  reservedTokens := usage.reservedTokens + (rows.map (·.heldTokens)).sum
  reservedCostMicrounits := usage.reservedCostMicrounits + (rows.map (·.heldCost)).sum
  committedTokens := usage.committedTokens + (rows.map (·.spentTokens)).sum
  accountingPending := usage.accountingPending
  committedCostMicrounits :=
    if rows.all (·.priced) then
      usage.committedCostMicrounits.map (· + (rows.map (·.spentCost)).sum)
    else none

theorem plusAll_cons (rest : List ExecutionReservationRecord) :
    usage.plusAll (row :: rest) = (usage.plus row).plusAll rest := by
  simp only [plusAll, plus, countP_cons, map_cons, sum_cons, all_cons,
    decide_eq_true_eq, Bool.and_eq_true, mk.injEq, true_and]
  refine ⟨by omega, by omega, by omega, by omega, by omega, ?_⟩
  by_cases known : row.priced = true <;> by_cases rest_ : rest.all (·.priced) = true
  · cases usage.committedCostMicrounits <;> simp [known, rest_, add_assoc]
  all_goals simp [known, rest_]

theorem foldl_plus (rows : List ExecutionReservationRecord) :
    rows.foldl plus usage = usage.plusAll rows := by
  induction rows generalizing usage with
  | nil => cases usage; simp [plusAll]
  | cons _ _ ih => rw [foldl_cons, ih, plusAll_cons]

def charged (rows : List ExecutionReservationRecord) : ExecutionAdmissionUsage :=
  zero.plusAll rows

end ExecutionAdmissionUsage

namespace AdmissionStore

def under (store : AdmissionStore) (boundary : ExecutionAdmissionBoundary) :
    List ExecutionReservationRecord :=
  store.reservations.rows.filter fun row => boundary ∈ row.boundaries

end AdmissionStore

variable {next : ExecutionAdmissionUsage}

namespace ExecutionAdmission

theorem checkedAdd_eq_ok {left right sum : Nat} {field : String}
    (done : checkedAdd left right field = .ok sum) : sum = left + right :=
  (Counting.checkedAdd_eq_some.mp (okOr_eq_ok.mp done)).2

theorem addCost_eq_ok {known cost total : Option Nat} (done : addCost known cost = .ok total) :
    total = if cost.isSome then known.map (· + cost.getD 0) else none := by
  cases known <;> cases cost <;> simp only [addCost, Except.map] at done
  case some.some known cost =>
    split at done
    · cases done
    · rename_i sum added
      simp [← Except.ok.inj done, checkedAdd_eq_ok added]
  all_goals simp [← Except.ok.inj done]

variable {usage : ExecutionAdmissionUsage} {row : ExecutionReservationRecord}

theorem addReserved_eq_ok (done : addReserved usage row = .ok next) : next = { usage with
      reservedTokens := usage.reservedTokens + row.reservedTokens.getD 0
      reservedCostMicrounits :=
        usage.reservedCostMicrounits + row.reservedCostMicrounits.getD 0 } := by
  simp only [addReserved, bind_eq_ok] at done
  obtain ⟨_, addedTokens, _, addedCost, same⟩ := done
  rw [← Except.ok.inj same, checkedAdd_eq_ok addedTokens, checkedAdd_eq_ok addedCost]

theorem addUnreconciled_eq_plus (done : addUnreconciled usage row = .ok next) :
    next = usage.plus row := by
  rw [usage.plus_eq]
  cases state : row.state <;> simp only [addUnreconciled, state, bind_eq_ok] at done
  case queued =>
    obtain ⟨_, counted, reserved⟩ := done
    rw [addReserved_eq_ok reserved, checkedAdd_eq_ok counted]
  case running =>
    obtain ⟨_, counted, reserved⟩ := done
    rw [addReserved_eq_ok reserved, checkedAdd_eq_ok counted]
  case released => rw [← Except.ok.inj done]
  case settled =>
    obtain ⟨_, actual, _, summed, _, added, same⟩ := done
    rw [← Except.ok.inj same, addCost_eq_ok added, checkedAdd_eq_ok summed, okOr_eq_ok.mp actual]
    rfl

/-- The only reconciled reservations are settled ones without a cost. -/
def Unpriced (store : AdmissionStore) (row : ExecutionReservationRecord) : Prop :=
  ∀ accounting, store.reconciledUsage row.jobId = some accounting →
    row.state = .settled ∧ row.actualCostMicrounits = none ∧
      ∃ tokens runtime : Nat, row.actualTokens = some tokens ∧
        accounting = tokenUsage tokens runtime

theorem addReconciled_tokenUsage {tokens runtime : Nat} {state : ExecutionReservationState}
    (done : addReconciled usage state (tokenUsage tokens runtime) = .ok next) : next = { usage with
      committedTokens := usage.committedTokens + tokens
      committedCostMicrounits := none } := by
  simp only [addReconciled, bind_eq_ok] at done
  obtain ⟨_, _, known, range, _, summed, pending, counted, cost, added, same⟩ := done
  have whole : known = tokens := by
    simpa [tokenUsage, toUnsigned, eq_comm] using okOr_eq_ok.mp range
  have still : pending = usage.accountingPending := (Except.ok.inj counted).symm
  have unknown : cost = none := by
    cases known : usage.committedCostMicrounits <;>
      simpa [tokenUsage, addReconciledCost, known, eq_comm] using added
  rw [← Except.ok.inj same, checkedAdd_eq_ok summed, whole, still, unknown]

theorem addRow_eq_plus {store : AdmissionStore} (unpriced : Unpriced store row)
    (done : addRow store usage row = .ok next) : next = usage.plus row := by
  unfold addRow at done
  split at done
  · rename_i accounting found
    obtain ⟨state, cost, _, _, actual, same⟩ := unpriced accounting found
    rw [same] at done
    rw [addReconciled_tokenUsage done, usage.plus_eq, state, cost, actual]
    rfl
  · exact addUnreconciled_eq_plus done

/-! The join. -/

def placedRows (digest : Digest) (job : String) :
    List ExecutionAdmissionBoundary → Nat → List ReservationBoundaryRow
  | [], _ => []
  | boundary :: rest, ordinal =>
    ⟨job, boundaryKey digest boundary, ordinal⟩ :: placedRows digest job rest (ordinal + 1)

theorem insertBoundaries_rows {digest : Digest} {job : String}
    {boundaries : List ExecutionAdmissionBoundary} {ordinal : Nat}
    {table next : Table ReservationBoundaryRow ReservationBoundaryRow.Clash}
    (done : insertBoundaries digest job boundaries ordinal table = .ok next) :
    next.rows = table.rows ++ placedRows digest job boundaries ordinal := by
  induction boundaries generalizing ordinal table with
  | nil => simp [placedRows, ← Except.ok.inj done]
  | cons _ _ ih =>
    rw [insertBoundaries, okOr_bind_eq_ok] at done
    obtain ⟨_, inserted, others⟩ := done
    rw [ih others, (Table.insert_eq_some.mp inserted).2, placedRows, append_assoc]
    rfl

theorem placedRows_joined (digest : Digest) (job key : String)
    (boundaries : List ExecutionAdmissionBoundary) (ordinal : Nat)
    (find : String → Option ExecutionReservationRecord) :
    ((placedRows digest job boundaries ordinal).filter fun row => row.boundaryKey == key).filterMap
        (find ·.jobId) =
      (boundaries.filter fun boundary => boundaryKey digest boundary == key).filterMap
        fun _ => find job := by
  induction boundaries generalizing ordinal with
  | nil => rfl
  | cons boundary _ ih =>
    by_cases wanted : boundaryKey digest boundary = key
    · simp [placedRows, wanted, filterMap_cons, ih]
    · simp [placedRows, wanted, ih]

end ExecutionAdmission

/-- The boundary rows are those of the reservations, and every boundary in use is
configured under its own key. -/
structure AdmissionStore.Indexed (digest : Digest) (store : AdmissionStore) : Prop where
  keyed : ∀ row ∈ store.policies.rows,
    row.boundaryKey = boundaryKey digest row.policy.boundary
  placed : store.reservationBoundaries.rows = store.reservations.rows.flatMap fun row =>
    placedRows digest row.jobId row.boundaries 0
  configured : ∀ row ∈ store.reservations.rows, ∀ boundary ∈ row.boundaries,
    ∃ policy ∈ store.policies.rows, policy.policy.boundary = boundary

namespace AdmissionStore

variable {store : AdmissionStore} {row : ExecutionReservationRecord}

theorem reservationRow_of_mem
    (member : row ∈ store.reservations.rows) : store.reservationRow row.jobId = some row := by
  have hit : ∃ found, store.reservationRow row.jobId = some found :=
    Table.find_isSome member (by simp)
  obtain ⟨_, known⟩ := hit
  obtain ⟨present, same⟩ := Table.find_eq_some known
  rw [known,
    store.reservations.eq_of_clash (fun _ _ => Eq.symm) present member (beq_iff_eq.mp same)]

variable {digest : Digest} {policy : AdmissionPolicyRow}

theorem flatMap_ite_singleton {α : Type} (rows : List α) (kept : α → Prop) [DecidablePred kept] :
    (rows.flatMap fun row => if kept row then [row] else []) = rows.filter fun row => kept row := by
  induction rows with
  | nil => rfl
  | cons row _ ih => by_cases here : kept row <;> simp [here, ih]

section
variable (indexed : store.Indexed digest)
include indexed

/-- Two boundaries in use do not share a key: the policy stored under it names one. -/
theorem Indexed.key_injective {left right : AdmissionPolicyRow}
    (leftIn : left ∈ store.policies.rows) (rightIn : right ∈ store.policies.rows)
    (same : boundaryKey digest left.policy.boundary = boundaryKey digest right.policy.boundary) :
    left = right :=
  store.policies.eq_of_clash (fun _ _ => Eq.symm) leftIn rightIn
    ((indexed.keyed left leftIn).trans (same.trans (indexed.keyed right rightIn).symm))

theorem Indexed.joined (configured : policy ∈ store.policies.rows)
    (member : row ∈ store.reservations.rows) :
    ((placedRows digest row.jobId row.boundaries 0).filter
        fun placed => placed.boundaryKey == policy.boundaryKey).filterMap
        (store.reservationRow ·.jobId) =
      if policy.policy.boundary ∈ row.boundaries then [row] else [] := by
  have wanted : row.boundaries.filter
      (boundaryKey digest · == policy.boundaryKey) =
      row.boundaries.filter (· == policy.policy.boundary) := by
    apply filter_congr
    intro boundary used
    obtain ⟨_, present, names⟩ := indexed.configured row member boundary used
    rw [Bool.eq_iff_iff, beq_iff_eq, beq_iff_eq, indexed.keyed policy configured]
    constructor
    · intro same
      rw [← names, indexed.key_injective present configured (names ▸ same)]
    · intro same
      rw [same]
  rw [placedRows_joined, wanted, filter_beq, reservationRow_of_mem member,
    row.boundaries_nodup.count]
  split <;> simp

theorem Indexed.boundaryReservations_eq (configured : policy ∈ store.policies.rows) :
    boundaryReservations store policy.boundaryKey = store.under policy.policy.boundary := by
  rw [boundaryReservations, indexed.placed, filter_flatMap, filterMap_flatMap, under,
    ← flatMap_ite_singleton]
  exact flatMap_congr fun row member => indexed.joined configured member

theorem Indexed.loadUsage_eq_charged
    (unpriced : ∀ row ∈ store.reservations.rows, Unpriced store row)
    (quiet : store.attemptPending.rows = []) (configured : policy ∈ store.policies.rows)
    {usage : ExecutionAdmissionUsage} (done : loadUsage store policy.boundaryKey = .ok usage) :
    usage = .charged (store.under policy.policy.boundary) := by
  rw [loadUsage, indexed.boundaryReservations_eq configured, bind_eq_ok] at done
  obtain ⟨_, folded, pending⟩ := done
  have none_ : (pendingAttempts store policy.boundaryKey).length = 0 := by
    simp [pendingAttempts, quiet]
  rw [none_] at pending
  rw [← Except.ok.inj pending, ExecutionAdmissionUsage.charged, ← ExecutionAdmissionUsage.foldl_plus]
  apply foldlM_eq_foldl _ folded
  intro row member _ _ added
  exact addRow_eq_plus (unpriced row (mem_of_mem_filter member)) added

end

end AdmissionStore

end WinWinCode.Storage
