import WinWinCode.Storage.AdmissionRuns

/-!
Safety of the admission ledger over whole runs: no boundary is overcommitted, the
writers of a repository keep out of each other's way, terminal reservations stay
as they are, and an answered request keeps its answer.
-/

namespace WinWinCode.Storage

open Fallible Tables ExecutionAdmission List Table ExecutionAdmissionUsage Runs

/-! The limits of one boundary. -/

namespace ExecutionReservationRecord

def tokenCharge (row : ExecutionReservationRecord) : Nat := row.heldTokens + row.spentTokens

/-- An unknown cost counts as all that was reserved. -/
def costCharge (row : ExecutionReservationRecord) : Nat :=
  match row.state with
  | .queued | .running => row.reservedCostMicrounits.getD 0
  | .settled => row.actualCostMicrounits.getD (row.reservedCostMicrounits.getD 0)
  | .released => 0

variable {row : ExecutionReservationRecord}

theorem costCharge_of_priced (priced : row.priced) :
    row.costCharge = row.heldCost + row.spentCost := by
  cases state : row.state <;> simp only [costCharge, heldCost, spentCost, state, add_zero, zero_add]
  case settled =>
    cases cost : row.actualCostMicrounits with
    | none => simp [ExecutionReservationRecord.priced, state, cost] at priced
    | some _ => rfl

theorem le_of_not_exceeds {limit : Option Nat} {actual : Nat} (limited : limit.isSome)
    (within : exceeds limit actual = false) : actual ≤ limit.getD 0 := by
  cases limit with
  | none => cases limited
  | some _ => simpa [exceeds] using within

variable {progress : ExecutionReservationProgress}

theorem Moves.tokenCharge_le (move : row.Moves progress) (limited : row.reservedTokens.isSome) :
    (row.movedTo progress).tokenCharge ≤ row.tokenCharge := by
  cases move with
  | started _ source =>
    simp [tokenCharge, heldTokens, spentTokens, movedTo, advanced, transition, source]
  | released _ _ source =>
    simp [tokenCharge, heldTokens, spentTokens, movedTo, advanced, transition]
  | settled _ source tokens _ =>
    simpa [tokenCharge, heldTokens, spentTokens, movedTo, advanced, ExecutionAdmission.settled, source] using
      le_of_not_exceeds limited tokens

theorem Moves.costCharge_le (move : row.Moves progress)
    (limited : row.reservedCostMicrounits.isSome) :
    (row.movedTo progress).costCharge ≤ row.costCharge := by
  cases move with
  | started _ source => simp [costCharge, movedTo, advanced, transition, source]
  | released _ _ source => simp [costCharge, movedTo, advanced, transition]
  | settled request source _ cost =>
    cases known : request.actualCostMicrounits with
    | none => simp [costCharge, movedTo, advanced, ExecutionAdmission.settled, source, known]
    | some spent =>
      simpa [costCharge, movedTo, advanced, ExecutionAdmission.settled, source, known] using
        le_of_not_exceeds limited (cost spent known)

end ExecutionReservationRecord

/-- Reservations within the limits of their boundary. Under a budget every one of them
states what it may spend. -/
structure ExecutionAdmissionLimits.Covers (limits : ExecutionAdmissionLimits)
    (rows : List ExecutionReservationRecord) : Prop where
  running : rows.countP (·.state = .running) ≤ limits.maxConcurrent
  queued : rows.countP (·.state = .queued) ≤ limits.maxQueued
  tokens : ∀ budget, limits.tokenBudget = some budget →
    (∀ row ∈ rows, row.reservedTokens.isSome = true) ∧
      (rows.map (·.tokenCharge)).sum ≤ budget
  cost : ∀ budget, limits.costBudgetMicrounits = some budget →
    (∀ row ∈ rows, row.reservedCostMicrounits.isSome = true) ∧
      (rows.map (·.costCharge)).sum ≤ budget

variable {request : ExecutionReservationRequest}

namespace ExecutionAdmissionLimits.Covers

open ExecutionReservationRecord

variable {limits : ExecutionAdmissionLimits} {rows : List ExecutionReservationRecord}

theorem empty (limits : ExecutionAdmissionLimits) : limits.Covers [] where
  running := Nat.zero_le _
  queued := Nat.zero_le _
  tokens := by simp
  cost := by simp

variable {current : ExecutionReservationRecord} {progress : ExecutionReservationProgress}

theorem sum_replaced_le (charge : ExecutionReservationRecord → Nat)
    (freed : current ∈ rows → charge (current.movedTo progress) ≤ charge current) :
    ((replaced current progress rows).map charge).sum ≤ (rows.map charge).sum := by
  rw [replaced, map_map]
  apply sum_le_sum
  intro row member
  by_cases same : row = current
  · subst same
    simpa [alter] using freed member
  · simp [alter, same]

theorem limited_replaced (limit : ExecutionReservationClaim → Option Nat)
    (limited : ∀ row ∈ rows, (limit row.toExecutionReservationClaim).isSome) :
    ∀ row ∈ replaced current progress rows,
      (limit row.toExecutionReservationClaim).isSome = true := by
  intro _ member
  obtain ⟨old, present, rfl⟩ := mem_map.mp member
  by_cases same : old = current <;> simpa [alter, same] using limited old present

/-- A move stays within the limits; one into `running` needs a free place. -/
theorem moved (covers : limits.Covers rows) (move : current.Moves progress)
    (once : rows.countP (· == current) ≤ 1) (free : progress.state = .running → current ∈ rows →
      rows.countP (·.state = .running) < limits.maxConcurrent) :
    limits.Covers (replaced current progress rows) where
  running := by
    by_cases starts : progress.state = .running ∧ current ∈ rows
    · have added := countP_alter_le (·.state = .running) (· == current)
        (·.movedTo progress) rows
      have room := free starts.1 starts.2
      unfold replaced
      omega
    · -- no row becomes running
      refine le_trans ?_ covers.running
      rw [replaced, countP_map]
      apply countP_mono_left
      intro row member
      by_cases same : row = current
      · subst same
        have elsewhere : progress.state ≠ .running := fun running => starts ⟨running, member⟩
        simp [alter, movedTo, advanced, elsewhere]
      · simp [alter, same]
  queued := by
    refine le_trans ?_ covers.queued
    rw [replaced, countP_map]
    apply countP_mono_left
    intro row member
    by_cases same : row = current
    · have left : progress.state ≠ .queued := by cases move <;> rintro ⟨⟩
      simp [alter, same, movedTo, advanced, left]
    · simp [alter, same]
  tokens := by
    intro budget known
    obtain ⟨limited, within⟩ := covers.tokens budget known
    exact ⟨limited_replaced (·.reservedTokens) limited, le_trans (sum_replaced_le _ fun member =>
      move.tokenCharge_le (limited current member)) within⟩
  cost := by
    intro budget known
    obtain ⟨limited, within⟩ := covers.cost budget known
    exact ⟨limited_replaced (·.reservedCostMicrounits) limited,
      le_trans (sum_replaced_le _ fun member => move.costCharge_le (limited current member)) within⟩

/-- One more queued reservation fits where the queue has a place and both budgets have
room for what it reserves. -/
theorem admitted (covers : limits.Covers rows)
    (place : rows.countP (·.state = .queued) < limits.maxQueued)
    (tokens : ∀ budget, limits.tokenBudget = some budget → ∃ requested,
      request.reservedTokens = some requested ∧ (rows.map (·.tokenCharge)).sum + requested ≤ budget)
    (cost : ∀ budget, limits.costBudgetMicrounits = some budget → ∃ requested,
      request.reservedCostMicrounits = some requested ∧
        (rows.map (·.costCharge)).sum + requested ≤ budget) :
    limits.Covers (rows ++ [queuedReservation request]) where
  running := by simpa [queuedReservation] using covers.running
  queued := by simpa [queuedReservation] using Nat.succ_le_of_lt place
  tokens := by
    intro budget known
    obtain ⟨_, same, fits⟩ := tokens budget known
    constructor
    · apply forall_mem_concat (covers.tokens budget known).1
      simp [queuedReservation, same]
    · simpa [tokenCharge, heldTokens, spentTokens, queuedReservation, same] using fits
  cost := by
    intro budget known
    obtain ⟨_, same, fits⟩ := cost budget known
    constructor
    · apply forall_mem_concat (covers.cost budget known).1
      simp [queuedReservation, same]
    · simpa [costCharge, queuedReservation, same] using fits

end ExecutionAdmissionLimits.Covers

namespace ExecutionAdmissionUsage

open ExecutionReservationRecord

variable (rows : List ExecutionReservationRecord)

theorem charged_queued : (charged rows).queued = rows.countP (·.state = .queued) := zero_add _

theorem charged_running : (charged rows).running = rows.countP (·.state = .running) := zero_add _

theorem charged_totalTokens : (charged rows).totalTokens = (rows.map (·.tokenCharge)).sum := by
  simp [charged, plusAll, zero, totalTokens, tokenCharge, sum_map_add]

theorem charged_totalCost (priced : ∀ row ∈ rows, row.priced) :
    (charged rows).totalCost = some (rows.map (·.costCharge)).sum := by
  have known := map_congr_left fun row member => costCharge_of_priced (priced row member)
  have every : rows.all (·.priced) := all_eq_true.mpr priced
  simp [charged, plusAll, zero, totalCost, every, known, sum_map_add]

theorem priced_of_totalCost {cost : Nat} (known : (charged rows).totalCost = some cost) :
    ∀ row ∈ rows, row.priced = true := by
  by_cases every : rows.all (·.priced) = true
  · exact all_eq_true.mp every
  · simp [charged, plusAll, totalCost, every] at known

end ExecutionAdmissionUsage

namespace ExecutionAdmission

open ExecutionAdmissionUsage

variable {boundary : ExecutionAdmissionBoundary} {limits : ExecutionAdmissionLimits}
  {rows : List ExecutionReservationRecord} {done : Unit}

theorem ensureTokens_eq_ok (passed : ensureTokens boundary limits (charged rows) request = .ok done)
    {budget : Nat} (known : limits.tokenBudget = some budget) :
    ∃ requested, request.reservedTokens = some requested ∧
      (rows.map (·.tokenCharge)).sum + requested ≤ budget := by
  have room := refuse_eq_ok.mp passed
  rw [charged_totalTokens] at room
  cases reserved : request.reservedTokens <;> simp_all

theorem ensureCost_eq_ok (passed : ensureCost boundary limits (charged rows) request = .ok done)
    {budget : Nat} (known : limits.costBudgetMicrounits = some budget) :
    ∃ requested, request.reservedCostMicrounits = some requested ∧
      (rows.map (·.costCharge)).sum + requested ≤ budget := by
  have room := refuse_eq_ok.mp passed
  cases total : (charged rows).totalCost with
  | none => cases reserved : request.reservedCostMicrounits <;> simp_all
  | some _ =>
    have same := charged_totalCost rows (priced_of_totalCost rows total)
    cases reserved : request.reservedCostMicrounits <;> simp_all

end ExecutionAdmission

/-! The writers of a repository. -/

namespace ExecutionReservationRecord

def sameRepository (left right : ExecutionReservationRecord) : Prop :=
  left.scope.organizationId = right.scope.organizationId ∧
    left.scope.projectId = right.scope.projectId ∧
      left.scope.repositoryId = right.scope.repositoryId

def writes (row : ExecutionReservationRecord) : Bool :=
  row.state == .running && row.repositoryAccess != .readOnly

end ExecutionReservationRecord

/-- Two writers that cannot touch the same files. -/
def ExecutionRepositoryAccess.Apart (left right : ExecutionRepositoryAccess) : Prop :=
  ∃ leftKey rightKey, left = .isolatedWrite leftKey ∧ right = .isolatedWrite rightKey ∧
    leftKey ≠ rightKey

theorem ExecutionRepositoryAccess.Apart.symm {left right : ExecutionRepositoryAccess}
    (apart : left.Apart right) : right.Apart left := by
  obtain ⟨leftKey, rightKey, isLeft, isRight, different⟩ := apart
  exact ⟨rightKey, leftKey, isRight, isLeft, different.symm⟩

def Exclusive (rows : List ExecutionReservationRecord) : Prop :=
  ∀ left ∈ rows, ∀ right ∈ rows, left.jobId ≠ right.jobId → left.writes = true →
    right.writes = true → left.sameRepository right →
      left.repositoryAccess.Apart right.repositoryAccess

variable {current : ExecutionReservationRecord} {progress : ExecutionReservationProgress}
  {store : AdmissionStore}

namespace Exclusive

open ExecutionReservationRecord

theorem apart_of_no_conflict {current other : ExecutionRepositoryAccess}
    (writer : current ≠ .readOnly) (otherWriter : other ≠ .readOnly)
    (free : accessConflicts current other = false) : current.Apart other := by
  cases current with
  | readOnly => exact absurd rfl writer
  | sharedWrite => cases free
  | isolatedWrite key =>
    cases other with
    | readOnly => exact absurd rfl otherWriter
    | sharedWrite => cases free
    | isolatedWrite otherKey =>
      refine ⟨key, otherKey, rfl, rfl, ?_⟩
      rintro rfl
      simp [accessConflicts] at free

theorem apart_of_startable {other : ExecutionReservationRecord}
    (free : hasRepositoryWriteConflict store current = false)
    (writer : current.repositoryAccess ≠ .readOnly) (present : other ∈ store.reservations.rows)
    (different : other.jobId ≠ current.jobId) (writing : other.writes)
    (same : other.sameRepository current) :
    current.repositoryAccess.Apart other.repositoryAccess := by
  simp only [writes, Bool.and_eq_true, beq_iff_eq, bne_iff_ne] at writing
  have found : isOtherWriter current other := by
    simp [isOtherWriter, same.1, same.2.1, same.2.2, writing.1, writing.2, different]
  apply apart_of_no_conflict writer writing.2
  have none_ := free
  simp only [hasRepositoryWriteConflict, Bool.and_eq_false_iff, bne_eq_false_iff_eq, writer,
    false_or, any_eq_false] at none_
  simpa using none_ other (mem_filter.mpr ⟨present, found⟩)

theorem moved (exclusive : Exclusive store.reservations.rows)
    (free : progress.state = .running → hasRepositoryWriteConflict store current = false) :
    Exclusive (replaced current progress store.reservations.rows) := by
  -- what a row that writes afterwards was before
  have before : ∀ row ∈ store.reservations.rows,
      (current.movedTo progress).writes = true → current.jobId ≠ row.jobId →
      row.writes = true → row.sameRepository current →
        current.repositoryAccess.Apart row.repositoryAccess := by
    intro _ present writing different rowWrites same
    simp only [writes, movedTo_progress, Bool.and_eq_true, beq_iff_eq, bne_iff_ne] at writing
    exact apart_of_startable (free writing.1) writing.2 present different.symm rowWrites same
  intro _ leftIn _ rightIn different leftWrites rightWrites same
  obtain ⟨oldLeft, leftOld, rfl⟩ := mem_map.mp leftIn
  obtain ⟨oldRight, rightOld, rfl⟩ := mem_map.mp rightIn
  by_cases isLeft : oldLeft = current <;> by_cases isRight : oldRight = current
  · simp [alter, isLeft, isRight] at different
  · simp only [alter, isLeft, isRight, beq_self_eq_true, if_true, beq_iff_eq,
      if_false] at different leftWrites rightWrites same ⊢
    exact before oldRight rightOld leftWrites different rightWrites
      ⟨same.1.symm, same.2.1.symm, same.2.2.symm⟩
  · simp only [alter, isLeft, isRight, beq_self_eq_true, if_true, beq_iff_eq,
      if_false] at different leftWrites rightWrites same ⊢
    exact (before oldLeft leftOld rightWrites different.symm leftWrites same).symm
  · simp only [alter, isLeft, isRight, beq_iff_eq,
      if_false] at different leftWrites rightWrites same ⊢
    exact exclusive oldLeft leftOld oldRight rightOld different leftWrites rightWrites same

theorem admitted {rows : List ExecutionReservationRecord} (exclusive : Exclusive rows) :
    Exclusive (rows ++ [queuedReservation request]) := by
  have idle : (queuedReservation request).writes = false := rfl
  intro left leftIn right rightIn different leftWrites rightWrites same
  rcases mem_append.mp leftIn with leftOld | leftNew
  · rcases mem_append.mp rightIn with rightOld | rightNew
    · exact exclusive left leftOld right rightOld different leftWrites rightWrites same
    · rw [mem_singleton.mp rightNew, idle] at rightWrites
      cases rightWrites
  · rw [mem_singleton.mp leftNew, idle] at leftWrites
    cases leftWrites

end Exclusive

/-! The invariant of the ledger. -/

variable {receipts : Table AdmissionReceiptRow AdmissionReceiptRow.Clash}
  {boundary : ExecutionAdmissionBoundary}

namespace AdmissionStore

open ExecutionReservationRecord

def Owes (store : AdmissionStore) (owed : ReconciliationRow) : Prop :=
  ∃ row ∈ store.reservations.rows, row.jobId = owed.jobId ∧ row.state = .settled ∧
    row.actualCostMicrounits = none ∧ ∃ tokens runtime : Nat, row.actualTokens = some tokens ∧
      owed.terminalUsage = tokenUsage tokens runtime

structure Sound (digest : Digest) (store : AdmissionStore) : Prop where
  indexed : store.Indexed digest
  owes : ∀ owed ∈ store.reconciliation.rows, store.Owes owed
  kept : ∀ row ∈ store.reservations.rows, row.priced = false →
    ∃ owed ∈ store.reconciliation.rows, owed.jobId = row.jobId
  facts : store.reconciliationFacts.rows = []
  quiet : store.attemptPending.rows = []
  limits : ∀ policy ∈ store.policies.rows,
    policy.policy.limits.Covers (store.under policy.policy.boundary)
  exclusive : Exclusive store.reservations.rows

theorem sound_empty (digest : Digest) : empty.Sound digest where
  indexed := ⟨forall_mem_nil _, rfl, forall_mem_nil _⟩
  owes := forall_mem_nil _
  kept := forall_mem_nil _
  facts := rfl
  quiet := rfl
  limits := forall_mem_nil _
  exclusive := forall_mem_nil _

variable {digest : Digest} {next : AdmissionStore}

theorem Sound.unpriced (sound : store.Sound digest) {row : ExecutionReservationRecord}
    (member : row ∈ store.reservations.rows) : Unpriced store row := by
  intro _ reconciled
  obtain ⟨owed, found, same⟩ := Option.map_eq_some_iff.mp reconciled
  have latest : store.latestFact row.jobId = none := by simp [latestFact, sound.facts]
  rw [latest] at same
  obtain ⟨present, job⟩ := find_eq_some found
  obtain ⟨own, ownIn, ownJob, state, cost, tokens, runtime, facts⟩ := sound.owes owed present
  have isRow : own = row := store.reservations.eq_of_clash (fun _ _ => Eq.symm) ownIn member
    (ownJob.trans (beq_iff_eq.mp job))
  rw [← isRow]
  exact ⟨state, cost, tokens, runtime, facts.1, same.symm.trans facts.2⟩

theorem Sound.loadUsage_eq_charged (sound : store.Sound digest) {policy : AdmissionPolicyRow}
    (configured : policy ∈ store.policies.rows) {usage : ExecutionAdmissionUsage}
    (done : loadUsage store policy.boundaryKey = .ok usage) :
    usage = .charged (store.under policy.policy.boundary) :=
  sound.indexed.loadUsage_eq_charged (fun _ member => sound.unpriced member) sound.quiet
    configured done

theorem requiredPolicy_eq_ok {policy : ExecutionAdmissionPolicy}
    (done : requiredPolicy digest store boundary = .ok policy) :
    policy.boundary = boundary ∧ ⟨boundaryKey digest boundary, policy⟩ ∈ store.policies.rows := by
  rw [requiredPolicy, okOr_bind_eq_ok] at done
  obtain ⟨_, found, done⟩ := done
  rw [completePolicy] at done
  simp only [bind_eq_ok] at done
  obtain ⟨_, ⟨_, _, completed⟩, _, same, answered⟩ := done
  obtain ⟨member, key⟩ := find_eq_some found
  rw [← Except.ok.inj completed] at same answered
  rw [← Except.ok.inj answered, ← beq_iff_eq.mp key]
  exact ⟨not_not.mp (refuse_eq_ok.mp same), member⟩

section
variable (sound : store.Sound digest)
include sound

variable {policy : AdmissionPolicyRow}

section
variable (configured : policy ∈ store.policies.rows)
include configured

theorem Sound.policy_of_required {found : ExecutionAdmissionPolicy}
    (required : requiredPolicy digest store policy.policy.boundary = .ok found) :
    policy.boundaryKey = boundaryKey digest policy.policy.boundary ∧ policy.policy = found := by
  obtain ⟨names, present⟩ := requiredPolicy_eq_ok required
  have same := sound.indexed.key_injective configured present (by rw [names])
  exact ⟨sound.indexed.keyed policy configured, congrArg (·.policy) same⟩

theorem Sound.covers_admitted
    (passed : ensureBoundary digest store request policy.policy.boundary = .ok ()) :
    policy.policy.limits.Covers
      (store.under policy.policy.boundary ++ [queuedReservation request]) := by
  simp only [ensureBoundary, eq_ok] at passed
  obtain ⟨_, required, _, _, _, loaded, _, queue, _, tokens, cost⟩ := passed
  obtain ⟨key, same⟩ := sound.policy_of_required configured required
  rw [← key] at loaded
  rw [← same, sound.loadUsage_eq_charged configured loaded] at queue tokens cost
  have place := refuse_eq_ok.mp queue
  rw [charged_queued, not_le] at place
  exact (sound.limits policy configured).admitted place
    (fun _ known => ensureTokens_eq_ok tokens known) (fun _ known => ensureCost_eq_ok cost known)

theorem Sound.free_place (passed : ensureConcurrency digest store policy.policy.boundary = .ok ()) :
    (store.under policy.policy.boundary).countP (·.state = .running) <
      policy.policy.limits.maxConcurrent := by
  simp only [ensureConcurrency, bind_eq_ok] at passed
  obtain ⟨_, required, _, loaded, room⟩ := passed
  obtain ⟨key, same⟩ := sound.policy_of_required configured required
  rw [← key] at loaded
  have place := refuse_eq_ok.mp room
  rwa [← same, sound.loadUsage_eq_charged configured loaded,
    charged_running, not_le] at place

end

theorem Sound.under_eq_nil (fresh : store.policyRow (boundaryKey digest boundary) = none) :
    store.under boundary = [] := by
  rw [under, filter_eq_nil_iff]
  intro row member used
  rcases sound.indexed.configured row member boundary (of_decide_eq_true used) with
    ⟨own, present, names⟩
  have key : own.boundaryKey = boundaryKey digest boundary := by
    rw [sound.indexed.keyed own present, names]
  exact find?_eq_none.mp fresh own present (beq_iff_eq.mpr key)

theorem Sound.configured {policy : ExecutionAdmissionPolicy}
    {policies : Table AdmissionPolicyRow AdmissionPolicyRow.Clash}
    (fresh : store.policyRow (boundaryKey digest policy.boundary) = none)
    (inserted : policies.rows =
      store.policies.rows ++ [⟨boundaryKey digest policy.boundary, policy⟩]) :
    Sound digest { store with policies := policies } where
  __ := sound
  indexed := {
    keyed := by
      simp only [inserted, forall_mem_append, forall_mem_singleton, and_true]
      exact sound.indexed.keyed
    placed := sound.indexed.placed
    configured := by
      intro row member boundary used
      obtain ⟨own, present, names⟩ := sound.indexed.configured row member boundary used
      exact ⟨own, by simp [inserted, present], names⟩ }
  limits := by
    simp only [inserted, forall_mem_append, forall_mem_singleton]
    constructor
    · exact sound.limits
    · have nothing := sound.under_eq_nil fresh
      rw [under] at nothing ⊢
      rw [nothing]
      exact .empty policy.limits

end

variable {reservations : Table ExecutionReservationRecord ExecutionReservationRecord.Clash}

theorem Sound.admitted (sound : store.Sound digest)
    {boundaries : Table ReservationBoundaryRow ReservationBoundaryRow.Clash}
    (capacity : ∀ boundary ∈ (queuedReservation request).boundaries,
      ensureBoundary digest store request boundary = .ok ())
    (inserted : reservations.rows = store.reservations.rows ++ [queuedReservation request])
    (placed : boundaries.rows = store.reservationBoundaries.rows ++
      placedRows digest request.jobId (queuedReservation request).boundaries 0) :
    Sound digest { store with
      reservations := reservations
      reservationBoundaries := boundaries
      receipts := receipts } where
  __ := sound
  indexed := {
    keyed := sound.indexed.keyed
    placed := by
      simp only [placed, inserted, sound.indexed.placed, flatMap_append, flatMap_singleton]
      rfl
    configured := by
      simp only [inserted, forall_mem_append, forall_mem_singleton]
      constructor
      · exact sound.indexed.configured
      · intro boundary used
        have passed := capacity boundary used
        simp only [ensureBoundary, eq_ok] at passed
        obtain ⟨policy, required, _⟩ := passed
        obtain ⟨names, present⟩ := requiredPolicy_eq_ok required
        exact ⟨_, present, names⟩ }
  owes := by
    intro owed member
    obtain ⟨row, present, facts⟩ := sound.owes owed member
    exact ⟨row, by simp [inserted, present], facts⟩
  kept := by
    simp only [inserted, forall_mem_append, forall_mem_singleton]
    constructor
    · exact sound.kept
    · exact fun owed => nomatch owed
  limits := by
    intro policy configured
    simp only [under, inserted, filter_append, filter_singleton, Bool.cond_decide]
    split
    · rename_i used
      exact sound.covers_admitted configured (capacity _ used)
    · rw [append_nil]
      exact sound.limits policy configured
  exclusive := by
    simp only [inserted]
    exact sound.exclusive.admitted

theorem replaced_under (current : ExecutionReservationRecord)
    (progress : ExecutionReservationProgress) (rows : List ExecutionReservationRecord)
    (boundary : ExecutionAdmissionBoundary) :
    (replaced current progress rows).filter (boundary ∈ ·.boundaries) =
      replaced current progress (rows.filter fun row => boundary ∈ row.boundaries) := by
  have same : (fun row : ExecutionReservationRecord => decide (boundary ∈ row.boundaries)) ∘
      alter (· == current) (·.movedTo progress) =
      fun row => decide (boundary ∈ row.boundaries) := by
    funext row
    by_cases here : row = current
    · simp [alter, here, boundaries]
    · simp [alter, here]
  simp only [replaced, filter_map, same]

theorem replaced_placed (digest : Digest) (current : ExecutionReservationRecord)
    (progress : ExecutionReservationProgress) (rows : List ExecutionReservationRecord) :
    (replaced current progress rows).flatMap
        (fun row => placedRows digest row.jobId row.boundaries 0) =
      rows.flatMap fun row => placedRows digest row.jobId row.boundaries 0 := by
  rw [replaced, flatMap_map]
  apply flatMap_congr
  intro row _
  by_cases here : row = current <;> simp [alter, here, boundaries]

theorem countP_under_le_one (store : AdmissionStore) (current : ExecutionReservationRecord)
    (boundary : ExecutionAdmissionBoundary) : (store.under boundary).countP (· == current) ≤ 1 := by
  have whole : (store.reservations.rows.filter (· == current)).length ≤ 1 :=
    store.reservations.filter_length_le_one fun left right isLeft isRight => by
      rw [beq_iff_eq.mp isLeft, beq_iff_eq.mp isRight]
  rw [← countP_eq_length_filter] at whole
  exact le_trans (List.filter_sublist.countP_le) whole

section
variable (sound : store.Sound digest)
include sound

theorem Sound.moved {requestId : String}
    {sources : Table SettlementSourceRow SettlementSourceRow.Clash}
    {reconciliation : Table ReconciliationRow ReconciliationRow.Clash}
    (member : current ∈ store.reservations.rows) (move : current.Moves progress)
    (gate : progress.state = .running →
      (∀ boundary ∈ current.boundaries, ensureConcurrency digest store boundary = .ok ()) ∧
        hasRepositoryWriteConflict store current = false)
    (updated : reservations.rows = replaced current progress store.reservations.rows)
    (owed : reconciliation.rows =
      store.reconciliation.rows ++ owedRows current.jobId requestId progress) :
    Sound digest { store with
      reservations := reservations
      receipts := receipts
      settlementSources := sources
      reconciliation := reconciliation } where
  __ := sound
  indexed := {
    keyed := sound.indexed.keyed
    placed := by simp only [updated, replaced_placed, sound.indexed.placed]
    configured := by
      intro row present
      rw [updated, mem_replaced] at present
      rcases present with ⟨old, _⟩ | ⟨_, rfl⟩
      · exact sound.indexed.configured row old
      · exact sound.indexed.configured current member }
  owes := by
    intro owed_ present
    rw [owed, mem_append] at present
    rcases present with old | new
    · -- the settled reservation it stands for is not the one that moves
      obtain ⟨row, rowIn, job, state, facts⟩ := sound.owes owed_ old
      have different : row ≠ current := by
        rintro rfl
        rcases move.live with live | live <;> cases state.symm.trans live
      exact ⟨row, by rw [updated, mem_replaced]; exact .inl ⟨rowIn, different⟩, job, state, facts⟩
    · obtain ⟨tokens, runtime, state, known, ran, cost, rfl⟩ := mem_owedRows.mp new
      exact ⟨current.movedTo progress,
        by rw [updated, mem_replaced]; exact .inr ⟨member, rfl⟩,
        rfl, state, cost, tokens, runtime, known, rfl⟩
  kept := by
    intro row present unpriced
    rw [updated, mem_replaced] at present
    rcases present with ⟨old, _⟩ | ⟨_, rfl⟩
    · obtain ⟨own, ownIn, job⟩ := sound.kept row old unpriced
      exact ⟨own, by rw [owed]; exact mem_append_left _ ownIn, job⟩
    · simp only [priced, movedTo_progress, Bool.or_eq_false_iff, bne_eq_false_iff_eq,
        Option.isSome_eq_false_iff, Option.isNone_iff_eq_none] at unpriced
      -- only a settlement reaches the settled state, and it states tokens and runtime
      have settles : ∃ tokens runtime, progress.actualTokens = some tokens ∧
          progress.actualRuntimeMillis = some runtime := by
        cases move with
        | started _ _ | released _ _ _ => cases unpriced.1
        | settled _ _ tokens _ => exact ⟨_, _, rfl, rfl⟩
      obtain ⟨tokens, runtime, known, ran⟩ := settles
      refine ⟨pendingReconciliation current.jobId requestId (tokenUsage tokens runtime), ?_, rfl⟩
      rw [owed]
      exact mem_append_right _
        (mem_owedRows.mpr ⟨tokens, runtime, unpriced.1, known, ran, unpriced.2, rfl⟩)
  limits := by
    intro policy configured
    simp only [under, updated, replaced_under]
    apply (sound.limits policy configured).moved move (store.countP_under_le_one current _)
    intro running under_
    exact sound.free_place configured
      ((gate running).1 _ (of_decide_eq_true (mem_filter.mp under_).2))
  exclusive := by
    simp only [updated]
    exact sound.exclusive.moved fun running => (gate running).2

theorem Sound.outcome (outcome : Outcome digest store next) : next.Sound digest := by
  cases outcome with
  | still => exact sound
  | configured _ _ fresh inserted => exact sound.configured fresh inserted
  | admitted _ reservations _ receipts _ capacity inserted placed receipted =>
    exact sound.admitted capacity inserted placed
  | moved current progress requestId reservations receipts sources reconciliation member move gate
      updated owed receipted => exact sound.moved member move gate updated owed

/-- Opening a ledger of these runs finds nothing to backfill. -/
theorem Sound.openAdmission_eq : openAdmission store = store := by
  have ignored : ∀ rows : List ReconciliationRow,
      (∀ owed ∈ rows, ∃ kept ∈ store.reconciliation.rows, kept.jobId = owed.jobId) →
      rows.foldl insertOrIgnore store.reconciliation = store.reconciliation := by
    intro rows
    induction rows with
    | nil => intro _; rfl
    | cons owed _ ih =>
      intro present
      rw [foldl_cons, insertOrIgnore_of_clash (present owed mem_cons_self)]
      exact ih fun later member => present later (mem_cons_of_mem owed member)
  rw [openAdmission, ignored]
  intro _ member
  obtain ⟨row, rowIn, selected⟩ := mem_filterMap.mp member
  simp only [backfillRow, Option.bind_eq_bind, Option.bind_eq_some_iff,
    Option.ite_none_right_eq_some] at selected
  obtain ⟨_, _, _, _, _, _, ⟨state, cost⟩, same⟩ := selected
  have unpriced : row.priced = false := by simp [priced, state, cost]
  obtain ⟨kept, keptIn, job⟩ := sound.kept row rowIn unpriced
  exact ⟨kept, keptIn, by rw [job, ← Option.some.inj same]; rfl⟩

theorem Sound.step_outcome (event : AdmissionEvent) :
    Outcome digest store (store.step digest event) := by
  cases event with
  | opened =>
    rw [step, sound.openAdmission_eq]
    exact .still
  | configurePolicy _ =>
    apply commit_keeps .still
    exact fun _ _ done => configurePolicy_outcome done
  | requested request =>
    apply commit_keeps .still
    intro _ _ done
    rw [request.run_eq sound.quiet, bind_eq_ok] at done
    obtain ⟨_, _, answered⟩ := done
    rcases replayOr_eq_ok answered with ⟨rfl, _⟩ | performed
    · exact .still
    · exact AdmissionRequest.runNew_outcome performed

theorem Sound.step (event : AdmissionEvent) : (store.step digest event).Sound digest :=
  sound.outcome (sound.step_outcome event)

theorem Sound.run (events : List AdmissionEvent) :
    (after (AdmissionStore.step digest) store events).Sound digest :=
  after_invariant (AdmissionStore.step digest)
    (fun store event (sound : store.Sound digest) => sound.step event) sound events

end

structure Keeps (store next : AdmissionStore) : Prop where
  receipts : store.receipts.rows ⊆ next.receipts.rows
  terminal : ∀ row ∈ store.reservations.rows, row.state = .released ∨ row.state = .settled →
    row ∈ next.reservations.rows

theorem Keeps.refl (store : AdmissionStore) : store.Keeps store :=
  ⟨List.Subset.refl _, fun _ member _ => member⟩

theorem Keeps.trans {early middle late : AdmissionStore} (first : early.Keeps middle)
    (second : middle.Keeps late) : early.Keeps late :=
  ⟨List.Subset.trans first.receipts second.receipts,
    fun row member ended => second.terminal row (first.terminal row member ended) ended⟩

theorem Keeps.of_outcome (outcome : Outcome digest store next) : store.Keeps next := by
  cases outcome with
  | still => exact .refl store
  | configured _ _ _ inserted => exact ⟨List.Subset.refl _, fun _ member _ => member⟩
  | admitted _ reservations _ receipts _ _ inserted _ receipted =>
    exact ⟨receipted, fun row member _ => by simp [inserted, member]⟩
  | moved current progress requestId reservations receipts sources reconciliation member move gate
      updated owed receipted =>
      refine ⟨receipted, fun row present ended => ?_⟩
      have different : row ≠ current := by
        rintro rfl
        rcases move.live with live | live <;> simp [live] at ended
      simp only [updated, mem_replaced]
      exact .inl ⟨present, different⟩

theorem Sound.run_keeps (sound : store.Sound digest) (events : List AdmissionEvent) :
    store.Keeps (after (AdmissionStore.step digest) store events) :=
  after_related (AdmissionStore.step digest) Keeps.refl Keeps.trans
    (fun store event (sound : store.Sound digest) => sound.step event)
    (fun _ event sound => .of_outcome (sound.step_outcome event)) sound events

/-- An answered request is answered again from its receipt, at any later point. -/
theorem Sound.replay (sound : store.Sound digest) {request : AdmissionRequest}
    {receipt : ExecutionAdmissionReceipt}
    (done : request.run digest store = .ok (next, receipt)) (later : List AdmissionEvent) :
    let reached := after (AdmissionStore.step digest) next later
    request.run digest reached = .ok (reached, ⟨receipt.reservation, true⟩) := by
  intro reached
  have event : next.Sound digest := by
    simpa only [AdmissionStore.step, done, commit] using sound.step (.requested request)
  have after_ : reached.Sound digest := event.run later
  rw [request.run_eq sound.quiet, bind_eq_ok] at done
  obtain ⟨_, valid, answered⟩ := done
  have recorded : Recorded next (request.scopeKey digest) request.requestId
      (request.body digest) receipt.reservation := by
    rcases replayOr_eq_ok answered with ⟨rfl, recorded⟩ | performed
    · exact recorded
    · exact AdmissionRequest.runNew_recorded performed
  rw [request.run_eq after_.quiet, valid]
  exact (recorded.grow (event.run_keeps later).receipts).replay _

/-! The results over whole runs. -/

def runningWriters (store : AdmissionStore) (organization project repository : String) :
    List ExecutionReservationRecord :=
  store.reservations.rows.filter fun row =>
    row.scope.organizationId == organization && row.scope.projectId == project &&
      row.scope.repositoryId == repository && row.writes

theorem Sound.writers_apart (sound : store.Sound digest)
    (organization project repository : String) :
    (store.runningWriters organization project repository).Pairwise fun left right =>
      left.repositoryAccess.Apart right.repositoryAccess := by
  have jobs := store.reservations.distinct.sublist (filter_sublist (p := fun row =>
    row.scope.organizationId == organization && row.scope.projectId == project &&
      row.scope.repositoryId == repository && row.writes))
  apply List.Pairwise.imp_of_mem _ jobs
  intro left right leftIn rightIn different
  simp only [mem_filter, Bool.and_eq_true, beq_iff_eq] at leftIn rightIn
  obtain ⟨leftIn, ⟨⟨leftOrg, leftProject⟩, leftRepository⟩, leftWrites⟩ := leftIn
  obtain ⟨rightIn, ⟨⟨rightOrg, rightProject⟩, rightRepository⟩, rightWrites⟩ := rightIn
  exact sound.exclusive left leftIn right rightIn different leftWrites rightWrites
    ⟨leftOrg.trans rightOrg.symm, leftProject.trans rightProject.symm,
      leftRepository.trans rightRepository.symm⟩

theorem alone_or_isolated {writers : List ExecutionReservationRecord}
    (apart : writers.Pairwise fun left right =>
      left.repositoryAccess.Apart right.repositoryAccess) : (∃ only, writers = [only]) ∨
      ((∀ writer ∈ writers, ∃ key, writer.repositoryAccess = .isolatedWrite key) ∧
        (writers.map (·.repositoryAccess)).Nodup) := by
  match writers, apart with
  | [], _ => exact .inr ⟨forall_mem_nil _, nodup_nil⟩
  | [only], _ => exact .inl ⟨only, rfl⟩
  | first :: second :: rest, apart =>
    right
    have fromFirst : ∀ other ∈ second :: rest,
        first.repositoryAccess.Apart other.repositoryAccess :=
      fun other member => rel_of_pairwise_cons apart member
    constructor
    · intro writer member
      rcases mem_cons.mp member with rfl | other
      · obtain ⟨key, _, isolated, _⟩ := fromFirst second mem_cons_self
        exact ⟨key, isolated⟩
      · obtain ⟨_, key, _, isolated, _⟩ := fromFirst writer other
        exact ⟨key, isolated⟩
    · rw [List.Nodup, pairwise_map]
      refine apart.imp fun ⟨leftKey, rightKey, isLeft, isRight, different⟩ same => ?_
      rw [isLeft, isRight] at same
      exact different (ExecutionRepositoryAccess.isolatedWrite.inj same)

/-- Admission safety. In every reachable store, every configured boundary is within its
limits and `load_usage` reports it so, the writers of every repository are apart,
terminal reservations never change again, and an answered request is answered again
from its receipt without a change. -/
theorem admission_safety (digest : Digest) (events : List AdmissionEvent) :
    let store := after (AdmissionStore.step digest) .empty events
    (∀ policy ∈ store.policies.rows,
      let rows := store.under policy.policy.boundary
      let usage := ExecutionAdmissionUsage.charged rows
      let limits := policy.policy.limits
      usage.running ≤ limits.maxConcurrent ∧ usage.queued ≤ limits.maxQueued ∧
        (∀ budget, limits.tokenBudget = some budget →
          usage.reservedTokens + usage.committedTokens ≤ budget) ∧
        (∀ budget, limits.costBudgetMicrounits = some budget →
          (∀ row ∈ rows, row.state = .settled → row.actualCostMicrounits.isSome = true) →
          ∃ committed, usage.committedCostMicrounits = some committed ∧
            usage.reservedCostMicrounits + committed ≤ budget) ∧
        ∀ answer, loadUsage store policy.boundaryKey = .ok answer → answer = usage) ∧
    (∀ organization project repository,
      let writers := store.runningWriters organization project repository
      (∃ only, writers = [only]) ∨
        ((∀ writer ∈ writers, ∃ key, writer.repositoryAccess = .isolatedWrite key) ∧
          (writers.map (·.repositoryAccess)).Nodup)) ∧
    (∀ row ∈ store.reservations.rows, row.state = .released ∨ row.state = .settled →
      ∀ later, row ∈ (after (AdmissionStore.step digest) store later).reservations.rows) ∧
    ∀ (request : AdmissionRequest) (next : AdmissionStore) (receipt : ExecutionAdmissionReceipt),
      request.run digest store = .ok (next, receipt) → ∀ later,
        let reached := after (AdmissionStore.step digest) next later
        request.run digest reached = .ok (reached, ⟨receipt.reservation, true⟩) := by
  intro store
  have sound : store.Sound digest := (sound_empty digest).run events
  refine ⟨?_, ?_, ?_, ?_⟩
  · intro policy configured rows _ limits
    have covers := sound.limits policy configured
    refine ⟨?_, ?_, ?_, ?_, fun answer => sound.loadUsage_eq_charged configured⟩
    · exact (charged_running rows).trans_le covers.running
    · exact (charged_queued rows).trans_le covers.queued
    · intro budget known
      exact (charged_totalTokens rows).trans_le
        (covers.tokens budget known).2
    · intro budget known priced_
      -- Only settled rows can lack a price, and the hypothesis prices those.
      have every : ∀ row ∈ rows, row.priced := by
        intro row member
        by_cases ended : row.state = .settled
        · simp [priced, priced_ row member ended]
        · simp [priced, ended]
      have total := charged_totalCost rows every
      obtain ⟨committed, same, sum⟩ := Option.map_eq_some_iff.mp total
      exact ⟨committed, same, sum.trans_le (covers.cost budget known).2⟩
  · exact fun organization project repository =>
      alone_or_isolated (sound.writers_apart organization project repository)
  · exact fun row member ended later => (sound.run_keeps later).terminal row member ended
  · exact fun request next receipt done later => sound.replay done later

end AdmissionStore

end WinWinCode.Storage
