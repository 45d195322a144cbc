import WinWinCode.Foundation.Runs
import WinWinCode.Storage.ClientOccupancy

/-!
Runs of the occupancy ledger. `Drives` and `Resumes` are the lease lifecycle on
its own; `Transition` says everything one statement of the ledger can do to the
tables. Each operation is shown to be such transitions once, and every invariant
is derived from that.
-/

namespace WinWinCode.Storage

open Fallible Tables Text List Table Option

abbrev LeaseMove := OccupancyLeaseProgress → OccupancyLeaseProgress → Prop

variable {before after : OccupancyLeaseProgress} {target : OccupancyReconcileTarget}

namespace OccupancyLeaseProgress

open OccupancyLedger

inductive Drives (before : OccupancyLeaseProgress) : OccupancyLeaseProgress → Prop
  | acknowledged (now : String) (idle : Option String) (source : before.state = .reserving) :
      Drives before (acknowledge now idle before)
  | rejected (reason : OccupancyReleaseReason) (source : before.state = .reserving) :
      Drives before (release reason before)
  | givenUp (source : before.state = .occupied) : Drives before (release .holderReleased before)
  | drained (source : before.state = .occupied) : Drives before (drain before)
  | emptied (source : before.state = .draining) : Drives before (release .drainCompleted before)
  | forced (source : before.state = .recoveryPending) :
      Drives before (release .forceReleased before)
  | expired (source : before.state = .occupied) : Drives before (expire before)

inductive Suspends (before : OccupancyLeaseProgress) : OccupancyLeaseProgress → Prop
  | suspended (deadline : String) (source : before.state = .occupied ∨ before.state = .draining) :
      Suspends before (suspend deadline before)

inductive Resumes (target : OccupancyReconcileTarget) (before : OccupancyLeaseProgress) :
    OccupancyLeaseProgress → Prop
  | resumed (now : String) (idle : Option String) (source : before.state = .recoveryPending) :
      Resumes target before (resume target now idle before)

inductive Moves (before after : OccupancyLeaseProgress) : Prop
  | drives (move : before.Drives after)
  | suspends (move : before.Suspends after)
  | resumes (target : OccupancyReconcileTarget) (move : before.Resumes target after)

theorem Drives.elsewhere (move : before.Drives after) : after.state ≠ .recoveryPending := by
  cases move <;> exact nofun

theorem Resumes.elsewhere (move : before.Resumes target after) :
    after.state ≠ .recoveryPending := by
  cases move
  cases target <;> exact nofun

structure WellFormed (progress : OccupancyLeaseProgress) : Prop where
  reason : progress.releaseReason.isSome = true ↔ progress.state = .released
  acknowledged : progress.state ∈ [.occupied, .draining, .recoveryPending, .expired] →
    progress.acknowledgedAt.isSome = true
  deadline : progress.state = .recoveryPending → progress.recoveryDeadlineAt.isSome = true

theorem Moves.active (move : before.Moves after) : before.state.isActive = true := by
  cases move with
  | drives move =>
    cases move with
    | acknowledged _ _ source | rejected _ source | givenUp source | drained source | emptied source
    | forced source | expired source => rw [source]; rfl
  | suspends move =>
    cases move with
    | suspended _ source => rcases source with source | source <;> rw [source] <;> rfl
  | resumes _ move =>
    cases move with
    | resumed _ _ source => rw [source]; rfl

theorem Moves.wellFormed (move : before.Moves after) (formed : before.WellFormed) :
    after.WellFormed := by
  obtain ⟨_, acknowledged, _⟩ := formed
  cases move with
  | drives move =>
    cases move with
    | acknowledged _ _ source => constructor <;> simp_all [acknowledge]
    | rejected _ source | givenUp source | emptied source
    | forced source => constructor <;> simp_all [release]
    | drained source => constructor <;> simp_all [drain]
    | expired source => constructor <;> simp_all [expire]
  | suspends move =>
    cases move with
    | suspended _ source =>
      rcases source with source | _ <;> constructor <;> simp_all [suspend]
  | resumes target move =>
    cases move with
    | resumed _ _ _ => cases target <;> constructor <;> simp_all [resume, targetState]

end OccupancyLeaseProgress

variable {token : Nat} {reason : OccupancyReleaseReason} {record : OccupancyLeaseRecord}
  {clients : ClientDirectory} {idle : Option String}

namespace OccupancyLedger

open OccupancyLeaseProgress

def replaceLease (lease : OccupancyLeaseRecord) (rows : List OccupancyLeaseRecord) :
    List OccupancyLeaseRecord :=
  rows.map fun row => if row.occupancyLeaseId = lease.occupancyLeaseId then lease else row

def movedTo (record : OccupancyLeaseRecord) (progress : OccupancyLeaseProgress) :
    OccupancyLeaseRecord :=
  { record with toOccupancyLeaseProgress := progress, revision := record.revision + 1 }

/-- Everything an operation on an existing lease can do to the tables, at the instant
`now` and with lease moves from `Move`. -/
inductive Transition (Move : LeaseMove)
    (lease now : String) (store next : OccupancyStore) : Prop
  | still (rows : next.leases.rows = store.leases.rows)
      (tokens : next.lastIssuedToken = store.lastIssuedToken)
      (recovery : next.recovery = store.recovery)
  | moved (record : OccupancyLeaseRecord) (progress : OccupancyLeaseProgress)
      (member : record ∈ store.leases.rows) (owner : record.occupancyLeaseId = lease)
      (move : Move record.toOccupancyLeaseProgress progress)
      (rows : next.leases.rows = replaceLease (movedTo record progress) store.leases.rows)
      (tokens : next.lastIssuedToken = store.lastIssuedToken)
      (recovery : ∀ other, next.recoveryRow other =
        if other = lease ∧ progress.state = .recoveryPending then
          some ⟨lease, record.state = .draining, now⟩
        else store.recoveryRow other)
  | observed (rows : next.leases.rows = store.leases.rows)
      (tokens : next.lastIssuedToken = store.lastIssuedToken)
      (recovery : ∀ other row, store.recoveryRow other = some row →
        next.recoveryRow other = some row)

structure Claimed (claim : OccupancyClaim) (now : String) (store next : OccupancyStore) :
    Prop where
  rows : next.leases.rows = store.leases.rows ++
    [claimedLease claim (store.lastIssuedToken.getD 0 + 1) now]
  tokens : next.lastIssuedToken = some (store.lastIssuedToken.getD 0 + 1)
  recovery : next.recovery = store.recovery

section Shape
variable {Move Move' : LeaseMove} {lease now : String}
  {store next : OccupancyStore}

theorem Transition.mono (transition : Transition Move lease now store next)
    (weaker : ∀ before after, Move before after → Move' before after) :
    Transition Move' lease now store next := by
  cases transition with
  | still rows tokens recovery => exact .still rows tokens recovery
  | moved record progress member owner move rows tokens recovery =>
    exact .moved record progress member owner (weaker _ _ move) rows tokens recovery
  | observed rows tokens recovery => exact .observed rows tokens recovery

theorem Transition.refl (store : OccupancyStore) : Transition Move lease now store store :=
  .still rfl rfl rfl

theorem leaseRow_unique {left right : OccupancyLeaseRecord}
    (leftIn : left ∈ store.leases.rows) (rightIn : right ∈ store.leases.rows)
    (same : left.occupancyLeaseId = right.occupancyLeaseId) : left = right := by
  apply store.leases.eq_of_clash _ leftIn rightIn (Or.inl same)
  rintro _ _ (same | same | ⟨node, live, live'⟩)
  · exact .inl same.symm
  · exact .inr (Or.inl same.symm)
  · exact .inr (Or.inr ⟨node.symm, live', live⟩)

variable {change : LeaseChange} {states : ActiveStates}

/-- An `UPDATE` that wrote a row wrote the one row with the lease's id. -/
theorem executeUpdate_ok {token : Option Nat} {count : Nat}
    (done : executeUpdate store lease states token change = .ok (next, count)) :
    next.lastIssuedToken = store.lastIssuedToken ∧ next.recovery = store.recovery ∧
      ((count = 0 ∧ next.leases.rows = store.leases.rows) ∨
        ∃ record ∈ store.leases.rows, record.occupancyLeaseId = lease ∧ record.state ∈ states.val ∧
          next.leases.rows = replaceLease (record.advanced change) store.leases.rows) := by
  simp only [executeUpdate, refuse_bind_eq_ok] at done
  obtain ⟨_, success⟩ := done
  obtain ⟨rfl, counted⟩ := Prod.mk.inj (Except.ok.inj success)
  refine ⟨rfl, rfl, ?_⟩
  cases matched : store.leases.rows.filter (selects lease states token) with
  | nil =>
    left
    rw [matched] at counted
    refine ⟨counted.symm, ?_⟩
    have missed := filter_eq_nil_iff.mp matched
    calc store.leases.rows.map (Table.alter _ _)
      _ = store.leases.rows.map id := map_congr_left fun row member => if_neg (missed row member)
      _ = store.leases.rows := map_id _
  | cons record _ =>
    right
    have hit : record ∈ store.leases.rows.filter (selects lease states token) := by
      rw [matched]
      exact mem_cons_self
    obtain ⟨member, selected⟩ := mem_filter.mp hit
    have facts := selected
    simp only [selects, Bool.and_eq_true, beq_iff_eq, contains_iff_mem] at facts
    refine ⟨record, member, facts.1.1, facts.1.2, ?_⟩
    apply map_congr_left
    intro row rowIn
    by_cases same : row.occupancyLeaseId = record.occupancyLeaseId
    · rw [leaseRow_unique rowIn member same, Table.alter, if_pos selected]
      exact (if_pos rfl).symm
    · have unselected : ¬ selects lease states token row := by
        intro chosen
        simp only [selects, Bool.and_eq_true, beq_iff_eq] at chosen
        exact same (chosen.1.1.trans facts.1.1.symm)
      rw [Table.alter, if_neg unselected]
      exact (if_neg same).symm

theorem recoveryRow_same (recovery : next.recovery = store.recovery) (other : String) :
    next.recoveryRow other = store.recoveryRow other :=
  congrArg (·.find fun row => row.occupancyLeaseId == other) recovery

section
variable {token : Option Nat}
  (legal : ∀ progress : OccupancyLeaseProgress, progress.state ∈ states.val →
    Move progress (change progress))
  (elsewhere : ∀ {before after}, Move before after → after.state ≠ .recoveryPending)
include legal elsewhere

theorem executeUpdate_transition {count : Nat}
    (executed : executeUpdate store lease states token change = .ok (next, count)) :
    Transition Move lease now store next := by
  rcases executeUpdate_ok executed with
    ⟨tokens, recovery, ⟨_, rows⟩ | ⟨before, member, owner, source, rows⟩⟩
  · exact .still rows tokens recovery
  · refine .moved before _ member owner (legal _ source) rows tokens fun other => ?_
    rw [if_neg fun suspended => elsewhere (legal _ source) suspended.2]
    exact recoveryRow_same recovery other

theorem updateLease_transition {action : String}
    (done : updateLease store lease states token change action = .ok (next, record)) :
    Transition Move lease now store next := by
  obtain ⟨⟨_, _⟩, executed, done⟩ := bind_eq_ok.mp done
  simp only [refuse_bind_eq_ok] at done
  obtain ⟨_, done⟩ := done
  obtain ⟨_, _, success⟩ := bind_eq_ok.mp done
  cases success
  exact executeUpdate_transition legal elsewhere executed

end

theorem releaseLease_transition
    (legal : ∀ progress : OccupancyLeaseProgress, progress.state ∈ states.val →
      Drives progress (release reason progress))
    (done : releaseLease store lease states token reason = .ok (next, record)) :
    Transition Drives lease now store next := by
  obtain ⟨_, _, done⟩ := bind_eq_ok.mp done
  exact updateLease_transition legal Drives.elsewhere done

end Shape

section
variable {lease now : String} {store next : OccupancyStore}

theorem mintFencingToken_ok (done : mintFencingToken store = .ok (next, token)) :
    token = store.lastIssuedToken.getD 0 + 1 ∧
      next = { store with lastIssuedToken := some token } := by
  simp only [mintFencingToken, fromSqlInteger, refuse_bind_eq_ok] at done
  obtain ⟨_, _, success⟩ := done
  cases success
  exact ⟨rfl, rfl⟩

theorem atomicClaim_claimed {claim : OccupancyClaim}
    (done : atomicClaim store clients claim now = .ok (next, record)) :
    Claimed claim now store next := by
  obtain ⟨_, _, done⟩ := bind_eq_ok.mp done
  obtain ⟨_, _, done⟩ := bind_eq_ok.mp done
  obtain ⟨⟨_, _⟩, mint, done⟩ := bind_eq_ok.mp done
  obtain ⟨_, insert, done⟩ := bind_eq_ok.mp done
  obtain ⟨_, _, success⟩ := bind_eq_ok.mp done
  cases success
  obtain ⟨rfl, rfl⟩ := mintFencingToken_ok mint
  simp only [insertLease, sqlInteger, refuse_bind_eq_ok, okOr_bind_eq_ok] at insert
  obtain ⟨_, _, _, added, success⟩ := insert
  cases success
  exact ⟨(insert_eq_some.mp added).2, rfl, rfl⟩

theorem replay_transition {Move : LeaseMove} {Found : Type} {read : OccupancyResult Found}
    {answer : Found → OccupancyLeaseRecord}
    (done : (read >>= fun found => pure (store, answer found)) = .ok (next, record)) :
    Transition Move lease now store next := by
  obtain ⟨_, _, success⟩ := bind_eq_ok.mp done
  cases success
  exact .refl store

theorem recordAcknowledgement_transition
    (done : recordAcknowledgement store lease token idle now = .ok (next, record)) :
    Transition Drives lease now store next := by
  simp only [recordAcknowledgement, eq_ok] at done
  obtain ⟨_, _, _, _, _, _, _, _, _, _, done⟩ := done
  split at done
  · exact replay_transition done
  · simp only [eq_ok] at done
    obtain ⟨_, _, _, _, _, _, done⟩ := done
    apply updateLease_transition _ Drives.elsewhere done
    exact fun progress source => .acknowledged now idle (mem_singleton.mp source)

theorem rejectOffer_transition
    (done : rejectOffer store lease token reason now = .ok (next, record)) :
    Transition Drives lease now store next := by
  simp only [rejectOffer, eq_ok] at done
  obtain ⟨_, _, _, _, _, _, _, _, _, _, done⟩ := done
  split at done
  · obtain ⟨_, _, done⟩ := bind_eq_ok.mp done
    exact replay_transition done
  · obtain ⟨_, _, done⟩ := bind_eq_ok.mp done
    obtain ⟨_, _, done⟩ := bind_eq_ok.mp done
    apply releaseLease_transition _ done
    intro _ source
    exact .rejected reason (mem_singleton.mp source)

theorem requestRelease_transition {sessions : Nat}
    (done : requestRelease store lease token sessions now = .ok (next, record)) :
    Transition Drives lease now store next := by
  simp only [requestRelease, eq_ok] at done
  obtain ⟨_, _, _, _, _, _, _, _, _, _, done⟩ := done
  split at done
  · exact replay_transition done
  · exact replay_transition done
  · rw [endOccupied] at done
    split at done
    · apply releaseLease_transition _ done
      intro progress source
      exact .givenUp (mem_singleton.mp source)
    · obtain ⟨_, _, done⟩ := bind_eq_ok.mp done
      apply updateLease_transition _ Drives.elsewhere done
      exact fun progress source => .drained (mem_singleton.mp source)
  · nomatch done

theorem drainComplete_transition (done : drainComplete store lease = .ok (next, record)) :
    Transition Drives lease now store next := by
  simp only [drainComplete, eq_ok] at done
  obtain ⟨_, _, _, _, done⟩ := done
  split at done
  · exact replay_transition done
  · obtain ⟨_, _, done⟩ := bind_eq_ok.mp done
    apply updateLease_transition _ Drives.elsewhere done
    exact fun progress source => .emptied (mem_singleton.mp source)

theorem forceRelease_transition (done : forceRelease store lease now = .ok (next, record)) :
    Transition Drives lease now store next := by
  simp only [forceRelease, eq_ok] at done
  obtain ⟨_, _, _, _, _, _, done⟩ := done
  split at done
  · exact replay_transition done
  · simp only [eq_ok] at done
    obtain ⟨_, _, _, _, _, _, done⟩ := done
    apply releaseLease_transition _ done
    intro _ source
    exact .forced (mem_singleton.mp source)

theorem recoveryRow_upsert (store : OccupancyStore) (row : OccupancyRecoveryRow) (other : String) :
    (upsertRecovery store row).recoveryRow other =
      if other = row.occupancyLeaseId then some row else store.recoveryRow other := by
  have updated := find_updateWhere (store.recovery.insertOrIgnore row)
    (·.occupancyLeaseId == row.occupancyLeaseId)
    (·.occupancyLeaseId == other)
    ({ · with wasDraining := row.wasDraining, startedAt := row.startedAt })
    (fun _ _ _ => ⟨id, id⟩) fun _ => rfl
  have inserted := store.recovery.find_insertOrIgnore row
    (·.occupancyLeaseId == other) fun kept clash hit =>
      beq_iff_eq.mpr (Eq.trans clash (eq_of_beq hit))
  refine updated.trans ?_
  rw [inserted]
  by_cases same : other = row.occupancyLeaseId
  · subst same
    rw [if_pos rfl]
    cases found : store.recovery.find fun kept => kept.occupancyLeaseId == row.occupancyLeaseId with
    | none => simp [Table.alter]
    | some kept =>
      have owner := (find_eq_some found).2
      simp only [some_or, map_some, Table.alter, owner, if_true]
      rw [eq_of_beq owner]
  · rw [if_neg same, OccupancyStore.recoveryRow]
    cases found : store.recovery.find fun kept => kept.occupancyLeaseId == other with
    | none => simp [Ne.symm same]
    | some kept =>
      have owner := eq_of_beq (find_eq_some found).2
      simp [Table.alter, owner, same]

theorem markRecoveryPending_transition {deadline : String}
    (done : markRecoveryPending store clients lease deadline now = .ok (next, record)) :
    Transition Suspends lease now store next := by
  simp only [markRecoveryPending, eq_ok] at done
  obtain ⟨_, _, _, _, _, _, found, load, done⟩ := done
  split at done
  · cases done
    exact .refl store
  · simp only [eq_ok] at done
    obtain ⟨_, _, _, _, _, _, done⟩ := done
    obtain ⟨⟨_, _⟩, executed, done⟩ := bind_eq_ok.mp done
    simp only [refuse_bind_eq_ok] at done
    obtain ⟨_, done⟩ := done
    obtain ⟨_, _, success⟩ := bind_eq_ok.mp done
    cases success
    rcases executeUpdate_ok executed with
      ⟨tokens, recovery, ⟨none_written, _⟩ | ⟨before, member, owner, source, rows⟩⟩
    · omega
    · have loaded := find_eq_some (okOr_eq_ok.mp load)
      have same : found = before :=
        leaseRow_unique loaded.1 member ((eq_of_beq loaded.2).trans owner.symm)
      subst same
      have legal : found.state = .occupied ∨ found.state = .draining := by
        simpa [occupiedOrDraining] using source
      refine .moved found _ member owner (.suspended deadline legal) rows tokens fun other => ?_
      rw [OccupancyStore.recoveryRow, recovery]
      refine (recoveryRow_upsert store _ other).trans ?_
      by_cases mine : other = lease
      · rw [if_pos mine, if_pos ⟨mine, rfl⟩]
      · rw [if_neg mine, if_neg fun both => mine both.1]

theorem reconcileResume_transition
    (done : reconcileResume store lease target idle now = .ok (next, record)) :
    Transition (Resumes target) lease now store next := by
  simp only [reconcileResume, eq_ok] at done
  obtain ⟨_, _, _, _, _, _, _, _, _, _, done⟩ := done
  split at done
  · cases done
    exact .refl store
  · obtain ⟨_, _, done⟩ := bind_eq_ok.mp done
    apply updateLease_transition _ Resumes.elsewhere done
    exact fun progress source => .resumed now idle (mem_singleton.mp source)

theorem recoveryContext_transition {context : Option (Bool × String)}
    (done : recoveryContext store lease now = .ok (next, context)) :
    Transition Drives lease now store next := by
  simp only [recoveryContext, eq_ok] at done
  obtain ⟨_, _, _, _, success⟩ := done
  cases success
  split
  · refine .observed rfl rfl fun other row known => ?_
    have inserted := store.recovery.find_insertOrIgnore ⟨lease, true, now⟩
      (·.occupancyLeaseId == other) fun kept clash hit =>
        beq_iff_eq.mpr (Eq.trans clash (eq_of_beq hit))
    refine inserted.trans ?_
    change store.recovery.find _ = some row at known
    rw [known, some_or]
  · exact .refl store

def Sweep (candidates : OccupancyLeaseRecord → Prop) (now : String) :
    OccupancyStore → OccupancyStore → Prop :=
  Relation.ReflTransGen fun store next => ∃ candidate, candidates candidate ∧
    Transition Drives candidate.occupancyLeaseId now store next

theorem Sweep.mono {candidates others : OccupancyLeaseRecord → Prop}
    (sweep : Sweep candidates now store next)
    (among : ∀ candidate, candidates candidate → others candidate) : Sweep others now store next :=
  Relation.ReflTransGen.mono (fun _ _ step => step.imp fun candidate moved =>
    ⟨among candidate moved.1, moved.2⟩) _ _ sweep

theorem expireCandidates_chain (now : String) {sessions : String → Nat} {expired ids : List String}
    {candidates : List OccupancyLeaseRecord}
    (done : expireCandidates sessions candidates store expired = .ok (next, ids)) :
    Sweep (· ∈ candidates) now store next := by
  induction candidates generalizing store expired with
  | nil =>
    cases done
    exact .refl
  | cons candidate _ ih =>
    rw [expireCandidates] at done
    split at done
    · exact (ih done).mono fun _ => mem_cons_of_mem candidate
    · obtain ⟨⟨updated, _⟩, executed, done⟩ := bind_eq_ok.mp done
      have first : Transition Drives candidate.occupancyLeaseId now store updated :=
        executeUpdate_transition (fun _ source => .expired (mem_singleton.mp source))
          Drives.elsewhere executed
      exact .head ⟨candidate, mem_cons_self, first⟩
        ((ih done).mono fun _ => mem_cons_of_mem candidate)

end

end OccupancyLedger

inductive OccupancyEvent where
  | mint
  | claim (clients : ClientDirectory) (claim : OccupancyClaim) (now : String)
  | acknowledge (lease : String) (token : Nat) (idleExpiresAt : Option String) (now : String)
  | reject (lease : String) (token : Nat) (reason : OccupancyReleaseReason) (now : String)
  | requestRelease (lease : String) (token sessions : Nat) (now : String)
  | drainComplete (lease : String)
  | markRecoveryPending (clients : ClientDirectory) (lease deadline now : String)
  | reconcileResume (lease : String) (target : OccupancyReconcileTarget)
      (idleExpiresAt : Option String) (now : String)
  | recoveryContext (lease now : String)
  | forceRelease (lease now : String)
  | expireIdle (cutoff : String) (sessions : String → Nat)

namespace OccupancyEvent

def lease : OccupancyEvent → Option String
  | mint | expireIdle _ _ => none
  | claim _ made _ => some made.occupancyLeaseId
  | acknowledge lease _ _ _ | reject lease _ _ _ | requestRelease lease _ _ _
  | drainComplete lease | markRecoveryPending _ lease _ _ | reconcileResume lease _ _ _
  | recoveryContext lease _ | forceRelease lease _ => some lease

def now : OccupancyEvent → String
  | mint | drainComplete _ => ""
  | claim _ _ now | acknowledge _ _ _ now | reject _ _ _ now | requestRelease _ _ _ now
  | markRecoveryPending _ _ _ now | reconcileResume _ _ _ now | recoveryContext _ now
  | forceRelease _ now | expireIdle now _ => now

/-- Only a recovery mark suspends a lease and only a reconciliation resumes it. -/
def Move : OccupancyEvent → LeaseMove
  | markRecoveryPending _ _ _ _ => OccupancyLeaseProgress.Suspends
  | reconcileResume _ target _ _ => OccupancyLeaseProgress.Resumes target
  | _ => OccupancyLeaseProgress.Drives

def claimInstant : OccupancyEvent → Option String
  | claim _ _ now => some now
  | _ => none

end OccupancyEvent

namespace OccupancyLedger

open OccupancyLeaseProgress

def apply (store : OccupancyStore) : OccupancyEvent → OccupancyResult OccupancyStore
  | .mint => (·.1) <$> mintFencingToken store
  | .claim clients claim now => do
    let claim ← tryNewClaim claim
    (·.1) <$> atomicClaim store clients claim now
  | .acknowledge lease token idle now => (·.1) <$> recordAcknowledgement store lease token idle now
  | .reject lease token reason now => (·.1) <$> rejectOffer store lease token reason now
  | .requestRelease lease token sessions now =>
    (·.1) <$> requestRelease store lease token sessions now
  | .drainComplete lease => (·.1) <$> drainComplete store lease
  | .markRecoveryPending clients lease deadline now =>
    (·.1) <$> markRecoveryPending store clients lease deadline now
  | .reconcileResume lease target idle now =>
    (·.1) <$> reconcileResume store lease target idle now
  | .recoveryContext lease now => (·.1) <$> recoveryContext store lease now
  | .forceRelease lease now => (·.1) <$> forceRelease store lease now
  | .expireIdle cutoff sessions => (·.1) <$> expireIdle store cutoff sessions

def step (store : OccupancyStore) (event : OccupancyEvent) : OccupancyStore :=
  match apply store event with
  | .ok next => next
  | .error _ => store

inductive Outcome (event : OccupancyEvent) (store : OccupancyStore) : OccupancyStore → Prop
  | refused : Outcome event store store
  | minted (own : event = .mint) :
      Outcome event store
        { store with lastIssuedToken := some (store.lastIssuedToken.getD 0 + 1) }
  | claimed {next : OccupancyStore} (clients : ClientDirectory) (claim : OccupancyClaim)
      (now : String) (own : event = .claim clients claim now)
      (claimed : Claimed claim now store next) : Outcome event store next
  | moved {next : OccupancyStore} (lease : String) (own : event.lease = some lease)
      (transition : Transition event.Move lease event.now store next) : Outcome event store next
  | swept {next : OccupancyStore} (cutoff : String) (sessions : String → Nat)
      (own : event = .expireIdle cutoff sessions)
      (sweep : Sweep (fun row => row ∈ store.leases.rows ∧ idleDue cutoff row = true) cutoff
        store next) :
      Outcome event store next

theorem step_outcome (store : OccupancyStore) (event : OccupancyEvent) :
    Outcome event store (step store event) := by
  rw [step]
  split
  · rename_i next done
    cases event
    case claim clients claim now =>
      obtain ⟨valid, checked, done⟩ := bind_eq_ok.mp done
      obtain ⟨⟨_, _⟩, accepted, rfl⟩ := map_eq_ok.mp done
      -- The checks of a new claim return it unchanged.
      have same : valid = claim := by
        simp only [tryNewClaim, validateOccupancyLeaseId, validateClientNodeId, validateUserId,
          validateClaimRequestId, validateCrockfordId, refuse_bind_eq_ok] at checked
        exact (Except.ok.inj checked.2.2.2.2).symm
      subst same
      exact .claimed clients valid now rfl (atomicClaim_claimed accepted)
    all_goals obtain ⟨⟨_, _⟩, ran, rfl⟩ := map_eq_ok.mp done
    case mint =>
      obtain ⟨rfl, rfl⟩ := mintFencingToken_ok ran
      exact .minted rfl
    case acknowledge => exact .moved _ rfl (recordAcknowledgement_transition ran)
    case reject => exact .moved _ rfl (rejectOffer_transition ran)
    case requestRelease => exact .moved _ rfl (requestRelease_transition ran)
    case drainComplete => exact .moved _ rfl (drainComplete_transition ran)
    case markRecoveryPending => exact .moved _ rfl (markRecoveryPending_transition ran)
    case reconcileResume => exact .moved _ rfl (reconcileResume_transition ran)
    case recoveryContext => exact .moved _ rfl (recoveryContext_transition ran)
    case forceRelease => exact .moved _ rfl (forceRelease_transition ran)
    case expireIdle =>
      obtain ⟨_, _, swept⟩ := bind_eq_ok.mp ran
      exact .swept _ _ rfl ((expireCandidates_chain _ swept).mono fun _ => mem_filter.mp)
  · exact .refused

end OccupancyLedger

end WinWinCode.Storage
