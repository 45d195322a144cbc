import WinWinCode.Server.WorkerReconciliation

/-!
Leases under the server's own drivers, where reconciliation is reached only
through `settle_worker_reconciliation`. The recovery row remembers that a lease
was draining when its device went away, and when; that is what keeps a drained
lease from being occupied again and an old report from counting.
-/

namespace WinWinCode.Server

open Fallible Storage Tables Text Runs

open OccupancyLeaseProgress OccupancyLedger WorkerReconciliation

/-- The server's drivers of a lease: every operation of the ledger but the bare
resumption, and the settlement of a reconciliation report. -/
inductive OccupancyDriver where
  | ledger (event : OccupancyEvent) (own : ∀ lease target idle now,
      event ≠ .reconcileResume lease target idle now)
  | settle (ledgers : WorkerLedgers) (node : String) (payload : ClientWorkerReconcilePayload)
      (reportedAt now : String)

def OccupancyDriver.step (store : OccupancyStore) : OccupancyDriver → OccupancyStore
  | .ledger event _ => OccupancyLedger.step store event
  | .settle ledgers node payload reportedAt now =>
    (settleWorkerReconciliation ledgers store node payload reportedAt now).1

inductive Settled (reportedAt now : String) (store : OccupancyStore) : OccupancyStore → Prop
  | ignored : Settled reportedAt now store store
  | observed {next : OccupancyStore} {context : Option (Bool × String)} (lease : String)
      (read : recoveryContext store lease now = .ok (next, context)) :
      Settled reportedAt now store next
  | resumed {middle next : OccupancyStore} {record : OccupancyLeaseRecord} (lease : String)
      (wasDraining : Bool) (startedAt : String) (target : OccupancyReconcileTarget)
      (read : recoveryContext store lease now = .ok (middle, some (wasDraining, startedAt)))
      (timely : ¬ reportedAt < startedAt)
      (remembered : wasDraining = true → target = .resumeDraining)
      (resume : reconcileResume middle lease target none now = .ok (next, record)) :
      Settled reportedAt now store next

variable {reportedAt : String} {wasDraining : Bool} {now startedAt : String}

theorem reconcileDecision_ok {ledgers : WorkerLedgers} {node : String}
    {lease : OccupancyLeaseRecord} {payload : ClientWorkerReconcilePayload}
    {target : OccupancyReconcileTarget}
    (decided : reconcileDecision ledgers node lease payload reportedAt wasDraining startedAt now =
      .ok (some target)) : ¬ reportedAt < startedAt ∧ (wasDraining → target = .resumeDraining) := by
  rw [reconcileDecision] at decided
  split at decided
  · cases decided
  rename_i timely
  refine ⟨fun early => timely (Or.inl early), ?_⟩
  rintro rfl
  obtain ⟨_, _, decided⟩ := bind_eq_ok.mp decided
  obtain ⟨checked, _, decided⟩ := bind_eq_ok.mp decided
  cases checked with
  | none => cases decided
  | some _ =>
    dsimp only at decided
    split at decided
    · rw [← Option.some.inj (Except.ok.inj decided)]
      rfl
    · cases decided

theorem settle_settled (ledgers : WorkerLedgers) (store : OccupancyStore) (node : String)
    (payload : ClientWorkerReconcilePayload) (reportedAt now : String) :
    Settled reportedAt now store
      (settleWorkerReconciliation ledgers store node payload reportedAt now).1 := by
  rw [settleWorkerReconciliation]
  split
  · exact .ignored
  · exact .ignored
  rename_i lease active
  split
  · exact .ignored
  split
  · exact .ignored
  · rename_i observed read
    exact .observed _ read
  rename_i observed wasDraining startedAt read
  split
  · exact .observed _ read
  · exact .observed _ read
  rename_i target decided
  obtain ⟨timely, remembered⟩ := reconcileDecision_ok decided
  split
  · exact .observed _ read
  · rename_i resumed record resume
    exact .resumed _ wasDraining startedAt target read timely remembered resume

variable {next : OccupancyStore}

theorem recoveryContext_row {store : OccupancyStore} {lease : String}
    (read : recoveryContext store lease now = .ok (next, some (wasDraining, startedAt))) :
    next.recoveryRow lease = some ⟨lease, wasDraining, startedAt⟩ := by
  obtain ⟨_, _, read⟩ := bind_eq_ok.mp read
  obtain ⟨_, _, success⟩ := bind_eq_ok.mp read
  obtain ⟨rfl, context⟩ := Prod.mk.inj (Except.ok.inj success)
  obtain ⟨row, found, columns⟩ := Option.map_eq_some_iff.mp context
  have owner : row.occupancyLeaseId = lease := eq_of_beq (Table.find_eq_some found).2
  cases columns
  rw [found, ← owner]

/-- A lease that has been draining: it drains, has ended, or waits for recovery with
its draining remembered. -/
def Drained (lease : String) (store : OccupancyStore) : Prop :=
  ∃ row ∈ store.leases.rows, row.occupancyLeaseId = lease ∧
    (row.state = .draining ∨ row.state.isActive = false ∨
      (row.state = .recoveryPending ∧
        ∃ started, store.recoveryRow lease = some ⟨lease, true, started⟩))

variable {row : OccupancyLeaseRecord} {event : OccupancyEvent}

section Draining
variable {Move : LeaseMove} {lease other : String}
  {store : OccupancyStore}

def Gentle (Move : LeaseMove) (before : OccupancyLeaseProgress) : Prop :=
  ∀ after, Move before after →
    (before.state = .draining → after.state ≠ .reserving ∧ after.state ≠ .occupied) ∧
    (before.state = .recoveryPending → after.state = .draining ∨ after.state.isActive = false) ∧
    before.state.isActive = true

variable (before : OccupancyLeaseProgress)

theorem drives_gentle : Gentle Drives before := by
  intro _ move
  refine ⟨fun source => ?_, fun source => ?_, (Moves.drives move).active⟩
  all_goals cases move <;> simp_all [release, OccupancyLeaseState.isActive]

theorem suspends_gentle : Gentle Suspends before := by
  intro _ move
  refine ⟨fun source => ?_, fun source => ?_, (Moves.suspends move).active⟩
  all_goals
    cases move
    simp_all [suspend]

theorem resumes_gentle : Gentle (Resumes .resumeDraining) before := by
  intro _ move
  refine ⟨fun source => ?_, fun source => ?_, (Moves.resumes _ move).active⟩
  all_goals
    cases move
    simp_all [resume, targetState]

section
variable (drained : Drained lease store)
include drained

theorem Drained.transition (transition : Transition Move other now store next)
    (gentle : other = lease → ∀ row ∈ store.leases.rows, row.occupancyLeaseId = lease →
      Gentle Move row.toOccupancyLeaseProgress) : Drained lease next := by
  obtain ⟨row, member, owner, state⟩ := drained
  cases transition with
  | still rows _ recovery =>
    refine ⟨row, rows ▸ member, owner, ?_⟩
    rwa [recoveryRow_same recovery]
  | observed rows _ recovery =>
    refine ⟨row, rows ▸ member, owner, state.imp id (Or.imp id ?_)⟩
    rintro ⟨waiting, started, known⟩
    exact ⟨waiting, started, recovery lease _ known⟩
  | moved record progress recordIn mover move rows _ recovery =>
    by_cases same : row.occupancyLeaseId = record.occupancyLeaseId
    · have own : row = record := leaseRow_unique member recordIn same
      subst own
      have here : other = lease := mover.symm.trans owner
      obtain ⟨draining, waiting, active⟩ := gentle here row member owner progress move
      have placed : movedTo row progress ∈ next.leases.rows := by
        rw [rows]
        exact List.mem_map.mpr ⟨row, member, if_pos rfl⟩
      refine ⟨movedTo row progress, placed, owner, ?_⟩
      change progress.state = _ ∨ progress.state.isActive = _ ∨ progress.state = _ ∧ _
      rcases state with source | ended | ⟨source, _⟩
      · obtain ⟨unreserved, unoccupied⟩ := draining source
        cases reached : progress.state with
        | reserving => exact absurd reached unreserved
        | occupied => exact absurd reached unoccupied
        | draining => exact .inl rfl
        | recoveryPending =>
          refine .inr (Or.inr ⟨rfl, now, ?_⟩)
          rw [recovery, if_pos ⟨here.symm, reached⟩, here, source]
          rfl
        | released | expired => exact .inr (Or.inl rfl)
      · rw [active] at ended
        cases ended
      · exact (waiting source).imp id Or.inl
    · have elsewhere : lease ≠ other := fun here => same (owner.trans (here.trans mover.symm))
      refine ⟨row, ?_, owner, ?_⟩
      · rw [rows]
        exact mem_replaceLease_other member same
      · rwa [recovery, if_neg fun both => elsewhere both.1]

theorem Drained.settled (settled : Settled reportedAt now store next) : Drained lease next := by
  cases settled with
  | ignored => exact drained
  | observed _ read =>
    exact drained.transition (recoveryContext_transition read) fun _ _ _ _ => drives_gentle _
  | resumed _ _ _ _ read _ remembered resume =>
    have looked := drained.transition (recoveryContext_transition read)
      fun _ _ _ _ => drives_gentle _
    apply looked.transition (reconcileResume_transition resume)
    rintro rfl _ member owner
    obtain ⟨_, ownIn, ownId, state⟩ := looked
    rw [leaseRow_unique member ownIn (owner.trans ownId.symm)]
    rcases state with source | ended | ⟨_, _, known⟩
    · rintro _ ⟨_, _, waiting⟩
      rw [source] at waiting
      cases waiting
    · rintro _ ⟨_, _, waiting⟩
      rw [waiting] at ended
      cases ended
    · rw [recoveryContext_row read] at known
      cases known
      rw [remembered rfl]
      exact resumes_gentle _

theorem Drained.outcome (outcome : Outcome event store next)
    (own : ∀ lease target idle now, event ≠ .reconcileResume lease target idle now) :
    Drained lease next := by
  cases outcome with
  | refused | minted _ => exact drained
  | claimed _ _ now _ claimed =>
    obtain ⟨row, member, owner, _⟩ := drained
    refine ⟨row, ?_, owner, ?_⟩
    · rw [claimed.rows]
      exact List.mem_append_left _ member
    · rwa [recoveryRow_same claimed.recovery]
  | moved _ _ transition =>
    apply drained.transition transition
    intro _ _ _ _
    cases event with
    | markRecoveryPending _ lease _ now => exact suspends_gentle _
    | reconcileResume lease target idle now => exact absurd rfl (own lease target idle now)
    | _ => exact drives_gentle _
  | swept _ _ _ sweep =>
    exact sweep.keeps (Drained lease)
      (fun _ transition kept => kept.transition transition fun _ _ _ _ => drives_gentle _) drained

theorem Drained.step (driver : OccupancyDriver) : Drained lease (driver.step store) := by
  cases driver with
  | ledger event own => exact drained.outcome (step_outcome store event) own
  | settle ledgers node payload reportedAt now =>
    exact drained.settled (settle_settled ledgers store node payload reportedAt now)

theorem Drained.unoccupied (member : row ∈ store.leases.rows)
    (owner : row.occupancyLeaseId = lease) : row.state ≠ .occupied := by
  obtain ⟨_, ownIn, ownId, state⟩ := drained
  rw [leaseRow_unique member ownIn (owner.trans ownId.symm)]
  intro occupied
  rw [occupied] at state
  rcases state with state | state | ⟨state, _⟩ <;> cases state

end

end Draining

def Waiting (lease : String) (store : OccupancyStore) : Prop :=
  ∃ row ∈ store.leases.rows, row.occupancyLeaseId = lease ∧ row.state = .recoveryPending

section Windows
variable {Move : LeaseMove} {lease other : String}
  {store : OccupancyStore}

def Remembers (lease : String) (store next : OccupancyStore) : Prop :=
  ∀ row, store.recoveryRow lease = some row → next.recoveryRow lease = some row

section
variable (transition : Transition Move other now store next)
include transition

/-- A waiting lease waited before, and what is remembered of it has not changed, or it
was suspended just now. -/
theorem waiting_transition (waits : Waiting lease next) :
    (Waiting lease store ∧ Remembers lease store next) ∨
      ∃ record progress, lease = other ∧ record ∈ store.leases.rows ∧
        record.occupancyLeaseId = lease ∧ Move record.toOccupancyLeaseProgress progress ∧
        progress.state = .recoveryPending ∧
        next.recoveryRow lease = some ⟨lease, record.state = .draining, now⟩ := by
  obtain ⟨row, member, owner, waiting⟩ := waits
  cases transition with
  | still rows _ recovery =>
    refine .inl ⟨⟨row, rows ▸ member, owner, waiting⟩, fun known found => ?_⟩
    rwa [recoveryRow_same recovery]
  | observed rows _ recovery =>
    exact .inl ⟨⟨row, rows ▸ member, owner, waiting⟩, recovery lease⟩
  | moved record progress recordIn mover move rows _ recovery =>
    rw [rows] at member
    rcases mem_replaceLease member with rfl | ⟨old, different⟩
    · have here : lease = other := owner.symm.trans mover
      refine .inr ⟨record, progress, here, recordIn, owner, move, waiting, ?_⟩
      rw [recovery, if_pos ⟨here, waiting⟩, here]
    · have elsewhere : lease ≠ other := fun here => different (owner.trans (here.trans mover.symm))
      refine .inl ⟨⟨row, old, owner, waiting⟩, fun known found => ?_⟩
      rwa [recovery, if_neg fun both => elsewhere both.1]

section
variable (elsewhere : ∀ {before after}, Move before after → after.state ≠ .recoveryPending)
include elsewhere

theorem remembers_transition : Remembers lease store next := by
  intro row found
  cases transition with
  | still _ _ recovery => rwa [recoveryRow_same recovery]
  | observed _ _ recovery => exact recovery lease row found
  | moved _ _ _ _ move _ _ recovery =>
    rwa [recovery, if_neg fun both => elsewhere move both.2]

theorem still_waiting (waits : Waiting lease next) :
    Waiting lease store ∧ Remembers lease store next := by
  rcases waiting_transition transition waits with same | ⟨_, _, _, _, _, move, suspended, _⟩
  · exact same
  · exact absurd suspended (elsewhere move)

end

end

theorem Remembers.trans {middle : OccupancyStore} (first : Remembers lease store middle)
    (second : Remembers lease middle next) : Remembers lease store next :=
  fun row found => second row (first row found)

theorem Settled.waiting (settled : Settled reportedAt now store next) (waits : Waiting lease next) :
    Waiting lease store ∧ Remembers lease store next := by
  cases settled with
  | ignored => exact ⟨waits, fun _ found => found⟩
  | observed mover read =>
    exact still_waiting (recoveryContext_transition read) Drives.elsewhere waits
  | resumed mover wasDraining startedAt target read timely remembered resume =>
    rcases still_waiting (reconcileResume_transition resume) Resumes.elsewhere waits with
      ⟨waited, second⟩
    rcases still_waiting (recoveryContext_transition read) Drives.elsewhere waited with
      ⟨before, first⟩
    exact ⟨before, first.trans second⟩

theorem waiting_outcome (outcome : Outcome event store next) (waits : Waiting lease next) :
    (Waiting lease store ∧ Remembers lease store next) ∨ ∃ clients deadline now wasDraining,
        event = .markRecoveryPending clients lease deadline now ∧ ¬ Waiting lease store ∧
        next.recoveryRow lease = some ⟨lease, wasDraining, now⟩ := by
  cases outcome with
  | refused | minted _ => exact .inl ⟨waits, fun _ found => found⟩
  | claimed clients _ now _ claimed =>
    left
    obtain ⟨row, member, owner, waiting⟩ := waits
    rw [claimed.rows] at member
    rcases List.mem_append.mp member with old | new
    · refine ⟨⟨row, old, owner, waiting⟩, fun known found => ?_⟩
      rwa [recoveryRow_same claimed.recovery]
    · rw [List.mem_singleton.mp new] at waiting
      cases waiting
  | swept _ _ mine sweep =>
    left
    have backwards := sweep.keeps (fun reached => Waiting lease reached →
        Waiting lease store ∧ Remembers lease store reached)
      (fun _ transition earlier waits => by
        obtain ⟨waited, second⟩ := still_waiting transition Drives.elsewhere waits
        exact ⟨(earlier waited).1, (earlier waited).2.trans second⟩)
      fun waits => ⟨waits, fun _ found => found⟩
    exact backwards waits
  | moved _ mine transition =>
    cases event with
    | markRecoveryPending clients _ deadline now =>
      rcases waiting_transition transition waits with
        same | ⟨record, progress, here, member, owner, move, _, noted⟩
      · exact .inl same
      · right
        cases mine
        subst here
        refine ⟨clients, deadline, now, _, rfl, ?_, noted⟩
        rintro ⟨_, rowIn, rowId, waiting⟩
        rw [leaseRow_unique rowIn member (rowId.trans owner.symm)] at waiting
        cases move with
        | suspended _ source =>
          rw [waiting] at source
          rcases source with source | source <;> cases source
    | reconcileResume _ _ _ _ =>
      exact .inl (still_waiting transition Resumes.elsewhere waits)
    | _ => exact .inl (still_waiting transition Drives.elsewhere waits)

end Windows

section Reports
variable {lease : String} {store : OccupancyStore}

theorem waiting_step (driver : OccupancyDriver) (waits : Waiting lease (driver.step store)) :
    (Waiting lease store ∧ Remembers lease store (driver.step store)) ∨
      ∃ clients deadline now own wasDraining,
        driver = .ledger (.markRecoveryPending clients lease deadline now) own ∧
        ¬ Waiting lease store ∧
        (driver.step store).recoveryRow lease = some ⟨lease, wasDraining, now⟩ := by
  cases driver with
  | ledger event own =>
    rcases waiting_outcome (step_outcome store event) waits with
      same | ⟨clients, deadline, now, wasDraining, rfl, fresh, noted⟩
    · exact .inl same
    · exact .inr ⟨clients, deadline, now, own, wasDraining, rfl, fresh, noted⟩
  | settle ledgers node payload reportedAt now =>
    exact .inl ((settle_settled ledgers store node payload reportedAt now).waiting waits)

/-- The window a waiting lease is in: when it began, and that the recovery row says so. -/
structure WindowSince (drivers : List OccupancyDriver) (lease started : String) : Prop where
  began : ∃ early clients deadline own late,
    drivers = early ++ .ledger (.markRecoveryPending clients lease deadline started) own :: late ∧
    ¬ Waiting lease (after OccupancyDriver.step .empty early) ∧
    ∀ middle, middle <+: late → Waiting lease (after OccupancyDriver.step .empty
      (early ++ .ledger (.markRecoveryPending clients lease deadline started) own :: middle))
  noted : ∃ wasDraining, (after OccupancyDriver.step .empty drivers).recoveryRow lease =
    some ⟨lease, wasDraining, started⟩

theorem window_since (drivers : List OccupancyDriver)
    (waits : Waiting lease (after OccupancyDriver.step .empty drivers)) :
    ∃ started, WindowSince drivers lease started := by
  -- on the last driver: it began the window, or the window is the one before it
  induction drivers using List.reverseRecOn with
  | nil =>
    obtain ⟨_, member, _⟩ := waits
    cases member
  | append_singleton drivers driver ih =>
    have last : after OccupancyDriver.step .empty (drivers ++ [driver]) =
        driver.step (after OccupancyDriver.step .empty drivers) :=
      after_append _ _ _ _
    have waited := waits
    rw [last] at waited
    rcases waiting_step driver waited with
      ⟨before, remembers⟩ | ⟨clients, deadline, now, own, wasDraining, rfl, fresh, noted⟩
    · rcases ih before with ⟨started, ⟨early, clients, deadline, own, late, split, fresh, open_⟩,
        wasDraining, noted⟩
      refine ⟨started, ⟨early, clients, deadline, own, late ++ [driver], ?_, fresh, ?_⟩,
        wasDraining, ?_⟩
      · rw [split, List.append_assoc]
        rfl
      · intro middle part
        rcases List.prefix_concat_iff.mp part with rfl | inside
        · rw [split, List.append_assoc] at waits
          exact waits
        · exact open_ middle inside
      · rw [last]
        exact remembers _ noted
    · refine ⟨now, ⟨drivers, clients, deadline, own, [], rfl, fresh, ?_⟩, wasDraining, ?_⟩
      · intro _ part
        rw [List.prefix_nil.mp part]
        exact waits
      · rw [last]
        exact noted

theorem late_report_ignored {started : String}
    (noted : store.recoveryRow lease = some ⟨lease, wasDraining, started⟩)
    (member : row ∈ store.leases.rows) (owner : row.occupancyLeaseId = lease)
    (settled : Settled reportedAt now store next) (late : reportedAt < started) :
    row ∈ next.leases.rows := by
  have looked : ∀ {middle mover context}, recoveryContext store mover now = .ok (middle, context) →
      middle.leases = store.leases ∧ Remembers lease store middle := by
    intro _ mover _ read
    constructor
    · obtain ⟨_, _, read⟩ := bind_eq_ok.mp read
      obtain ⟨_, _, success⟩ := bind_eq_ok.mp read
      rw [← (Prod.mk.inj (Except.ok.inj success)).1]
      split <;> rfl
    · exact remembers_transition (recoveryContext_transition read) Drives.elsewhere
  cases settled with
  | ignored => exact member
  | observed mover read =>
    rw [(looked read).1]
    exact member
  | resumed mover _ _ target read timely _ resume =>
    obtain ⟨same, remembers⟩ := looked read
    have moves := (reconcileResume_transition resume).mono fun _ _ => Moves.resumes target
    apply moves.keeps (same ▸ member)
    left
    intro here
    have mine : mover = lease := here.symm.trans owner
    subst mine
    have both := (remembers _ noted).symm.trans (recoveryContext_row read)
    cases both
    exact timely late

end Reports

/-- Under the server's own drivers a lease that has been draining is never occupied
again, and a report from before the current recovery window changes nothing of the
lease that waits in it. -/
theorem drained_lease_stays_drained (drivers : List OccupancyDriver) (lease : String) :
    let store := after OccupancyDriver.step .empty drivers
    ((∃ row ∈ store.leases.rows, row.occupancyLeaseId = lease ∧ row.state = .draining) →
      ∀ later, ∀ row ∈ (after OccupancyDriver.step store later).leases.rows,
        row.occupancyLeaseId = lease → row.state ≠ .occupied) ∧
    (∀ row ∈ store.leases.rows, row.occupancyLeaseId = lease → row.state = .recoveryPending →
      ∃ started, WindowSince drivers lease started ∧
        ∀ ledgers node payload reportedAt now, reportedAt < started →
          row ∈ (settleWorkerReconciliation ledgers store node payload reportedAt
            now).1.leases.rows) := by
  intro store
  constructor
  · rintro ⟨row, member, owner, draining⟩ later
    have drained : Drained lease store := ⟨row, member, owner, .inl draining⟩
    have kept := after_invariant _ (fun _ driver drained => drained.step driver) drained later
    exact fun row member owner => kept.unoccupied member owner
  · intro row member owner waiting
    obtain ⟨started, window⟩ := window_since drivers ⟨row, member, owner, waiting⟩
    refine ⟨started, window, ?_⟩
    intro ledgers node payload reportedAt now late
    obtain ⟨_, noted⟩ := window.noted
    exact late_report_ignored noted member owner
      (settle_settled ledgers store node payload reportedAt now) late

end WinWinCode.Server
