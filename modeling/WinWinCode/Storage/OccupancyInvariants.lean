import WinWinCode.Storage.OccupancyRuns

/-!
What holds of the occupancy ledger after every run: tokens grow with the claims,
one lease of a node is active, a lease's columns agree with its state, ended
leases stay as they are and an operation leaves other leases alone.
-/

namespace WinWinCode.Storage.OccupancyLedger

open Fallible Tables Text OccupancyLeaseProgress List Runs

/-- Tokens are positive, issued and grow with the rows, and the columns of each lease agree
with its state. -/
structure Sound (store : OccupancyStore) : Prop where
  issued : ∀ row ∈ store.leases.rows,
    0 < row.fencingToken ∧ row.fencingToken ≤ store.lastIssuedToken.getD 0
  ordered : (store.leases.rows.map (·.fencingToken)).Pairwise (· < ·)
  formed : ∀ row ∈ store.leases.rows, row.WellFormed

theorem empty_sound : Sound .empty := by
  constructor
  · exact forall_mem_nil _
  · exact List.Pairwise.nil
  · exact forall_mem_nil _

variable {lease : OccupancyLeaseRecord}

section
variable {store : OccupancyStore} {record : OccupancyLeaseRecord}
  {progress : OccupancyLeaseProgress} {rows : List OccupancyLeaseRecord}
  {row : OccupancyLeaseRecord}

theorem mem_replaceLease (member : row ∈ replaceLease lease rows) :
    row = lease ∨ (row ∈ rows ∧ row.occupancyLeaseId ≠ lease.occupancyLeaseId) := by
  obtain ⟨_, oldIn, rfl⟩ := mem_map.mp member
  split
  · exact .inl rfl
  · rename_i different
    exact .inr ⟨oldIn, different⟩

theorem mem_replaceLease_other (member : row ∈ rows)
    (different : row.occupancyLeaseId ≠ lease.occupancyLeaseId) : row ∈ replaceLease lease rows :=
  mem_map.mpr ⟨row, member, if_neg different⟩

theorem map_replaceLease {Column : Type} (column : OccupancyLeaseRecord → Column)
    (member : record ∈ store.leases.rows)
    (kept : column (movedTo record progress) = column record) :
    (replaceLease (movedTo record progress) store.leases.rows).map column =
      store.leases.rows.map column := by
  rw [replaceLease, map_map]
  apply map_congr_left
  intro _ rowIn
  simp only [Function.comp_apply]
  split
  · rename_i same
    rw [kept, leaseRow_unique rowIn member same]
  · rfl

theorem filter_replaceLease (lease : OccupancyLeaseRecord) (rows : List OccupancyLeaseRecord) :
    (replaceLease lease rows).filter (·.occupancyLeaseId ≠ lease.occupancyLeaseId) =
      rows.filter fun row => row.occupancyLeaseId ≠ lease.occupancyLeaseId := by
  induction rows with
  | nil => rfl
  | cons row _ ih =>
    by_cases same : row.occupancyLeaseId = lease.occupancyLeaseId
    · simp [replaceLease, same] at ih ⊢
      exact ih
    · simp [replaceLease, same] at ih ⊢
      exact ih

end

section Steps
variable {Move : LeaseMove} {lease now : String}
  {store next : OccupancyStore} {event : OccupancyEvent}

theorem Transition.sound (transition : Transition Moves lease now store next)
    (sound : Sound store) : Sound next := by
  have quiet : next.leases.rows = store.leases.rows →
      next.lastIssuedToken = store.lastIssuedToken → Sound next := by
    intro rows tokens
    refine ⟨?_, ?_, ?_⟩ <;> rw [rows]
    · rw [tokens]
      exact sound.issued
    · exact sound.ordered
    · exact sound.formed
  cases transition with
  | still rows tokens _ | observed rows tokens _ => exact quiet rows tokens
  | moved record _ member _ move rows tokens _ =>
    refine ⟨?_, ?_, ?_⟩ <;> rw [rows]
    · intro row rowIn
      rw [tokens]
      rcases mem_replaceLease rowIn with rfl | ⟨old, _⟩
      · exact sound.issued record member
      · exact sound.issued row old
    · rw [map_replaceLease _ member rfl]
      exact sound.ordered
    · intro row rowIn
      rcases mem_replaceLease rowIn with rfl | ⟨old, _⟩
      · exact move.wellFormed (sound.formed record member)
      · exact sound.formed row old

theorem Transition.identities (transition : Transition Move lease now store next) :
    next.leases.rows.map (·.toOccupancyLeaseIdentity) =
      store.leases.rows.map (·.toOccupancyLeaseIdentity) := by
  cases transition with
  | still rows _ _ | observed rows _ _ => rw [rows]
  | moved _ _ member _ _ rows _ _ =>
    rw [rows, map_replaceLease _ member rfl]

theorem Transition.others (transition : Transition Move lease now store next) :
    next.leases.rows.filter (·.occupancyLeaseId ≠ lease) =
      store.leases.rows.filter fun row => row.occupancyLeaseId ≠ lease := by
  cases transition with
  | still rows _ _ | observed rows _ _ => rw [rows]
  | moved record progress _ owner _ rows _ _ =>
    rw [rows, ← owner]
    exact filter_replaceLease (movedTo record progress) store.leases.rows

variable {row : OccupancyLeaseRecord}

theorem Transition.keeps (transition : Transition Moves lease now store next)
    (member : row ∈ store.leases.rows)
    (apart : row.occupancyLeaseId ≠ lease ∨ row.state.isActive = false) :
    row ∈ next.leases.rows := by
  cases transition with
  | still rows _ _ | observed rows _ _ => rwa [rows]
  | moved _ _ recordIn owner move rows _ _ =>
    rw [rows]
    apply mem_replaceLease_other member
    intro same
    rcases apart with elsewhere | ended
    · exact elsewhere (same.trans owner)
    · -- the row would be the one that moved, and that one was active
      rw [leaseRow_unique member recordIn same, move.active] at ended
      exact Bool.noConfusion ended

theorem Claimed.sound {claim : OccupancyClaim} (claimed : Claimed claim now store next)
    (sound : Sound store) : Sound next := by
  have above : ∀ row ∈ store.leases.rows, row.fencingToken < store.lastIssuedToken.getD 0 + 1 :=
    fun row member => Nat.lt_succ_of_le (sound.issued row member).2
  refine ⟨?_, ?_, ?_⟩ <;> rw [claimed.rows]
  · rw [claimed.tokens, Option.getD_some]
    refine forall_mem_concat (fun row old => ?_) ⟨Nat.succ_pos _, le_refl _⟩
    exact ⟨(sound.issued row old).1, (above row old).le⟩
  · rw [map_append]
    apply pairwise_concat sound.ordered
    intro _ old
    obtain ⟨row, member, rfl⟩ := mem_map.mp old
    exact above row member
  · apply forall_mem_concat sound.formed
    constructor <;> simp [claimedLease]

theorem event_moves {before after : OccupancyLeaseProgress} (move : event.Move before after) :
    before.Moves after := by
  cases event with
  | markRecoveryPending _ _ _ _ => exact .suspends move
  | reconcileResume _ target _ _ => exact .resumes target move
  | _ => exact .drives move

theorem Sweep.keeps {candidates : OccupancyLeaseRecord → Prop}
    (sweep : Sweep candidates now store next) (Inv : OccupancyStore → Prop)
    (keeps : ∀ {candidate store next}, candidates candidate →
      Transition Drives candidate.occupancyLeaseId now store next → Inv store → Inv next)
    (start : Inv store) : Inv next := by
  induction sweep with
  | refl => exact start
  | tail _ last ih =>
    obtain ⟨_, chosen, transition⟩ := last
    exact keeps chosen transition ih

theorem Outcome.sound (outcome : Outcome event store next) (sound : Sound store) : Sound next := by
  cases outcome with
  | refused => exact sound
  | minted _ =>
    refine ⟨fun row member => ?_, sound.ordered, sound.formed⟩
    have issued := sound.issued row member
    exact ⟨issued.1, Nat.le_succ_of_le issued.2⟩
  | claimed _ _ _ _ claimed => exact claimed.sound sound
  | moved _ _ transition => exact (transition.mono fun _ _ => event_moves).sound sound
  | swept _ _ _ sweep =>
    exact sweep.keeps Sound (fun _ transition => (transition.mono fun _ _ => .drives).sound) sound

/-- Leases are only ever added, by claims at the given instants, and keep their identity. -/
def Extends (instants : List String) (store next : OccupancyStore) : Prop :=
  ∃ fresh, next.leases.rows.map (·.toOccupancyLeaseIdentity) =
      store.leases.rows.map (·.toOccupancyLeaseIdentity) ++ fresh ∧
    (fresh.map (·.claimedAt)).Sublist (instants.map some)

theorem Extends.of_same (instants : List String)
    (same : next.leases.rows.map (·.toOccupancyLeaseIdentity) =
      store.leases.rows.map (·.toOccupancyLeaseIdentity)) : Extends instants store next :=
  ⟨[], by rw [same, append_nil], nil_sublist _⟩

theorem Extends.trans {early late : List String} {middle : OccupancyStore}
    (first : Extends early store middle) (second : Extends late middle next) :
    Extends (early ++ late) store next := by
  obtain ⟨fresh, grown, claimed⟩ := first
  obtain ⟨more, grown', claimed'⟩ := second
  refine ⟨fresh ++ more, by rw [grown', grown, append_assoc], ?_⟩
  rw [map_append, map_append]
  exact claimed.append claimed'

section
variable (outcome : Outcome event store next)
include outcome

theorem Outcome.identities : Extends event.claimInstant.toList store next := by
  cases outcome with
  | refused | minted own => exact .of_same _ rfl
  | moved _ own transition => exact .of_same _ transition.identities
  | swept _ _ own sweep =>
    apply Extends.of_same
    exact sweep.keeps (fun reached => reached.leases.rows.map (·.toOccupancyLeaseIdentity) =
        store.leases.rows.map (·.toOccupancyLeaseIdentity))
      (fun _ transition same => transition.identities.trans same) rfl
  | claimed _ _ _ own claimed =>
    refine ⟨_, by rw [claimed.rows, map_append], ?_⟩
    rw [own]
    exact List.Sublist.refl _

theorem Outcome.ended (member : row ∈ store.leases.rows) (ended : row.state.isActive = false) :
    row ∈ next.leases.rows := by
  cases outcome with
  | refused | minted _ => exact member
  | moved _ _ transition =>
    exact (transition.mono fun _ _ => event_moves).keeps member (Or.inr ended)
  | swept _ _ _ sweep =>
    exact sweep.keeps (row ∈ ·.leases.rows) (fun _ transition present =>
        (transition.mono fun _ _ => .drives).keeps present (Or.inr ended)) member
  | claimed _ _ _ _ claimed =>
    rw [claimed.rows]
    exact mem_append_left _ member

theorem Outcome.others (own : event.lease = some lease) :
    next.leases.rows.filter (·.occupancyLeaseId ≠ lease) =
      store.leases.rows.filter fun row => row.occupancyLeaseId ≠ lease := by
  cases outcome with
  | refused | minted _ => rfl
  | moved _ owner transition =>
    rw [own] at owner
    cases owner
    exact transition.others
  | swept _ _ swept _ =>
    rw [swept] at own
    cases own
  | claimed _ _ _ made claimed =>
    rw [made] at own
    cases own
    rw [claimed.rows, filter_append]
    simp [claimedLease]

end

theorem Outcome.notDue {cutoff : String} {sessions : String → Nat}
    (outcome : Outcome (.expireIdle cutoff sessions) store next) (member : row ∈ store.leases.rows)
    (waiting : idleDue cutoff row = false) : row ∈ next.leases.rows := by
  cases outcome with
  | refused => exact member
  | minted own | claimed _ _ _ own _ | moved _ own transition => cases own
  | swept _ _ own sweep =>
    cases own
    refine sweep.keeps (row ∈ ·.leases.rows) ?_ member
    intro _ _ _ chosen transition present
    apply (transition.mono fun _ _ => Moves.drives).keeps present
    left
    intro same
    rw [leaseRow_unique member chosen.1 same, chosen.2] at waiting
    exact Bool.noConfusion waiting

theorem Outcome.mint (outcome : Outcome .mint store next) :
    next.leases.rows = store.leases.rows := by
  cases outcome with
  | refused | minted own => rfl
  | claimed _ _ _ own _ | moved _ own _ | swept _ _ own _ => cases own

end Steps

section Runs
variable (store : OccupancyStore) (events : List OccupancyEvent)

theorem run_sound {store : OccupancyStore} (sound : Sound store) :
    Sound (after step store events) :=
  after_invariant step (fun store event => (step_outcome store event).sound) sound events

theorem run_extends : Extends (events.filterMap OccupancyEvent.claimInstant) store
      (after step store events) := by
  induction events generalizing store with
  | nil => exact .of_same _ rfl
  | cons event _ ih =>
    have both := (step_outcome store event).identities.trans (ih (step store event))
    cases made : event.claimInstant with
    | none =>
      rw [made] at both
      rw [filterMap_cons_none made]
      exact both
    | some _ =>
      rw [made] at both
      rw [filterMap_cons_some made]
      exact both

end Runs

variable {instants : List String}

section Claims
variable {store : OccupancyStore}

/-- With a clock that never goes back, the recorded instants order the tokens. -/
theorem claimed_before (sound : Sound store) (grown : Extends instants .empty store)
    (clock : instants.Pairwise (· ≤ ·)) {left right : OccupancyLeaseRecord}
    (leftIn : left ∈ store.leases.rows) (rightIn : right ∈ store.leases.rows) {early late : String}
    (leftAt : left.claimedAt = some early) (rightAt : right.claimedAt = some late)
    (before : early < late) : left.fencingToken < right.fencingToken := by
  let Ordered (earlier later : OccupancyLeaseRecord) : Prop :=
    earlier.fencingToken < later.fencingToken ∧ ∀ first second,
      earlier.claimedAt = some first → later.claimedAt = some second → first ≤ second
  have ordered : store.leases.rows.Pairwise Ordered := by
    obtain ⟨fresh, grown, claimed⟩ := grown
    have instantsOf : store.leases.rows.map (·.claimedAt) = fresh.map (·.claimedAt) := by
      have columns := congrArg (List.map OccupancyLeaseIdentity.claimedAt) grown
      rw [map_map] at columns
      exact columns
    rw [← instantsOf] at claimed
    have sorted : (instants.map some).Pairwise fun earlier later => ∀ first second,
        earlier = some first → later = some second → first ≤ second := by
      apply List.Pairwise.map some _ clock
      rintro _ _ less _ _ ⟨⟩ ⟨⟩
      exact less
    have tokens := pairwise_map.mp sound.ordered
    exact tokens.and (pairwise_map.mp (sorted.sublist claimed))
  have symmetric : Std.Symm fun one other => Ordered one other ∨ Ordered other one :=
    ⟨fun _ _ => Or.symm⟩
  have different : left ≠ right := by
    rintro rfl
    rw [leftAt] at rightAt
    exact before.ne (Option.some.inj rightAt)
  have either : store.leases.rows.Pairwise fun one other =>
      Ordered one other ∨ Ordered other one := ordered.imp Or.inl
  rcases either.forall leftIn rightIn different with forth | back
  · exact forth.1
  · exact absurd before (not_lt.mpr (back.2 late early rightAt leftAt))

theorem claimed_later {early late : OccupancyStore} (sound : Sound late)
    (grown : Extends instants early late) {old new : OccupancyLeaseRecord}
    (oldIn : old ∈ early.leases.rows) (newIn : new ∈ late.leases.rows)
    (fresh : ∀ row ∈ early.leases.rows, row.occupancyLeaseId ≠ new.occupancyLeaseId) :
    old.fencingToken < new.fencingToken := by
  obtain ⟨added, grown, _⟩ := grown
  have ordered := sound.ordered
  have tokens : late.leases.rows.map (·.fencingToken) =
      early.leases.rows.map (·.fencingToken) ++ added.map (·.fencingToken) := by
    have columns := congrArg (List.map OccupancyLeaseIdentity.fencingToken) grown
    rw [map_append, map_map, map_map] at columns
    exact columns
  rw [tokens, pairwise_append] at ordered
  apply ordered.2.2 _ (mem_map_of_mem oldIn)
  have identity : new.toOccupancyLeaseIdentity ∈
      early.leases.rows.map (·.toOccupancyLeaseIdentity) ++ added := by
    rw [← grown]
    exact mem_map_of_mem newIn
  rcases mem_append.mp identity with known | added
  · obtain ⟨row, member, same⟩ := mem_map.mp known
    exact absurd (congrArg OccupancyLeaseIdentity.occupancyLeaseId same) (fresh row member)
  · exact mem_map_of_mem added

end Claims

/-- The ledger after every run. `early` splits the run at any point: leases claimed
later have larger tokens, leases that had ended are as they were, and the next
operation changes no lease but its own. Where the claims' clock never goes back, the
order of the recorded claim instants is the order of the tokens. -/
theorem occupancy_ledger_invariant (events : List OccupancyEvent) :
    let store := after step .empty events
    (∀ node, (store.leases.rows.filter fun row =>
      row.clientNodeId == node && row.state.isActive).length ≤ 1) ∧
    (store.leases.rows.map (·.fencingToken)).Nodup ∧
    (∀ row ∈ store.leases.rows,
      0 < row.fencingToken ∧ row.fencingToken ≤ store.lastIssuedToken.getD 0) ∧
    (∀ more, ∀ old ∈ store.leases.rows, ∀ new ∈ (after step store more).leases.rows,
      (∀ row ∈ store.leases.rows, row.occupancyLeaseId ≠ new.occupancyLeaseId) →
      old.fencingToken < new.fencingToken) ∧
    ((events.filterMap OccupancyEvent.claimInstant).Pairwise (· ≤ ·) →
      ∀ left ∈ store.leases.rows, ∀ right ∈ store.leases.rows, ∀ early late,
        left.claimedAt = some early → right.claimedAt = some late → early < late →
        left.fencingToken < right.fencingToken) ∧
    (∀ row ∈ store.leases.rows, row.WellFormed) ∧
    (∀ row ∈ store.leases.rows, row.state = .released ∨ row.state = .expired →
      ∀ more, row ∈ (after step store more).leases.rows) ∧
    (∀ event lease, event.lease = some lease →
      (step store event).leases.rows.filter (·.occupancyLeaseId ≠ lease) =
        store.leases.rows.filter fun row => row.occupancyLeaseId ≠ lease) ∧
    (step store .mint).leases.rows = store.leases.rows ∧
    (∀ cutoff sessions, ∀ row ∈ store.leases.rows, idleDue cutoff row = false →
      row ∈ (step store (.expireIdle cutoff sessions)).leases.rows) := by
  intro store
  have sound : Sound store := run_sound events empty_sound
  refine ⟨?_, ?_, sound.issued, ?_, ?_, sound.formed, ?_, ?_, ?_, ?_⟩
  · intro _
    apply store.leases.filter_length_le_one
    intro _ _ leftHit rightHit
    simp only [Bool.and_eq_true, beq_iff_eq] at leftHit rightHit
    exact .inr (Or.inr ⟨leftHit.1.trans rightHit.1.symm, leftHit.2, rightHit.2⟩)
  · exact sound.ordered.imp fun {_ _} less => less.ne
  · intro more _ oldIn _ newIn fresh
    exact claimed_later (run_sound more sound) (run_extends store more) oldIn newIn fresh
  · intro clock _ leftIn _ rightIn _ _ leftAt rightAt before
    exact claimed_before sound (run_extends .empty events) clock leftIn rightIn leftAt rightAt
      before
  · intro row member ended more
    have inactive : row.state.isActive = false := by
      rcases ended with ended | ended <;> rw [ended] <;> rfl
    exact after_invariant step (fun store event kept =>
      (step_outcome store event).ended kept inactive) member more
  · exact fun event lease own => (step_outcome store event).others own
  · exact (step_outcome store .mint).mint
  · exact fun cutoff sessions row member waiting => (step_outcome store _).notDue member waiting

end WinWinCode.Storage.OccupancyLedger
