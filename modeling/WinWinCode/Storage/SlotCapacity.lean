import WinWinCode.Foundation.Runs
import WinWinCode.Storage.WorkerSessionSlots

/-!
Capacity of worker instances over runs. The number of active slots and their memory,
disk and processes are four sums over one table, so one argument bounds them all: a
row that is written weighs no more than before, except when a slot is opened or moves
to a new instance, and both are measured against what is left. During a restart the
sums of the new instance and what is left for it add up to the limits, slot by slot.
-/

namespace WinWinCode.Storage

open Fallible Tables Counting List Table

/-- What is summed over the active slots of a worker instance. -/
inductive Quantity where
  | slots
  | memory
  | disk
  | processes

namespace Quantity

def of : Quantity → WorkerSlotResources → Nat
  | .slots, _ => 1
  | .memory, resources => resources.memoryBytes
  | .disk, resources => resources.diskBytes
  | .processes, resources => resources.processSlots

def bound (maxSlots : Nat) (limits : WorkerSlotResourceLimits) : Quantity → Nat
  | .slots => maxSlots
  | .memory => limits.maxMemoryBytes
  | .disk => limits.maxDiskBytes
  | .processes => limits.maxProcesses

def used (usage : WorkerSessionSlots.SlotUsage) : Quantity → Nat
  | .slots => usage.runningSlots
  | .memory => usage.reserved.memoryBytes
  | .disk => usage.reserved.diskBytes
  | .processes => usage.reserved.processSlots

end Quantity

variable {slots : SlotTable} {requestDigest requestId session : String}
  {perform : SlotAnswer} {lease : ExecutionLeaseRecord}
  {slot : WorkerSlotRecord} {stride : Nat} {environment : SlotEnvironment}
  {rows : List WorkerSlotRecord} {old : WorkerSlotRecord} {instance_ missing : String}
  {before middle after : SlotTable} {store : SlotStore}

namespace WorkerSessionSlots

/-! Loads. -/

def share (worker instance_ : String) (quantity : Quantity) (slot : WorkerSlotRecord) : Nat :=
  if isActiveOn worker instance_ slot then quantity.of slot.resources else 0

def load (slots : SlotTable) (worker instance_ : String) (quantity : Quantity) : Nat :=
  (slots.rows.map (share worker instance_ quantity)).sum

theorem load_eq_sum (slots : SlotTable) (worker instance_ : String) (quantity : Quantity) :
    load slots worker instance_ quantity =
      ((activeSlots slots worker instance_).map fun slot => quantity.of slot.resources).sum := by
  unfold load activeSlots
  induction slots.rows with
  | nil => rfl
  | cons _ _ ih =>
    simp only [map_cons, sum_cons, ih, filter_cons, share]
    split <;> simp

theorem load_slots (slots : SlotTable) (worker instance_ : String) :
    load slots worker instance_ .slots = (activeSlots slots worker instance_).length := by
  simp [load_eq_sum, Quantity.of]

variable {usage : SlotUsage}

theorem addUsage_eq_ok {next : SlotUsage} (done : addUsage usage slot = .ok next)
    (quantity : Quantity) :
    quantity.used next = quantity.used usage + quantity.of slot.resources := by
  simp only [addUsage, addChecked, eq_ok, checkedAdd_eq_some] at done
  obtain ⟨_, ⟨_, rfl⟩, _, ⟨_, rfl⟩, _, ⟨_, rfl⟩, _, ⟨_, rfl⟩, rfl⟩ := done
  cases quantity <;> rfl

theorem foldlM_addUsage {start : SlotUsage} (done : rows.foldlM addUsage start = .ok usage)
    (quantity : Quantity) : quantity.used usage =
      quantity.used start + (rows.map fun slot => quantity.of slot.resources).sum := by
  induction rows generalizing start with
  | nil =>
    cases done
    rfl
  | cons _ _ ih =>
    rw [foldlM_cons, bind_eq_ok] at done
    obtain ⟨_, first, others⟩ := done
    rw [ih others, addUsage_eq_ok first, map_cons, sum_cons, add_assoc]

theorem activeUsage_eq_ok {worker : String} (done : activeUsage slots worker instance_ = .ok usage)
    (quantity : Quantity) : quantity.used usage = load slots worker instance_ quantity := by
  rw [foldlM_addUsage done, load_eq_sum]
  cases quantity <;> exact zero_add _

theorem subtractResources_eq_ok {available left : WorkerSlotResourceLimits}
    {resources : WorkerSlotResources} (done : subtractResources available resources = .ok left) :
    left.maxMemoryBytes + resources.memoryBytes = available.maxMemoryBytes ∧
      left.maxDiskBytes + resources.diskBytes = available.maxDiskBytes ∧
      left.maxProcesses + resources.processSlots = available.maxProcesses := by
  simp only [subtractResources, checkedSub, eq_ok] at done
  obtain ⟨_, ⟨_, _, rfl⟩, _, ⟨_, _, rfl⟩, _, ⟨_, _, rfl⟩, rfl⟩ := done
  dsimp only
  omega

/-! Rows over one call. -/

/-- The rows of a table are still there; `stride` is how far a cursor may have moved. -/
structure SlotFollows (stride : Nat) (slot later : WorkerSlotRecord) : Prop where
  session : later.authority.workerSessionId = slot.authority.workerSessionId
  cursor : later.eventCursor = slot.eventCursor ∨
    later.eventCursor = slot.eventCursor + stride
  terminal : slot.state.active = false → later = slot

theorem SlotFollows.refl (stride : Nat) (slot : WorkerSlotRecord) : SlotFollows stride slot slot :=
  ⟨rfl, .inl rfl, fun _ => rfl⟩

def Follows (stride : Nat) (before after : SlotTable) : Prop :=
  ∀ slot ∈ before.rows, ∃ later ∈ after.rows, SlotFollows stride slot later

theorem Follows.refl (stride : Nat) (slots : SlotTable) : Follows stride slots slots :=
  fun slot member => ⟨slot, member, SlotFollows.refl stride slot⟩

theorem Follows.trans (early : Follows 0 before middle) (late : Follows 0 middle after) :
    Follows 0 before after := by
  intro slot member
  obtain ⟨between, present, first⟩ := early slot member
  obtain ⟨later, found, second⟩ := late between present
  refine ⟨later, found, second.session.trans first.session, ?_, ?_⟩
  · have earlyCursor := first.cursor
    have lateCursor := second.cursor
    omega
  · intro terminal
    have same := first.terminal terminal
    rw [same] at second
    exact second.terminal terminal

theorem follows_insert {next : SlotTable} (inserted : slots.insert slot = some next) :
    Follows 0 slots next := by
  intro kept member
  rw [(insert_eq_some.mp inserted).2]
  exact ⟨kept, mem_append_left _ member, SlotFollows.refl 0 kept⟩

section Update
variable {next : SlotTable} {selected : WorkerSlotRecord → Bool}
  {change : WorkerSlotRecord → WorkerSlotRecord} {keeps : Keeps change}
  {wasActive : ∀ slot, selected slot = true → slot.state.active = true} {lost : String}

section
variable (done : updateSlot slots selected change keeps wasActive lost = .ok next)
include done

theorem updateSlot_eq_ok : (∃ row, slots.rows.filter selected = [row]) ∧
      next.rows = slots.rows.map (Table.alter selected change) := by
  simp only [updateSlot, eq_ok] at done
  obtain ⟨_, one, rfl⟩ := done
  exact ⟨length_eq_one_iff.mp (not_not.mp one), rfl⟩

theorem follows_update
    (cursor : ∀ slot, selected slot → (change slot).eventCursor = slot.eventCursor ∨
      (change slot).eventCursor = slot.eventCursor + stride) : Follows stride slots next := by
  intro slot member
  rw [(updateSlot_eq_ok done).2]
  refine ⟨_, mem_map_of_mem member, ?_⟩
  unfold Table.alter
  by_cases hit : selected slot = true
  · rw [if_pos hit]
    refine ⟨keeps.session slot, cursor slot hit, ?_⟩
    intro terminal
    rw [wasActive slot hit] at terminal
    cases terminal
  · rw [if_neg hit]
    exact SlotFollows.refl stride slot

theorem load_update_le (authority : ∀ slot, (change slot).authority = slot.authority)
    (resources : ∀ slot, (change slot).resources = slot.resources) (worker instance_ : String)
    (quantity : Quantity) :
    load next worker instance_ quantity ≤ load slots worker instance_ quantity := by
  unfold load
  rw [(updateSlot_eq_ok done).2]
  apply sum_alter_le
  intro slot hit
  unfold share isActiveOn
  rw [authority, resources, wasActive slot hit]
  split
  · rename_i active
    simp only [Bool.and_eq_true] at active
    simp [active.1.1, active.1.2]
  · exact Nat.zero_le _

end

end Update

structure Lightens (stride : Nat) (before after : SlotTable) : Prop where
  load : ∀ worker instance_ quantity,
    load after worker instance_ quantity ≤ load before worker instance_ quantity
  follows : Follows stride before after

theorem Lightens.refl (stride : Nat) (slots : SlotTable) : Lightens stride slots slots :=
  ⟨fun _ _ _ => le_refl _, Follows.refl stride slots⟩

theorem Lightens.trans (early : Lightens 0 before middle) (late : Lightens 0 middle after) :
    Lightens 0 before after :=
  ⟨fun worker instance_ quantity =>
    (late.load worker instance_ quantity).trans (early.load worker instance_ quantity),
    early.follows.trans late.follows⟩

/-! Capacity. -/

def Within (maxSlots : String → Nat) (store : SlotStore) : Prop :=
  ∀ worker instance_, 0 < load store.slots worker instance_ .slots →
    ∃ limits, loadResourceLimits store worker instance_ = some limits ∧
      ∀ quantity : Quantity,
        load store.slots worker instance_ quantity ≤ quantity.bound (maxSlots worker) limits

section Capacity
variable {maxSlots : String → Nat} {next : SlotStore}

theorem Within.empty : Within maxSlots SlotStore.empty := fun _ _ busy => absurd busy (lt_irrefl 0)

variable {limits : WorkerSlotResourceLimits} {worker : String}

theorem Within.load_le (within : Within maxSlots store)
    (configured : loadResourceLimits store worker instance_ = some limits) (quantity : Quantity) :
    load store.slots worker instance_ quantity ≤ quantity.bound (maxSlots worker) limits := by
  rcases Nat.eq_zero_or_pos (load store.slots worker instance_ .slots) with idle | busy
  · rw [load_slots, length_eq_zero_iff] at idle
    rw [load_eq_sum, idle]
    exact Nat.zero_le _
  · obtain ⟨_, found, bounded⟩ := within worker instance_ busy
    rw [configured] at found
    cases found
    exact bounded quantity

theorem Within.lighten (within : Within maxSlots store) (limits : next.limits = store.limits)
    (lighter : ∀ quantity, load next.slots worker instance_ quantity ≤
      load store.slots worker instance_ quantity)
    (busy : 0 < load next.slots worker instance_ .slots) :
    ∃ limits, loadResourceLimits next worker instance_ = some limits ∧
      ∀ quantity : Quantity,
        load next.slots worker instance_ quantity ≤ quantity.bound (maxSlots worker) limits := by
  rcases within worker instance_ (lt_of_lt_of_le busy (lighter .slots)) with
    ⟨known, found, bounded⟩
  refine ⟨known, ?_, fun quantity => (lighter quantity).trans (bounded quantity)⟩
  rw [← found, loadResourceLimits, loadResourceLimits, limits]

/-! What each operation does to the tables. -/

structure Kept (maxSlots : String → Nat) (store next : SlotStore) : Prop where
  within : Within maxSlots next
  follows : Follows 1 store.slots next.slots
  terminal : ∀ slot ∈ store.slots.rows, slot.state.active = false → slot ∈ next.slots.rows

theorem Kept.of_follows (within : Within maxSlots next)
    (follows : Follows stride store.slots next.slots) (short : stride ≤ 1) :
    Kept maxSlots store next where
  within := within
  follows := by
    intro slot member
    obtain ⟨later, found, kept⟩ := follows slot member
    refine ⟨later, found, kept.session, ?_, kept.terminal⟩
    have cursor := kept.cursor
    omega
  terminal := by
    intro slot member ended
    obtain ⟨_, found, kept⟩ := follows slot member
    exact kept.terminal ended ▸ found

variable {receipt : WorkerSlotReceipt} {operation : SlotOperation}

theorem finishSlotMutation_eq_ok
    (done : finishSlotMutation store slots operation session requestId requestDigest missing =
      .ok (next, receipt)) : next.limits = store.limits ∧ next.slots = slots := by
  simp only [finishSlotMutation, eq_ok, Prod.mk.injEq] at done
  obtain ⟨_, _, _, _, _, _, rfl, _⟩ := done
  exact ⟨rfl, rfl⟩

theorem replayOr_eq_ok (done : replayOr store operation session requestId requestDigest perform =
      .ok (next, receipt)) : next = store ∨ perform = .ok (next, receipt) := by
  rw [replayOr, bind_eq_ok] at done
  obtain ⟨replayed, _, done⟩ := done
  cases replayed with
  | some _ =>
    cases done
    exact .inl rfl
  | none => exact .inr done

variable {digest : Digest}

theorem requireCurrentWorker_eq_ok {healthy : Bool} {count : Nat}
    (done : requireCurrentWorker environment maxSlots worker instance_ healthy = .ok count) :
    count = maxSlots worker := by
  simp only [requireCurrentWorker, eq_ok] at done
  obtain ⟨_, _, _, _, _, _, rfl⟩ := done
  rfl

theorem loadResourceLimits_insert {row : ResourceLimitsRow}
    {rows : Table ResourceLimitsRow ResourceLimitsRow.Clash}
    (inserted : store.limits.insert row = some rows)
    (configured : loadResourceLimits store worker instance_ = some limits) :
    loadResourceLimits { store with limits := rows } worker instance_ = some limits := by
  rw [loadResourceLimits, Option.map_eq_some_iff] at configured ⊢
  obtain ⟨found, known, same⟩ := configured
  refine ⟨found, ?_, same⟩
  rw [find_insert inserted, known]
  rfl

section
variable (within : Within maxSlots store)
include within

theorem Kept.refl : Kept maxSlots store store :=
  Kept.of_follows within (Follows.refl 0 store.slots) (Nat.zero_le 1)

theorem Kept.of_lightens (limits : next.limits = store.limits)
    (lightens : Lightens stride store.slots next.slots) (short : stride ≤ 1) :
    Kept maxSlots store next :=
  Kept.of_follows (fun worker instance_ => within.lighten limits (lightens.load worker instance_))
    lightens.follows short

theorem Within.configureResources {answer : Bool}
    (done : configureResources maxSlots environment store worker instance_ limits =
      .ok (next, answer)) : Kept maxSlots store next := by
  simp only [WorkerSessionSlots.configureResources, eq_ok] at done
  obtain ⟨_, _, _, _, _, _, done⟩ := done
  split at done
  · simp only [eq_ok, Prod.mk.injEq] at done
    obtain ⟨_, _, rfl, _⟩ := done
    exact Kept.refl within
  · simp only [eq_ok, Prod.mk.injEq] at done
    obtain ⟨rows, inserted, rfl, _⟩ := done
    -- Whoever has active slots had limits before, and they stay the first ones.
    have configured : Within maxSlots { store with limits := rows } := by
      intro other otherInstance busy
      obtain ⟨known, found, bounded⟩ := within other otherInstance busy
      exact ⟨known, loadResourceLimits_insert inserted found, bounded⟩
    exact Kept.of_follows configured (Follows.refl 0 store.slots) (Nat.zero_le 1)

end

theorem load_insert {grown : SlotTable} (inserted : slots.insert slot = some grown)
    (worker instance_ : String) (quantity : Quantity) : load grown worker instance_ quantity =
      load slots worker instance_ quantity + share worker instance_ quantity slot := by
  rw [load, (insert_eq_some.mp inserted).2, map_append, sum_append]
  simp [load]

section
variable (within : Within maxSlots store)
include within

theorem Within.openNew {request : WorkerSlotOpenRequest}
    (done : openNew digest maxSlots environment store request = .ok (next, receipt)) :
    Kept maxSlots store next := by
  simp only [WorkerSessionSlots.openNew, ensureResourceCapacity, eq_ok] at done
  rcases done with ⟨_, current, _, _, _, _, limits, configured, _, measured, _,
    room, _, fits, _, _, slots, inserted, done⟩
  obtain ⟨sameLimits, sameSlots⟩ := finishSlotMutation_eq_ok done
  have usedIs := activeUsage_eq_ok measured
  have held := within.load_le configured
  rw [requireCurrentWorker_eq_ok current] at room
  simp only [resourcesFit, Bool.not_eq_false, Bool.and_eq_true, decide_eq_true_eq] at fits
  have grown := load_insert inserted
  refine Kept.of_follows ?_ (sameSlots ▸ follows_insert inserted) (Nat.zero_le 1)
  intro worker instance_ busy
  by_cases here : isActiveOn worker instance_ (openedSlot request) = true
  · simp only [isActiveOn, openedSlot, Bool.and_eq_true, beq_iff_eq] at here
    obtain ⟨⟨rfl, rfl⟩, _⟩ := here
    refine ⟨limits, ?_, ?_⟩
    · rw [← configured, loadResourceLimits, loadResourceLimits, sameLimits]
    · intro quantity
      rw [sameSlots, grown]
      have before := held quantity
      have measure := usedIs quantity
      have added : share request.authority.workerId request.authority.workerInstanceId quantity
          (openedSlot request) = quantity.of request.resources := by
        simp [share, isActiveOn, openedSlot, WorkerSlotState.active]
      rw [added]
      cases quantity <;> simp only [Quantity.of, Quantity.bound, Quantity.used] at * <;> omega
  · apply within.lighten sameLimits _ busy
    intro _
    rw [sameSlots, grown, share, if_neg here]
    exact Nat.le_refl _

theorem Within.finish (short : stride ≤ 1) (lightens : Lightens stride store.slots slots)
    (done : finishSlotMutation store slots operation session requestId requestDigest missing =
      .ok (next, receipt)) : Kept maxSlots store next := by
  obtain ⟨limits, same⟩ := finishSlotMutation_eq_ok done
  exact Kept.of_lightens within limits (same ▸ lightens) short

theorem Within.advanceNew {request : WorkerSlotEventAdvance}
    (done : advanceNew digest environment store request = .ok (next, receipt)) :
    Kept maxSlots store next := by
  simp only [WorkerSessionSlots.advanceNew, eq_ok, not_or, not_not] at done
  obtain ⟨_, _, _, _, _, contiguous, _, updated, done⟩ := done
  apply within.finish (le_refl 1) _ done
  constructor
  · exact load_update_le updated (fun _ => rfl) (fun _ => rfl)
  · apply follows_update updated
    intro _ hit
    simp only [Bool.and_eq_true, beq_iff_eq] at hit
    exact .inr (by rw [hit.2]; exact contiguous.2)

theorem Within.cancelNew {request : WorkerSlotCancellation}
    (done : cancelNew digest environment store request = .ok (next, receipt)) :
    Kept maxSlots store next := by
  simp only [WorkerSessionSlots.cancelNew, eq_ok] at done
  obtain ⟨_, _, _, _, _, _, _, _, _, _, _, updated, done⟩ := done
  apply within.finish (Nat.zero_le 1) _ done
  constructor
  · exact load_update_le updated (fun _ => rfl) (fun _ => rfl)
  · exact follows_update updated fun _ _ => Or.inl rfl

theorem Within.closeNew {request : WorkerSlotCloseRequest}
    (done : closeNew digest environment store request = .ok (next, receipt)) :
    Kept maxSlots store next := by
  simp only [WorkerSessionSlots.closeNew, eq_ok] at done
  obtain ⟨_, _, _, _, _, _, _, _, _, _, _, updated, done⟩ := done
  apply within.finish (Nat.zero_le 1) _ done
  constructor
  · exact load_update_le updated (fun _ => rfl) (fun _ => rfl)
  · exact follows_update updated fun _ _ => Or.inl rfl

theorem Within.replayOr {check : SlotCheck}
    (performed : ∀ next receipt, perform = .ok (next, receipt) → Kept maxSlots store next) :
    Kept maxSlots store (commit store (check >>= fun _ =>
      replayOr store operation session requestId requestDigest perform)).1 := by
  apply commit_keeps (Kept.refl within)
  intro next receipt done
  obtain ⟨_, _, done⟩ := bind_eq_ok.mp done
  rcases replayOr_eq_ok done with rfl | fresh
  · exact Kept.refl within
  · exact performed next receipt fresh

end

theorem lightens_markRecoveryFailed {failed : SlotTable} {recoveredAt : String}
    (done : markRecoveryFailed slots old recoveredAt = .ok failed) : Lightens 0 slots failed :=
  ⟨load_update_le done (fun _ => rfl) (fun _ => rfl), follows_update done fun _ _ => Or.inl rfl⟩

theorem Within.fenceForReplacement (within : Within maxSlots store) {replacedAt : String}
    {answer : Unit} (done : fenceForReplacement store lease replacedAt = .ok (next, answer)) :
    Kept maxSlots store next := by
  unfold WorkerSessionSlots.fenceForReplacement at done
  split at done
  · cases done
    exact Kept.refl within
  · simp only [eq_ok, Prod.mk.injEq] at done
    obtain ⟨_, _, _, _, _, _, _, failed, rfl, _⟩ := done
    exact Kept.of_lightens within rfl (lightens_markRecoveryFailed failed) (Nat.zero_le 1)

theorem Within.fenceDevice (within : Within maxSlots store) {granted : String → String → Bool}
    {fencedAt : String} {answer : Unit}
    (done : fenceDevice granted store fencedAt = .ok (next, answer)) :
    Kept maxSlots store next := by
  simp only [WorkerSessionSlots.fenceDevice, eq_ok, Prod.mk.injEq] at done
  obtain ⟨_, _, _, folded, rfl, _⟩ := done
  refine Kept.of_lightens within rfl ?_ (Nat.zero_le 1)
  apply foldlM_keeps (Lightens 0 store.slots) _ (Lightens.refl 0 store.slots) folded
  intro _ _ _ _ before fencing
  simp only [fenceSlot, eq_ok] at fencing
  obtain ⟨_, _, failed⟩ := fencing
  exact before.trans (lightens_markRecoveryFailed failed)

end Capacity

/-! Restart. -/

def Elsewhere (request : WorkerSlotRecoveryRequest) (slot : WorkerSlotRecord) : Prop :=
  slot.authority.workerId = request.workerId ∧
    slot.authority.workerInstanceId ≠ request.workerInstanceId ∧ slot.state.active = true

theorem filter_isOld (member : old ∈ slots.rows) (active : old.state.active) :
    slots.rows.filter (isOld old) = [old] := by
  apply slots.filter_eq_singleton member
  · simp [isOld, isAt, active]
  · intro _ _ leftHit rightHit
    simp only [isOld, isAt, Bool.and_eq_true, beq_iff_eq] at leftHit rightHit
    exact .inl (leftHit.1.1.1.trans rightHit.1.1.1.symm)

/-- The old slots that are left are those still to be reconciled; on the new instance the
load and what is left add up to the limits at most, and no other load has grown. -/
structure Recovering (maxSlots : String → Nat) (before : SlotTable)
    (request : WorkerSlotRecoveryRequest) (limits : WorkerSlotResourceLimits)
    (recovery : Recovery) (remaining : List WorkerSlotRecord) : Prop where
  here : ∀ quantity : Quantity,
    load recovery.slots request.workerId request.workerInstanceId quantity +
        quantity.bound recovery.availableSlots recovery.availableResources ≤
      quantity.bound (maxSlots request.workerId) limits
  others : ∀ worker instance_,
    ¬ (worker = request.workerId ∧ instance_ = request.workerInstanceId) → ∀ quantity,
      load recovery.slots worker instance_ quantity ≤ load before worker instance_ quantity
  left : ∀ slot, slot ∈ remaining ↔ slot ∈ recovery.slots.rows ∧ Elsewhere request slot
  distinct : remaining.Nodup
  follows : Follows 0 before recovery.slots

section Restart
variable {maxSlots : String → Nat} {request : WorkerSlotRecoveryRequest}
  {limits : WorkerSlotResourceLimits} {recovery after : Recovery} {rest : List WorkerSlotRecord}

section
variable (recovering : Recovering maxSlots before request limits recovery (old :: rest))
include recovering

theorem Recovering.left_of_update {change : WorkerSlotRecord → WorkerSlotRecord}
    (settled : ¬ Elsewhere request (change old))
    (rows : slots.rows = recovery.slots.rows.map (Table.alter (isOld old) change))
    (slot : WorkerSlotRecord) : slot ∈ rest ↔ slot ∈ slots.rows ∧ Elsewhere request slot := by
  have present := (recovering.left old).mp mem_cons_self
  have fresh := (nodup_cons.mp recovering.distinct).1
  have only := filter_isOld present.1 present.2.2.2
  have selected : ∀ row ∈ recovery.slots.rows, isOld old row = true → row = old := by
    intro row member hit
    have picked := mem_filter.mpr ⟨member, hit⟩
    rw [only] at picked
    exact mem_singleton.mp picked
  have chosen : isOld old old := (mem_filter.mp (only ▸ mem_singleton_self old)).2
  rw [rows]
  constructor
  · intro member
    have known := (recovering.left slot).mp (mem_cons_of_mem old member)
    refine ⟨mem_map.mpr ⟨slot, known.1, ?_⟩, known.2⟩
    apply if_neg
    intro hit
    exact fresh (selected slot known.1 hit ▸ member)
  · rintro ⟨member, elsewhere⟩
    obtain ⟨row, within, rfl⟩ := mem_map.mp member
    by_cases hit : isOld old row = true
    · rw [selected row within hit, Table.alter, if_pos chosen] at elsewhere
      exact absurd elsewhere settled
    · rw [Table.alter, if_neg hit] at elsewhere ⊢
      rcases mem_cons.mp ((recovering.left row).mpr ⟨within, elsewhere⟩) with rfl | later
      · exact absurd chosen hit
      · exact later

theorem Recovering.failSlot (done : failSlot request recovery old = .ok after) :
    Recovering maxSlots before request limits after rest := by
  simp only [WorkerSessionSlots.failSlot, eq_ok] at done
  obtain ⟨_, failed, _, _, _, _, rfl⟩ := done
  have lightens := lightens_markRecoveryFailed failed
  have settled : ¬ Elsewhere request (markTerminal .recoveryFailed request.recoveredAt old) :=
    fun elsewhere => Bool.false_ne_true elsewhere.2.2
  exact {
    here := fun quantity => (Nat.add_le_add_right (lightens.load _ _ quantity) _).trans
      (recovering.here quantity)
    others := fun worker instance_ apart quantity => (lightens.load worker instance_ quantity).trans
      (recovering.others worker instance_ apart quantity)
    left := recovering.left_of_update settled (updateSlot_eq_ok failed).2
    distinct := (nodup_cons.mp recovering.distinct).2
    follows := recovering.follows.trans lightens.follows }

theorem Recovering.load_moveTo
    (moved : updateRecoveredSlot recovery.slots old request.workerInstanceId lease
      request.recoveredAt = .ok slots) (worker instance_ : String) (quantity : Quantity) :
    load slots worker instance_ quantity ≤ load recovery.slots worker instance_ quantity +
      if worker = request.workerId ∧ instance_ = request.workerInstanceId then
        quantity.of old.resources else 0 := by
  obtain ⟨member, sameWorker, _, active⟩ := (recovering.left old).mp mem_cons_self
  simp only [updateRecoveredSlot, eq_ok] at moved
  obtain ⟨_, _, updated⟩ := moved
  have exchanged := sum_alter_single (share worker instance_ quantity)
    (moveTo request.workerInstanceId lease request.recoveredAt) (filter_isOld member active)
  rw [← (updateSlot_eq_ok updated).2] at exchanged
  have added : share worker instance_ quantity
      (moveTo request.workerInstanceId lease request.recoveredAt old) =
        if worker = request.workerId ∧ instance_ = request.workerInstanceId then
          quantity.of old.resources else 0 := by
    by_cases target : worker = request.workerId ∧ instance_ = request.workerInstanceId
    · simp [share, isActiveOn, moveTo, target, sameWorker, active]
    · rw [if_neg target, share, if_neg]
      simp only [isActiveOn, moveTo, sameWorker, Bool.and_eq_true, beq_iff_eq]
      rintro ⟨⟨worker, instance_⟩, _⟩
      exact target ⟨worker.symm, instance_.symm⟩
  rw [added] at exchanged
  unfold load
  omega

theorem Recovering.recoverSlot (room : 0 < recovery.availableSlots)
    (done : recoverSlot request recovery old lease = .ok after) :
    Recovering maxSlots before request limits after rest := by
  simp only [WorkerSessionSlots.recoverSlot, eq_ok] at done
  obtain ⟨_, moved, _, taken, _, _, _, _, rfl⟩ := done
  have grown := recovering.load_moveTo moved
  have measured := subtractResources_eq_ok taken
  simp only [updateRecoveredSlot, eq_ok] at moved
  obtain ⟨_, _, updated⟩ := moved
  exact {
    here := by
      intro quantity
      have more := grown request.workerId request.workerInstanceId quantity
      have sum := recovering.here quantity
      rw [if_pos ⟨rfl, rfl⟩] at more
      cases quantity <;> simp only [Quantity.of, Quantity.bound] at * <;> omega
    others := by
      intro worker instance_ apart quantity
      have same := grown worker instance_ quantity
      rw [if_neg apart] at same
      exact same.trans (recovering.others worker instance_ apart quantity)
    left := recovering.left_of_update (·.2.1 rfl)
      (updateSlot_eq_ok updated).2
    distinct := (nodup_cons.mp recovering.distinct).2
    follows := recovering.follows.trans (follows_update updated fun _ _ => Or.inl rfl) }

theorem Recovering.reconcileSlot
    (done : reconcileSlot environment request recovery old = .ok after) :
    Recovering maxSlots before request limits after rest := by
  rw [WorkerSessionSlots.reconcileSlot, bind_eq_ok] at done
  obtain ⟨_, _, done⟩ := done
  split at done
  · rename_i lease found
    have recoverable := (Option.filter_eq_some_iff.mp found).2
    simp only [isRecoverable, Bool.and_eq_true, decide_eq_true_eq] at recoverable
    exact recovering.recoverSlot recoverable.1.2 done
  · exact recovering.failSlot done

end

theorem Recovering.reconciled {remaining : List WorkerSlotRecord}
    (recovering : Recovering maxSlots before request limits recovery remaining)
    (done : remaining.foldlM (WorkerSessionSlots.reconcileSlot environment request) recovery =
      .ok after) : Recovering maxSlots before request limits after [] := by
  induction remaining generalizing recovery with
  | nil =>
    cases done
    exact recovering
  | cons _ _ ih =>
    rw [foldlM_cons, bind_eq_ok] at done
    obtain ⟨_, first, others⟩ := done
    exact ih (recovering.reconcileSlot first) others

end Restart

theorem mapM_completeSlot {slots : List WorkerSlotRecord}
    (done : rows.mapM completeSlot = .ok slots) : slots = rows := by
  induction rows generalizing slots with
  | nil =>
    cases done
    rfl
  | cons _ _ ih =>
    simp only [mapM_cons, completeSlot, eq_ok] at done
    obtain ⟨_, ⟨_, _, _, _, rfl⟩, _, others, rfl⟩ := done
    rw [ih others]

theorem loadOldActiveSlots_eq_ok {request : WorkerSlotRecoveryRequest} {old : List WorkerSlotRecord}
    (done : loadOldActiveSlots slots request.workerId request.workerInstanceId = .ok old) :
    old.Nodup ∧ ∀ slot, slot ∈ old ↔ slot ∈ slots.rows ∧ Elsewhere request slot := by
  rw [mapM_completeSlot done]
  constructor
  · apply (perm_insertionSort _ _).nodup_iff.mpr
    apply List.Nodup.filter
    apply slots.distinct.imp
    rintro _ _ free rfl
    exact free (Or.inl rfl)
  · intro _
    rw [(perm_insertionSort _ _).mem_iff, mem_filter]
    simp only [Elsewhere, Bool.and_eq_true, beq_iff_eq, bne_iff_ne, ne_eq, and_assoc]

section Restarted
variable {digest : Digest} {maxSlots : String → Nat} {next : SlotStore}
  {request : WorkerSlotRecoveryRequest} {receipt : WorkerSlotRecoveryReceipt}

theorem Within.recovering (within : Within maxSlots store)
    (done : reconcileNew digest maxSlots environment store request = .ok (next, receipt)) :
    next.limits = store.limits ∧ ∃ limits recovery,
      loadResourceLimits store request.workerId request.workerInstanceId = some limits ∧
        next.slots = recovery.slots ∧
        Recovering maxSlots store.slots request limits recovery [] := by
  simp only [reconcileNew, eq_ok, Prod.mk.injEq] at done
  rcases done with ⟨available, current, limits, configured, usage, measured, resources, taken,
    old, read, recovery, folded, _, _, rfl, _⟩
  refine ⟨rfl, limits, recovery, configured, rfl, ?_⟩
  obtain ⟨distinct, left⟩ := loadOldActiveSlots_eq_ok read
  have room : ∀ quantity : Quantity,
      load store.slots request.workerId request.workerInstanceId quantity +
          quantity.bound (available - usage.runningSlots) resources ≤
        quantity.bound (maxSlots request.workerId) limits := by
    intro quantity
    have held := within.load_le configured quantity
    have usedIs := activeUsage_eq_ok measured quantity
    have split := subtractResources_eq_ok taken
    rw [requireCurrentWorker_eq_ok current]
    cases quantity <;> simp only [Quantity.bound, Quantity.used] at * <;> omega
  have start : Recovering maxSlots store.slots request limits
      ⟨store.slots, available - usage.runningSlots, resources, []⟩ old :=
    ⟨room, fun _ _ _ _ => le_refl _, left, distinct, Follows.refl 0 store.slots⟩
  exact start.reconciled folded

theorem Within.reconcileNew (within : Within maxSlots store)
    (done : reconcileNew digest maxSlots environment store request = .ok (next, receipt)) :
    Kept maxSlots store next := by
  obtain ⟨sameLimits, limits, _, configured, slots, recovered⟩ := within.recovering done
  refine Kept.of_follows ?_ (slots ▸ recovered.follows) (Nat.zero_le 1)
  intro worker instance_ busy
  by_cases target : worker = request.workerId ∧ instance_ = request.workerInstanceId
  · obtain ⟨rfl, rfl⟩ := target
    refine ⟨limits, ?_, ?_⟩
    · rw [← configured, loadResourceLimits, loadResourceLimits, sameLimits]
    · intro quantity
      rw [slots]
      exact (Nat.le_add_right _ _).trans (recovered.here quantity)
  · apply within.lighten sameLimits _ busy
    rw [slots]
    exact recovered.others worker instance_ target

/-- A receipt of the restart request is stored. -/
def Answered (store : SlotStore) (request : WorkerSlotRecoveryRequest) : Prop :=
  ∃ row ∈ store.recoveries.rows, row.workerId = request.workerId ∧
    row.workerInstanceId = request.workerInstanceId ∧ row.requestId = request.requestId

theorem reconcileRestart_eq_ok
    (done : reconcileRestart digest maxSlots environment store request = .ok (next, receipt)) :
    (Answered store request ∧ next = store) ∨ (¬ Answered store request ∧
      reconcileNew digest maxSlots environment store request = .ok (next, receipt)) := by
  simp only [reconcileRestart, replayRecoveryReceipt, eq_ok] at done
  obtain ⟨_, _, _, read, done⟩ := done
  split at read
  · rename_i unknown
    cases read
    refine .inr ⟨?_, done⟩
    rintro ⟨row, member, worker, here, known⟩
    rw [Table.find, find?_eq_none] at unknown
    exact unknown row member (by simp [worker, here, known])
  · rename_i row found
    simp only [eq_ok] at read
    obtain ⟨_, _, _, _, rfl⟩ := read
    cases done
    have same := find?_some found
    simp only [Bool.and_eq_true, beq_iff_eq] at same
    exact .inl ⟨⟨row, mem_of_find?_eq_some found, same.1.1, same.1.2, same.2⟩, rfl⟩

/-- A restart that was not answered before leaves nothing active elsewhere. -/
theorem Within.restarted (within : Within maxSlots store)
    (done : reconcileRestart digest maxSlots environment store request = .ok (next, receipt))
    (unanswered : ¬ Answered store request) :
    ∀ slot ∈ next.slots.rows, ¬ Elsewhere request slot := by
  rcases reconcileRestart_eq_ok done with ⟨answered, _⟩ | ⟨_, fresh⟩
  · exact absurd answered unanswered
  · obtain ⟨_, _, _, _, slots, recovered⟩ := within.recovering fresh
    intro slot member elsewhere
    rw [slots] at member
    exact nomatch (recovered.left slot).mpr ⟨member, elsewhere⟩

end Restarted

/-! Runs. -/

inductive SlotCall where
  | configure (workerId workerInstanceId : String) (limits : WorkerSlotResourceLimits)
  | opening (request : WorkerSlotOpenRequest)
  | advance (request : WorkerSlotEventAdvance)
  | cancel (request : WorkerSlotCancellation)
  | close (request : WorkerSlotCloseRequest)
  | restart (request : WorkerSlotRecoveryRequest)
  | fence (lease : ExecutionLeaseRecord) (replacedAt : String)
  | fenceDevice (granted : String → String → Bool) (fencedAt : String)

structure SlotEvent where
  environment : SlotEnvironment
  call : SlotCall

section Runs
variable (digest : Digest) (maxSlots : String → Nat)

def step (store : SlotStore) (event : SlotEvent) : SlotStore :=
  match event.call with
  | .configure worker instance_ limits =>
    (commit store (configureResources maxSlots event.environment store worker instance_
      limits)).1
  | .opening request =>
    (commit store (openSlot digest maxSlots event.environment store request)).1
  | .advance request =>
    (commit store (advanceEventCursor digest event.environment store request)).1
  | .cancel request =>
    (commit store (requestCancellation digest event.environment store request)).1
  | .close request => (commit store (closeSlot digest event.environment store request)).1
  | .restart request =>
    (commit store (reconcileRestart digest maxSlots event.environment store request)).1
  | .fence lease replacedAt => (commit store (fenceForReplacement store lease replacedAt)).1
  | .fenceDevice granted fencedAt => (commit store (fenceDevice granted store fencedAt)).1

theorem Within.step (within : Within maxSlots store) (event : SlotEvent) :
    Kept maxSlots store (step digest maxSlots store event) := by
  have unchanged := Kept.refl within
  obtain ⟨_, call⟩ := event
  cases call with
  | configure _ _ _ =>
    exact commit_keeps unchanged fun next answer done => within.configureResources done
  | opening _ => exact within.replayOr fun _ _ => within.openNew
  | advance _ => exact within.replayOr fun _ _ => within.advanceNew
  | cancel _ => exact within.replayOr fun _ _ => within.cancelNew
  | close _ => exact within.replayOr fun _ _ => within.closeNew
  | restart _ =>
    apply commit_keeps unchanged
    intro next _ done
    rcases reconcileRestart_eq_ok done with ⟨_, rfl⟩ | ⟨_, fresh⟩
    · exact unchanged
    · exact within.reconcileNew fresh
  | fence _ _ =>
    exact commit_keeps unchanged fun next answer done => within.fenceForReplacement done
  | fenceDevice _ _ =>
    exact commit_keeps unchanged fun next answer done => within.fenceDevice done

theorem active_unique (slots : SlotTable) {key : WorkerSlotAuthority → String}
    (unique : ∀ left right : WorkerSlotRecord, left.state.active →
      right.state.active → key left.authority = key right.authority →
        WorkerSlotRecord.Clash left right) (value : String) : (slots.rows.filter fun slot =>
      slot.state.active && key slot.authority == value).length ≤ 1 := by
  apply slots.filter_length_le_one
  intro left right leftHit rightHit
  simp only [Bool.and_eq_true, beq_iff_eq] at leftHit rightHit
  exact unique left right leftHit.1 rightHit.1 (leftHit.2.trans rightHit.2.symm)

structure SlotCapacity (store : SlotStore) : Prop where
  slots : ∀ worker instance_,
    (activeSlots store.slots worker instance_).length ≤ maxSlots worker
  resources : ∀ worker instance_, activeSlots store.slots worker instance_ ≠ [] →
    ∃ limits, loadResourceLimits store worker instance_ = some limits ∧
      ((activeSlots store.slots worker instance_).map (·.resources.memoryBytes)).sum ≤
        limits.maxMemoryBytes ∧
      ((activeSlots store.slots worker instance_).map (·.resources.diskBytes)).sum ≤
        limits.maxDiskBytes ∧
      ((activeSlots store.slots worker instance_).map (·.resources.processSlots)).sum ≤
        limits.maxProcesses
  jobs : ∀ job, (store.slots.rows.filter fun slot =>
    slot.state.active && slot.authority.jobId == job).length ≤ 1
  threads : ∀ thread, (store.slots.rows.filter fun slot =>
    slot.state.active && slot.authority.codexThreadId == thread).length ≤ 1
  /-- A terminal slot stays as it is in every later state. -/
  terminal : ∀ events, ∀ slot ∈ store.slots.rows, slot.state.active = false →
    slot ∈ (Runs.after (step digest maxSlots) store events).slots.rows
  /-- A call leaves the cursor of a slot, or moves it by one. -/
  cursors : ∀ event, ∀ slot ∈ store.slots.rows,
    ∃ later ∈ (step digest maxSlots store event).slots.rows,
      later.authority.workerSessionId = slot.authority.workerSessionId ∧
        (later.eventCursor = slot.eventCursor ∨ later.eventCursor = slot.eventCursor + 1)
  /-- An accepted restart leaves no active slot of the worker on another instance, unless its
  receipt was stored before. -/
  restarts : ∀ environment request next receipt,
    reconcileRestart digest maxSlots environment store request = .ok (next, receipt) →
      ¬ Answered store request → ∀ slot ∈ next.slots.rows,
        slot.authority.workerId = request.workerId → slot.state.active = true →
          slot.authority.workerInstanceId = request.workerInstanceId
  /-- With a stored receipt a restart changes nothing. -/
  repeats : ∀ environment request next receipt,
    reconcileRestart digest maxSlots environment store request = .ok (next, receipt) →
      Answered store request → next = store

theorem Within.capacity (within : Within maxSlots store) : SlotCapacity digest maxSlots store where
  slots := by
    intro worker instance_
    rw [← load_slots]
    rcases Nat.eq_zero_or_pos (load store.slots worker instance_ .slots) with _ | busy
    · omega
    · obtain ⟨_, _, bounded⟩ := within worker instance_ busy
      exact bounded .slots
  resources := by
    intro worker instance_ active
    have busy : 0 < load store.slots worker instance_ .slots := by
      rw [load_slots]
      exact length_pos_of_ne_nil active
    obtain ⟨limits, configured, bounded⟩ := within worker instance_ busy
    simp only [load_eq_sum] at bounded
    exact ⟨limits, configured, bounded .memory, bounded .disk, bounded .processes⟩
  jobs := active_unique store.slots fun _ _ left right same => Or.inr ⟨left, right, .inl same⟩
  threads := active_unique store.slots fun _ _ left right same => Or.inr ⟨left, right, .inr same⟩
  terminal := by
    intro events slot member ended
    let Inv (later : SlotStore) : Prop := Within maxSlots later ∧ slot ∈ later.slots.rows
    have kept : Inv (Runs.after (WorkerSessionSlots.step digest maxSlots) store events) := by
      apply Runs.after_invariant
      · rintro later event ⟨bounded, present⟩
        have moved := bounded.step digest maxSlots event
        exact ⟨moved.within, moved.terminal slot present ended⟩
      · exact ⟨within, member⟩
    exact kept.2
  cursors := by
    intro event slot member
    obtain ⟨later, found, kept⟩ := (within.step digest maxSlots event).follows slot member
    exact ⟨later, found, kept.session, kept.cursor⟩
  restarts := by
    intro _ _ _ _ done unanswered slot member worker active
    by_contra other
    exact within.restarted done unanswered slot member ⟨worker, other, active⟩
  repeats := by
    intro _ _ _ _ done answered
    rcases reconcileRestart_eq_ok done with ⟨_, same⟩ | ⟨unanswered, _⟩
    · exact same
    · exact absurd answered unanswered

theorem slot_capacity (events : List SlotEvent) : SlotCapacity digest maxSlots
      (Runs.after (step digest maxSlots) SlotStore.empty events) := by
  apply Within.capacity
  apply Runs.after_invariant
  · intro _ event within
    exact (Within.step digest maxSlots within event).within
  · exact Within.empty

/-! A restart that is sent again after the worker moved on. -/

def sampleAuthority : WorkerSlotAuthority where
  workerId := "wrk_00000000000000000000000001"
  workerInstanceId := "wki_00000000000000000000000002"
  workerSessionId := "wsn_00000000000000000000000001"
  codexThreadId := "cdx_00000000000000000000000001"
  jobId := "job_00000000000000000000000001"
  leaseId := "lse_00000000000000000000000001"
  attempt := 1
  fencingToken := "1"

def sampleTime : String := "2027-01-01T00:00:00.000Z"

/-- This instance of the worker is the current one, and the job is leased to the second. -/
def sampleEnvironment (instance_ : String) : SlotEnvironment where
  worker _ := some (instance_, .healthy)
  lease _ := some ⟨sampleAuthority.jobId, sampleAuthority.leaseId, "digest",
    sampleAuthority.workerId, sampleAuthority.workerInstanceId, 1, "1", sampleTime,
    "2027-01-01T01:00:00.000Z"⟩
  leaseTerminal _ := false
  loadLease _ := .ok none
  runningAdmission _ := true

def sampleRestart : WorkerSlotRecoveryRequest where
  workerId := sampleAuthority.workerId
  workerInstanceId := "wki_00000000000000000000000001"
  requestId := "req_00000000000000000000000001"
  recoveredAt := sampleTime

def sampleMove : List SlotEvent :=
  let old := sampleEnvironment sampleRestart.workerInstanceId
  let new := sampleEnvironment sampleAuthority.workerInstanceId
  [⟨old, .configure sampleAuthority.workerId sampleRestart.workerInstanceId ⟨1, 1, 1⟩⟩,
    ⟨old, .restart sampleRestart⟩,
    ⟨new, .configure sampleAuthority.workerId sampleAuthority.workerInstanceId ⟨1, 1, 1⟩⟩,
    ⟨new, .opening ⟨sampleAuthority, ⟨1, 1, 1⟩, "req_00000000000000000000000002", sampleTime⟩⟩]

/-- The first instance's restart is accepted again, from its receipt, and the slot of the
second instance stays active. -/
theorem repeated_restart_leaves_slot : ((reconcileRestart (fun _ => "digest") (fun _ => 1)
        (sampleEnvironment sampleAuthority.workerInstanceId)
        (Runs.after (step (fun _ => "digest") (fun _ => 1)) SlotStore.empty sampleMove)
        sampleRestart).toOption.map
          fun answer => answer.1.slots.rows.map fun slot => (slot.state, slot.authority)) =
        some [(.running, sampleAuthority)] ∧
      sampleAuthority.workerId = sampleRestart.workerId ∧
      sampleAuthority.workerInstanceId ≠ sampleRestart.workerInstanceId := by
  decide +kernel

end Runs

end WorkerSessionSlots

end WinWinCode.Storage
