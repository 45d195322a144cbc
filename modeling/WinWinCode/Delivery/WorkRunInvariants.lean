import WinWinCode.Delivery.WorkRuns

/-!
Runs and items of an aggregate in step. Items change their state only together with a run:
a writer occupies its item, offers a candidate or gives the item up, and a verification
run lives beside the candidate it verifies. `Sound` says which states go together; it is
kept by the two moves that every operation is made of, appending a run and letting a
run leave its state.
-/

namespace WinWinCode.Delivery

open Fallible FirstMatch List

variable {item : WorkItem} {contract : WorkContract} {id : String} {runs : List WorkRun}

namespace WorkRunAggregate

/-! What the check of an aggregate establishes. -/

def Exclusive (holds : WorkRun → Bool) (runs : List WorkRun) : Prop :=
  runs.Pairwise fun left right =>
    holds left = true → holds right = true → left.workItemId ≠ right.workItemId

theorem exclusive_iff {holds : WorkRun → Bool} :
    ((runs.filter holds).map (·.workItemId)).Nodup ↔ Exclusive holds runs := by
  simp only [List.Nodup, pairwise_map, pairwise_filter, Exclusive, ne_eq]

def isCandidate (run : WorkRun) : Bool := run.state = .candidateReady

structure Valid (aggregate : WorkRunAggregate) : Prop where
  contract : validContract aggregate.contract = true
  itemCount : aggregate.items.length ≤ 1000
  runCount : aggregate.runs.length ≤ 1000
  criterionIds : (aggregate.contract.criteria.map (·.id)).Nodup
  itemIds : (aggregate.items.map (·.id)).Nodup
  items : ∀ item ∈ aggregate.items,
    validItem aggregate.contract (aggregate.items.map (·.id)) item = true
  acyclic : acyclicItems aggregate.items = true
  runs : ∀ run ∈ aggregate.runs, validRun aggregate.contract aggregate.items run = true
  runIds : (aggregate.runs.map (·.id)).Nodup
  attempts : (aggregate.runs.map fun run => (run.executionJobId, run.attempt)).Nodup
  candidates : Exclusive isCandidate aggregate.runs
  active : Exclusive (·.isActive) aggregate.runs

variable {aggregate : WorkRunAggregate} {items : List WorkItem}

theorem validate_eq_ok {done : Unit} : aggregate.validate = .ok done ↔ Valid aggregate := by
  simp only [validate, eq_ok, exists_const, not_not, not_or, Bool.not_eq_false, not_lt, all_eq_true,
    exclusive_iff]
  constructor
  · rintro ⟨⟨contract, itemCount, runCount⟩, criterionIds, itemIds, items, acyclic, runs, runIds,
      attempts, candidates, active⟩
    exact ⟨contract, itemCount, runCount, criterionIds, itemIds, items, acyclic, runs, runIds,
      attempts, candidates, active⟩
  · intro valid
    exact ⟨⟨valid.contract, valid.itemCount, valid.runCount⟩, valid.criterionIds, valid.itemIds,
      valid.items, valid.acyclic, valid.runs, valid.runIds, valid.attempts, valid.candidates,
      valid.active⟩

theorem Valid.checked (valid : Valid aggregate) :
    aggregate.validate = .ok () := validate_eq_ok.mpr valid

/-! The state of an item, by its id. -/

def itemState (items : List WorkItem) (id : String) : Option WorkItemState :=
  (items.find? (·.id == id)).map (·.state)

theorem itemState_setItemState (items : List WorkItem) (id other : String)
    (target : WorkItemState) : itemState (setItemState items id target) other =
      if other = id then (itemState items other).map fun _ => target
      else itemState items other := by
  rw [itemState, setItemState, find?_update WorkItem.id id other (WorkItem.enter target)
    fun _ => rfl]
  split
  · rw [itemState, Option.map_map, Option.map_map]
    rfl
  · rfl

theorem itemState_of_mem (distinct : (items.map (·.id)).Nodup) (member : item ∈ items) :
    itemState items item.id = some item.state := by
  rw [itemState, find?_of_mem WorkItem.id distinct member]
  rfl

theorem setItemState_self {state : WorkItemState} (known : itemState items id = some state) :
    setItemState items id state = items := by
  obtain ⟨item, found, rfl⟩ := Option.map_eq_some_iff.mp known
  rcases update_split (WorkItem.enter item.state) found with
    ⟨before, after, split, changed⟩
  rw [setItemState, changed, split]
  rfl

theorem setItemState_twice (items : List WorkItem) (id : String) (first second : WorkItemState) :
    setItemState (setItemState items id first) id second = setItemState items id second :=
  update_update (WorkItem.enter first) (WorkItem.enter second) (fun _ => rfl) items

theorem setItemState_ids (items : List WorkItem) (id : String) (target : WorkItemState) :
    (setItemState items id target).map (·.id) = items.map (·.id) :=
  map_update (WorkItem.enter target) (fun _ => rfl) items

theorem mem_setItemState {target : WorkItemState} (member : item ∈ setItemState items id target) :
    ∃ old ∈ items, item = old.enter item.state := by
  cases found : items.find? (·.id == id) with
  | none =>
    rw [setItemState, update_eq_self _ found] at member
    exact ⟨item, member, rfl⟩
  | some old =>
    rcases mem_update found member with changed | kept
    · exact ⟨old, mem_of_find?_eq_some found, by rw [changed]; rfl⟩
    · exact ⟨item, kept, rfl⟩

theorem isDone_iff (distinct : (items.map (·.id)).Nodup) :
    isDone items id ↔ itemState items id = some .done := by
  simp only [isDone, any_eq_true, Bool.and_eq_true, beq_iff_eq, decide_eq_true_eq]
  constructor
  · rintro ⟨item, member, rfl, done⟩
    rw [itemState_of_mem distinct member, done]
  · intro known
    obtain ⟨item, found, done⟩ := Option.map_eq_some_iff.mp known
    exact ⟨item, mem_of_find?_eq_some found, find?_key WorkItem.id found, done⟩

/-! What a change of one item or one run leaves valid. -/

theorem validRun_setItemState (contract : WorkContract) (items : List WorkItem) (id : String)
    (target : WorkItemState) (run : WorkRun) :
    validRun contract (setItemState items id target) run = validRun contract items run := by
  unfold validRun
  rw [setItemState, find?_update WorkItem.id id run.workItemId (WorkItem.enter target)
    fun _ => rfl]
  by_cases same : run.workItemId = id
  · rw [if_pos same]
    cases items.find? (·.id == run.workItemId) <;> rfl
  · rw [if_neg same]

theorem acyclicItems_setItemState (items : List WorkItem) (id : String) (target : WorkItemState) :
    acyclicItems (setItemState items id target) = acyclicItems items := by
  have pairs : (setItemState items id target).map (fun item => (item.id, item.dependsOn)) =
      items.map fun item => (item.id, item.dependsOn) :=
    map_update (WorkItem.enter target) (fun _ => rfl) items
  have size : (setItemState items id target).length = items.length := by
    rw [← length_map (·.id), setItemState_ids, length_map]
  rw [acyclicItems, acyclicItems, pairs, size]

theorem Valid.moveItem (valid : Valid aggregate) (id : String) (target : WorkItemState) :
    Valid { aggregate with items := setItemState aggregate.items id target } where
  __ := valid
  itemCount := by
    rw [← length_map (·.id), setItemState_ids, length_map]
    exact valid.itemCount
  itemIds := by
    rw [setItemState_ids]
    exact valid.itemIds
  items := by
    intro _ member
    rw [setItemState_ids]
    obtain ⟨old, known, same⟩ := mem_setItemState member
    rw [same]
    exact valid.items old known
  acyclic := by
    rw [acyclicItems_setItemState]
    exact valid.acyclic
  runs := by
    intro run member
    rw [validRun_setItemState]
    exact valid.runs run member

theorem setRun_ids (runs : List WorkRun) (id : String) (state : WorkRunState) (revision : Int) :
    (setRun runs id state revision).map (·.id) = runs.map (·.id) :=
  map_update (WorkRun.enter state revision) (fun _ => rfl) runs

theorem validRun_revised {run : WorkRun} (valid : validRun contract items run)
    (state : WorkRunState) {revision : Int} (fits : validRevision revision) :
    validRun contract items (run.enter state revision) = true := by
  unfold validRun WorkRun.enter at *
  cases found : items.find? (·.id == run.workItemId) with
  | none => simp [found] at valid
  | some _ =>
    simp only [found, invalidRunFields, fits, Bool.and_eq_true, Bool.not_eq_true',
      Bool.or_eq_false_iff, Bool.not_true] at valid ⊢
    tauto

theorem revision_of_validRun {run : WorkRun} (valid : validRun contract items run) :
    validRevision run.revision = true := by
  unfold validRun at valid
  cases found : items.find? (·.id == run.workItemId) with
  | none => simp [found] at valid
  | some _ =>
    simp only [found, invalidRunFields, Bool.and_eq_true, Bool.not_eq_true',
      Bool.or_eq_false_iff, Bool.not_eq_false'] at valid
    tauto

theorem Valid.settleRun (valid : Valid aggregate) {run : WorkRun}
    (found : aggregate.runs.find? (·.id == run.id) = some run) {state : WorkRunState}
    {revision : Int} (fits : validRevision revision)
    (stops : (run.enter state revision).isActive = false)
    (sole : state = .candidateReady → ∀ other ∈ aggregate.runs, isCandidate other →
      other.workItemId ≠ run.workItemId) :
    Valid { aggregate with runs := setRun aggregate.runs run.id state revision } where
  __ := valid
  runCount := by
    rw [← length_map (·.id), setRun_ids, length_map]
    exact valid.runCount
  runs := by
    intro member among
    rcases mem_update found among with changed | kept
    · rw [changed]
      exact validRun_revised (valid.runs run (mem_of_find?_eq_some found)) state fits
    · exact valid.runs member kept
  runIds := by
    rw [setRun_ids]
    exact valid.runIds
  attempts := by
    rw [setRun, map_update (WorkRun.enter state revision) (fun _ => rfl)]
    exact valid.attempts
  candidates := by
    apply pairwise_update found _ _ valid.candidates
    · intro other member _ offers candidate
      exact (sole (of_decide_eq_true offers) other member candidate).symm
    · intro other member _ candidate offers
      exact sole (of_decide_eq_true offers) other member candidate
  active := by
    apply pairwise_update found _ _ valid.active
    · intro _ _ _ running
      exact absurd (stops.symm.trans running) Bool.false_ne_true
    · intro _ _ _ _ running
      exact absurd (stops.symm.trans running) Bool.false_ne_true

/-! The attempts of a job, in the order in which its runs were appended. -/

def jobAttempts (runs : List WorkRun) (job : String) : List Int :=
  (runs.filter (·.executionJobId == job)).map (·.attempt)

def attemptsUpTo (count : Nat) : List Int := (List.range' 1 count).map Int.ofNat

theorem attemptsUpTo_succ (count : Nat) :
    attemptsUpTo (count + 1) = attemptsUpTo count ++ [(count : Int) + 1] := by
  rw [attemptsUpTo, range'_1_concat, map_append, attemptsUpTo]
  simp [Int.add_comm]

theorem mem_attemptsUpTo {count : Nat} {attempt : Int} :
    attempt ∈ attemptsUpTo count ↔ 1 ≤ attempt ∧ attempt ≤ count := by
  simp only [attemptsUpTo, mem_map, mem_range'_1]
  constructor
  · rintro ⟨_, ⟨_, _⟩, rfl⟩
    simp only [Int.ofNat_eq_natCast]
    omega
  · rintro ⟨_, _⟩
    refine ⟨attempt.toNat, by omega, ?_⟩
    simp only [Int.ofNat_eq_natCast]
    omega

theorem max_attemptsUpTo (count : Nat) : (attemptsUpTo count).max?.getD 0 = count := by
  cases count with
  | zero => rfl
  | succ count =>
    have largest : (attemptsUpTo (count + 1)).max? = some ((count + 1 : Nat) : Int) := by
      rw [max?_eq_some_iff]
      refine ⟨mem_attemptsUpTo.mpr (by omega), fun attempt member => ?_⟩
      exact (mem_attemptsUpTo.mp member).2
    rw [largest]
    rfl

theorem lastAttempt_of_counted {job : String} {count : Nat}
    (known : jobAttempts aggregate.runs job = attemptsUpTo count) :
    aggregate.lastAttempt job = count := by
  rw [lastAttempt, show (aggregate.runs.filter (·.executionJobId == job)).map (·.attempt) =
    attemptsUpTo count from known, max_attemptsUpTo]

theorem jobAttempts_concat (run : WorkRun) (job : String) : jobAttempts (runs ++ [run]) job =
      jobAttempts runs job ++ if run.executionJobId = job then [run.attempt] else [] := by
  rw [jobAttempts, filter_append, map_append, jobAttempts]
  by_cases same : run.executionJobId = job <;> simp [same]

theorem jobAttempts_setRun (runs : List WorkRun) (id : String) (state : WorkRunState)
    (revision : Int) (job : String) :
    jobAttempts (setRun runs id state revision) job = jobAttempts runs job :=
  map_filter_update (WorkRun.enter state revision) (fun _ => rfl) (fun _ => rfl) runs

/-! Which states of items and runs go together. `verifications` are the ids of the runs
that were appended as verification runs or took over from one. -/

structure Sound (verifications : List String) (aggregate : WorkRunAggregate) : Prop where
  valid : Valid aggregate
  known : ∀ id ∈ verifications, ∃ run ∈ aggregate.runs, run.id = id
  writing : ∀ run ∈ aggregate.runs, run.isActive = true → run.id ∉ verifications →
    itemState aggregate.items run.workItemId = some .inProgress
  verifying : ∀ run ∈ aggregate.runs, run.isActive = true → run.id ∈ verifications →
    itemState aggregate.items run.workItemId = some .candidateReady
  offering : ∀ run ∈ aggregate.runs, isCandidate run = true →
    itemState aggregate.items run.workItemId = some .candidateReady
  occupied : ∀ id, itemState aggregate.items id = some .inProgress →
    ∃ run ∈ aggregate.runs, run.workItemId = id ∧ run.isActive = true ∧ run.id ∉ verifications
  offered : ∀ id, itemState aggregate.items id = some .candidateReady →
    ∃ run ∈ aggregate.runs, run.workItemId = id ∧ isCandidate run = true
  gated : ∀ item ∈ aggregate.items, item.state = .inProgress ∨ item.state = .candidateReady →
    ∀ id ∈ item.dependsOn, itemState aggregate.items id = some .done
  counted : ∀ job, ∃ count, jobAttempts aggregate.runs job = attemptsUpTo count
  last : aggregate.runs.Pairwise fun earlier later =>
    earlier.workItemId = later.workItemId → earlier.isActive = false

/-- An aggregate without runs, none of whose items is occupied or offers a candidate. -/
theorem sound_of_idle (valid : Valid aggregate) (fresh : aggregate.runs = [])
    (idle : ∀ item ∈ aggregate.items, item.state ≠ .inProgress ∧ item.state ≠ .candidateReady) :
    Sound [] aggregate := by
  have free : ∀ id state, itemState aggregate.items id = some state →
      state ≠ .inProgress ∧ state ≠ .candidateReady := by
    intro id _ known
    obtain ⟨item, found, rfl⟩ := Option.map_eq_some_iff.mp known
    exact idle item (mem_of_find?_eq_some found)
  constructor
  case valid => exact valid
  case known => exact forall_mem_nil _
  case writing | verifying | offering => simp [fresh]
  case occupied => exact fun id known => absurd rfl (free id _ known).1
  case offered => exact fun id known => absurd rfl (free id _ known).2
  case gated =>
    intro item member busy
    rcases busy with occupied | offers
    · exact absurd occupied (idle item member).1
    · exact absurd offers (idle item member).2
  case counted => exact fun job => ⟨0, by simp [fresh, jobAttempts, attemptsUpTo]⟩
  case last => simp [fresh]

/-! A run leaves its state, and its item moves along. -/

def leave (aggregate : WorkRunAggregate) (run : WorkRun) (state : WorkRunState) (revision : Int)
    (target : WorkItemState) : WorkRunAggregate :=
  { aggregate with
    items := setItemState aggregate.items run.workItemId target
    runs := setRun aggregate.runs run.id state revision }

/-- What makes it safe for a run to leave its state for another. -/
structure Leaving (aggregate : WorkRunAggregate) (run : WorkRun) (state : WorkRunState)
    (target : WorkItemState) : Prop where
  found : aggregate.runs.find? (·.id == run.id) = some run
  stops : state ≠ .leased ∧ state ≠ .running
  source : itemState aggregate.items run.workItemId = some .inProgress ∨
    itemState aggregate.items run.workItemId = some .candidateReady
  alone : ∀ other ∈ aggregate.runs, other.workItemId = run.workItemId → other.isActive = true →
    other = run
  free : target ≠ .inProgress
  offers : state = .candidateReady → target = .candidateReady ∧
    ∀ other ∈ aggregate.runs, isCandidate other = true → other.workItemId ≠ run.workItemId
  keeps : ∀ other ∈ aggregate.runs, other ≠ run → other.workItemId = run.workItemId →
    isCandidate other = true → target = .candidateReady
  backs : target = .candidateReady → state = .candidateReady ∨
    ∃ other ∈ aggregate.runs, other ≠ run ∧ other.workItemId = run.workItemId ∧
      isCandidate other = true

section Leave
variable {verifications : List String} {run : WorkRun} {state : WorkRunState} {revision : Int}
  {target : WorkItemState}

section
variable (leaving : Leaving aggregate run state target)
include leaving

theorem Leaving.member : run ∈ aggregate.runs := mem_of_find?_eq_some leaving.found

theorem Leaving.inactive : (run.enter state revision).isActive = false := by
  simp [WorkRun.isActive, WorkRun.enter, leaving.stops]

variable {member : WorkRun}

theorem Leaving.cases (distinct : (aggregate.runs.map (·.id)).Nodup)
    (among : member ∈ (aggregate.leave run state revision target).runs) :
    member = run.enter state revision ∨ member ∈ aggregate.runs ∧ member ≠ run := by
  rcases update_split (WorkRun.enter state revision) leaving.found with
    ⟨before, after, split, changed⟩
  have apart := distinct
  rw [split, map_append, map_cons, nodup_append] at apart
  rw [leave, setRun, changed, mem_append, mem_cons] at among
  have other : member ∈ before ++ after → member ≠ run := by
    rintro inside rfl
    rcases mem_append.mp inside with early | late
    · exact apart.2.2 _ (mem_map_of_mem early) _ mem_cons_self rfl
    · exact (nodup_cons.mp apart.2.1).1 (mem_map_of_mem late)
  rcases among with early | same | late
  · exact .inr ⟨by simp [split, early], other (mem_append_left _ early)⟩
  · exact .inl same
  · exact .inr ⟨by simp [split, late], other (mem_append_right _ late)⟩

theorem Leaving.stays (among : member ∈ aggregate.runs) (other : member ≠ run) :
    member ∈ (aggregate.leave run state revision target).runs :=
  mem_update_of_ne leaving.found among other

theorem Leaving.itemState_eq (id : String) :
    itemState (aggregate.leave run state revision target).items id =
      if id = run.workItemId then some target else itemState aggregate.items id := by
  rw [leave, itemState_setItemState]
  split
  · rename_i same
    rcases leaving.source with known | known <;> rw [same, known] <;> rfl
  · rfl

theorem Leaving.elsewhere (among : member ∈ aggregate.runs) (other : member ≠ run)
    (active : member.isActive) : member.workItemId ≠ run.workItemId :=
  fun same => other (leaving.alone member among same active)

theorem Leaving.busy_before (valid : Valid aggregate)
    (next : Valid (aggregate.leave run state revision target)) {old : WorkItem}
    (member : item ∈ (aggregate.leave run state revision target).items)
    (known : old ∈ aggregate.items) (same : item = old.enter item.state)
    (busy : item.state = .inProgress ∨ item.state = .candidateReady) :
    old.state = .inProgress ∨ old.state = .candidateReady := by
  have ids : item.id = old.id := by rw [same]; rfl
  have now := itemState_of_mem next.itemIds member
  have before := itemState_of_mem valid.itemIds known
  rw [leaving.itemState_eq, ids] at now
  split at now
  · rename_i here
    rw [here] at before
    rcases leaving.source with source | source
    · exact .inl (Option.some.inj (before.symm.trans source))
    · exact .inr (Option.some.inj (before.symm.trans source))
  · rw [Option.some.inj (before.symm.trans now)]
    exact busy

theorem Leaving.valid (valid : Valid aggregate) (fits : validRevision revision) :
    Valid (aggregate.leave run state revision target) :=
  (valid.settleRun leaving.found fits leaving.inactive
    fun offers => (leaving.offers offers).2).moveItem run.workItemId target

end

theorem Sound.leave (sound : Sound verifications aggregate)
    (leaving : Leaving aggregate run state target)
    (next : Valid (aggregate.leave run state revision target)) :
    Sound verifications (aggregate.leave run state revision target) := by
  have halted : (run.enter state revision).isActive ≠ true := by
    rw [leaving.inactive]
    exact Bool.false_ne_true
  -- the item that moves was in progress or offered a candidate, so it is none that was done
  have undone : ∀ id, itemState aggregate.items id = some .done → id ≠ run.workItemId := by
    rintro id done rfl
    rcases leaving.source with source | source <;> cases done.symm.trans source
  constructor
  case valid => exact next
  case known =>
    intro id member
    obtain ⟨old, among, rfl⟩ := sound.known id member
    have kept : old.id ∈ (aggregate.leave run state revision target).runs.map (·.id) := by
      rw [WorkRunAggregate.leave, setRun_ids]
      exact mem_map_of_mem among
    exact mem_map.mp kept
  case writing =>
    intro member among active writer
    rcases leaving.cases sound.valid.runIds among with rfl | ⟨old, other⟩
    · exact absurd active halted
    · rw [leaving.itemState_eq, if_neg (leaving.elsewhere old other active)]
      exact sound.writing member old active writer
  case verifying =>
    intro member among active reader
    rcases leaving.cases sound.valid.runIds among with rfl | ⟨old, other⟩
    · exact absurd active halted
    · rw [leaving.itemState_eq, if_neg (leaving.elsewhere old other active)]
      exact sound.verifying member old active reader
  case offering =>
    intro member among candidate
    rw [leaving.itemState_eq]
    rcases leaving.cases sound.valid.runIds among with rfl | ⟨old, other⟩
    · rw [if_pos (show (run.enter state revision).workItemId = run.workItemId from rfl),
        (leaving.offers (of_decide_eq_true candidate)).1]
    · split
      · rename_i same
        rw [leaving.keeps member old other same candidate]
      · exact sound.offering member old candidate
  case occupied =>
    intro id known
    rw [leaving.itemState_eq] at known
    split at known
    · exact absurd (Option.some.inj known) leaving.free
    · rename_i apart
      obtain ⟨member, among, here, active, writer⟩ := sound.occupied id known
      have other : member ≠ run := fun same => apart (here.symm.trans (same ▸ rfl))
      exact ⟨member, leaving.stays among other, here, active, writer⟩
  case offered =>
    intro id known
    rw [leaving.itemState_eq] at known
    split at known
    · -- the item's candidate is the run that left, or another run that offered one before
      rename_i here
      rcases leaving.backs (Option.some.inj known) with
        offers | ⟨other, among, apart, same, candidate⟩
      · exact ⟨_, changed_mem_update leaving.found, here.symm, decide_eq_true offers⟩
      · exact ⟨other, leaving.stays among apart, same.trans here.symm, candidate⟩
    · rename_i apart
      obtain ⟨member, among, here, candidate⟩ := sound.offered id known
      have other : member ≠ run := fun same => apart (here.symm.trans (same ▸ rfl))
      exact ⟨member, leaving.stays among other, here, candidate⟩
  case gated =>
    intro item member busy id dependency
    obtain ⟨old, known, same⟩ := mem_setItemState member
    -- an item that is busy now was busy before the run left
    have before := leaving.busy_before sound.valid next member known same busy
    have done := sound.gated old known before id (by rw [same] at dependency; exact dependency)
    rw [leaving.itemState_eq, if_neg (undone id done)]
    exact done
  case counted =>
    intro job
    rw [WorkRunAggregate.leave, jobAttempts_setRun]
    exact sound.counted job
  case last =>
    apply pairwise_update leaving.found _ _ sound.last
    · exact fun _ _ _ _ => leaving.inactive
    · exact fun _ _ earlier same => earlier same

end Leave

/-! A run is appended. -/

section Append
variable {verifications : List String} {run : WorkRun}

/-- What holds of a run that is appended to a sound aggregate in either mode. -/
structure Joining (aggregate : WorkRunAggregate) (run : WorkRun) : Prop where
  active : run.isActive = true
  fresh : ∀ other ∈ aggregate.runs, other.id ≠ run.id
  vacant : ∀ other ∈ aggregate.runs, other.workItemId = run.workItemId → other.isActive = false
  follows : run.attempt = aggregate.lastAttempt run.executionJobId + 1

section
variable (joining : Joining aggregate run)
include joining

theorem Joining.notCandidate : isCandidate run = false := by
  have active := joining.active
  simp only [WorkRun.isActive, Bool.or_eq_true, decide_eq_true_eq] at active
  rcases active with leased | running
  · simp [isCandidate, leased]
  · simp [isCandidate, running]

theorem Joining.counted
    (counted : ∀ job, ∃ count, jobAttempts aggregate.runs job = attemptsUpTo count) (job : String) :
    ∃ count, jobAttempts (aggregate.runs ++ [run]) job = attemptsUpTo count := by
  obtain ⟨count, known⟩ := counted job
  rw [jobAttempts_concat, known]
  by_cases same : run.executionJobId = job
  · refine ⟨count + 1, ?_⟩
    rw [if_pos same, attemptsUpTo_succ, joining.follows, same, lastAttempt_of_counted known]
  · exact ⟨count, by rw [if_neg same, append_nil]⟩

theorem Joining.last (sound : Sound verifications aggregate) :
    (aggregate.runs ++ [run]).Pairwise fun earlier later =>
      earlier.workItemId = later.workItemId → earlier.isActive = false := by
  rw [pairwise_append]
  refine ⟨sound.last, pairwise_singleton _ _, ?_⟩
  intro earlier among _ member same
  rw [mem_singleton.mp member] at same
  exact joining.vacant earlier among same

theorem Joining.unknown (sound : Sound verifications aggregate) : run.id ∉ verifications := by
  intro member
  obtain ⟨other, among, same⟩ := sound.known run.id member
  exact joining.fresh other among same

end

theorem mem_added {member : WorkRun} (among : member ∈ runs ++ [run]) :
    member ∈ runs ∨ member = run :=
  (mem_append.mp among).imp_right mem_singleton.mp

theorem Sound.appendVerification (sound : Sound verifications aggregate)
    (joining : Joining aggregate run)
    (candidate : itemState aggregate.items run.workItemId = some .candidateReady)
    (next : Valid { aggregate with runs := aggregate.runs ++ [run] }) :
    Sound (verifications ++ [run.id]) { aggregate with runs := aggregate.runs ++ [run] } := by
  constructor
  case valid => exact next
  case known =>
    intro id member
    rcases mem_append.mp member with old | new
    · obtain ⟨other, among, same⟩ := sound.known id old
      exact ⟨other, mem_append_left _ among, same⟩
    · exact ⟨run, mem_append_right _ mem_cons_self, (mem_singleton.mp new).symm⟩
  case writing =>
    intro member among active writer
    rcases mem_added among with old | rfl
    · exact sound.writing member old active fun known => writer (mem_append_left _ known)
    · exact absurd (mem_append_right _ mem_cons_self) writer
  case verifying =>
    intro member among active reader
    rcases mem_added among with old | rfl
    · rcases mem_append.mp reader with known | new
      · exact sound.verifying member old active known
      · exact absurd (mem_singleton.mp new) (joining.fresh member old)
    · exact candidate
  case offering =>
    intro member among offers
    rcases mem_added among with old | rfl
    · exact sound.offering member old offers
    · exact absurd (joining.notCandidate.symm.trans offers) Bool.false_ne_true
  case occupied =>
    intro id known
    obtain ⟨member, among, here, active, writer⟩ := sound.occupied id known
    refine ⟨member, mem_append_left _ among, here, active, fun reader => ?_⟩
    rcases mem_append.mp reader with known | new
    · exact writer known
    · exact joining.fresh member among (mem_singleton.mp new)
  case offered =>
    intro id known
    obtain ⟨member, among, here, offers⟩ := sound.offered id known
    exact ⟨member, mem_append_left _ among, here, offers⟩
  case gated => exact sound.gated
  case counted => exact joining.counted sound.counted
  case last => exact joining.last sound

theorem Sound.appendWriter (sound : Sound verifications aggregate) (joining : Joining aggregate run)
    {before : WorkItemState} (source : itemState aggregate.items run.workItemId = some before)
    (idle : before = .ready ∨ before = .waitingDependency)
    (ready : ∀ item ∈ aggregate.items, item.id = run.workItemId →
      ∀ id ∈ item.dependsOn, itemState aggregate.items id = some .done)
    (next : Valid { aggregate with
      items := setItemState aggregate.items run.workItemId .inProgress
      runs := aggregate.runs ++ [run] }) :
    Sound verifications { aggregate with
      items := setItemState aggregate.items run.workItemId .inProgress
      runs := aggregate.runs ++ [run] } := by
  have moved : ∀ id, itemState (setItemState aggregate.items run.workItemId .inProgress) id =
      if id = run.workItemId then some .inProgress else itemState aggregate.items id := by
    intro id
    rw [itemState_setItemState]
    split
    · rename_i same
      rw [same, source]
      rfl
    · rfl
  -- An item that is verified, offered or done is not the idle one the run starts on.
  have elsewhere : ∀ id state, itemState aggregate.items id = some state →
      state ≠ .ready → state ≠ .waitingDependency → id ≠ run.workItemId := by
    rintro id _ known notReady notWaiting rfl
    have same := Option.some.inj (known.symm.trans source)
    rcases idle with rfl | rfl
    · exact notReady same
    · exact notWaiting same
  constructor
  case valid => exact next
  case known =>
    intro id member
    obtain ⟨other, among, same⟩ := sound.known id member
    exact ⟨other, mem_append_left _ among, same⟩
  case writing =>
    intro member among active writer
    rw [moved]
    rcases mem_added among with old | rfl
    · split
      · rfl
      · exact sound.writing member old active writer
    · rw [if_pos rfl]
  case verifying =>
    intro member among active reader
    rcases mem_added among with old | rfl
    · have known := sound.verifying member old active reader
      rw [moved, if_neg (elsewhere _ _ known (by decide) (by decide))]
      exact known
    · exact absurd reader (joining.unknown sound)
  case offering =>
    intro member among offers
    rcases mem_added among with old | rfl
    · have known := sound.offering member old offers
      rw [moved, if_neg (elsewhere _ _ known (by decide) (by decide))]
      exact known
    · exact absurd (joining.notCandidate.symm.trans offers) Bool.false_ne_true
  case occupied =>
    intro id known
    rw [moved] at known
    split at known
    · rename_i here
      exact ⟨run, mem_append_right _ mem_cons_self, here.symm, joining.active,
        joining.unknown sound⟩
    · obtain ⟨member, among, here, active, writer⟩ := sound.occupied id known
      exact ⟨member, mem_append_left _ among, here, active, writer⟩
  case offered =>
    intro id known
    rw [moved] at known
    split at known
    · cases known
    · obtain ⟨member, among, here, offers⟩ := sound.offered id known
      exact ⟨member, mem_append_left _ among, here, offers⟩
  case gated =>
    intro item member busy id dependency
    obtain ⟨old, known, same⟩ := mem_setItemState member
    have ids : item.id = old.id := by rw [same]; rfl
    have needs : id ∈ old.dependsOn := by rw [same] at dependency; exact dependency
    have done : itemState aggregate.items id = some .done := by
      by_cases here : old.id = run.workItemId
      · exact ready old known here id needs
      · have now := itemState_of_mem next.itemIds member
        rw [moved, ids, if_neg here, itemState_of_mem sound.valid.itemIds known] at now
        exact sound.gated old known (Option.some.inj now ▸ busy) id needs
    rw [moved, if_neg (elsewhere _ _ done (by decide) (by decide))]
    exact done
  case counted => exact joining.counted sound.counted
  case last => exact joining.last sound

end Append

end WorkRunAggregate

end WinWinCode.Delivery
