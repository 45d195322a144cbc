import WinWinCode.Delivery.DependencyCheck
import WinWinCode.Delivery.WorkRunHistories

/-!
Starting the next run. In every state that the operations reach, `start_next` finds an item
unless all that is left waits for one that is being worked on or that someone has to bring
back: dependencies alone never stall the work.
-/

namespace WinWinCode.Delivery

open Fallible List Relation

def WorkRun.occupies (run : WorkRun) : Bool :=
  run.isActive || run.state = .candidateReady

structure WorkRunAdvanceInput where
  expectedContractRevision : Int
  activeWorkItemIds : List String

def startNextWorkRun (items : List WorkItem) (input : WorkRunAdvanceInput) :
    Except WorkRunSchedulingError WorkRunStart := do
  let item ← okOr (items.find? fun item =>
    item.workContractRevision == input.expectedContractRevision &&
      workItemIsRunnable item items && !input.activeWorkItemIds.contains item.id)
    .noRunnableWorkItem
  let attempts := (items.filter (·.id == item.id)).map fun _ => (0 : Int)
  .ok { workItem := item.enter .inProgress, attempt := attempts.max?.getD 0 + 1 }

namespace WorkRunAggregate

variable (aggregate : WorkRunAggregate)

def startItem (id : String) : Except WorkRunSchedulingError WorkRunStart := do
  aggregate.validate
  let item ← okOr (aggregate.items.find? fun item =>
    item.id == id && workItemIsRunnable item aggregate.items &&
      !aggregate.runs.any fun run => run.workItemId == id && run.occupies) .noRunnableWorkItem
  .ok { workItem := item.enter .inProgress, attempt := 1 }

def startNext : Except WorkRunSchedulingError WorkRunStart := do
  aggregate.validate
  let start ← startNextWorkRun aggregate.items
    { expectedContractRevision := aggregate.contract.revision
      activeWorkItemIds := (aggregate.runs.filter (·.occupies)).map (·.workItemId) }
  aggregate.startItem start.workItem.id

variable {aggregate} {item : WorkItem} {items : List WorkItem} {verifications : List String}

/-- An item that could run but for what it depends on. -/
def Startable (item : WorkItem) : Prop := item.state = .ready ∨ item.state = .waitingDependency

/-- A run keeps its item out of the states that `start_next` looks for. -/
theorem Sound.unoccupied (sound : Sound verifications aggregate) (member : item ∈ aggregate.items)
    (startable : Startable item) : ∀ run ∈ aggregate.runs, run.workItemId = item.id →
      run.occupies = false := by
  intro run among here
  by_contra occupies
  have known := itemState_of_mem sound.valid.itemIds member
  rw [← here] at known
  have busy : itemState aggregate.items run.workItemId = some .inProgress ∨
      itemState aggregate.items run.workItemId = some .candidateReady := by
    simp only [WorkRun.occupies, Bool.not_eq_false, Bool.or_eq_true] at occupies
    rcases occupies with active | candidate
    · by_cases verifies : run.id ∈ verifications
      · exact .inr (sound.verifying run among active verifies)
      · exact .inl (sound.writing run among active verifies)
    · exact .inr (sound.offering run among candidate)
  rw [known] at busy
  rcases startable with state | state <;> simp [state] at busy

/-- A startable item that cannot run waits for one that is not startable itself, and the chain
of dependencies that leads there is finite. -/
theorem blocked_of_stalled (distinct : (items.map (·.id)).Nodup)
    (listed : ∀ item ∈ items, item.dependsOn ⊆ items.map (·.id))
    (stalled : ∀ item ∈ items, workItemIsRunnable item items = false) {id : String}
    (founded : Acc (Precedes items) id) (member : item ∈ items) (named : item.id = id)
    (startable : Startable item) : ∃ other ∈ items, TransGen (Precedes items) other.id id ∧
      other.state ≠ .done ∧ ¬ Startable other := by
  induction founded generalizing item with
  | intro id _ ih =>
    have waits : item.dependsOn.any (!isDone items ·) := by
      by_contra free
      have halted := stalled item member
      rcases startable with state | state <;>
        simp [workItemIsRunnable, effectiveWorkItemState, state, free] at halted
    obtain ⟨needed, depends, unfinished⟩ := any_eq_true.mp waits
    obtain ⟨other, among, rfl⟩ := mem_map.mp (listed item member depends)
    have open_ : other.state ≠ .done := by
      intro done
      rw [Bool.not_eq_true', ← Bool.not_eq_true, isDone_iff distinct,
        itemState_of_mem distinct among, done] at unfinished
      exact unfinished rfl
    have before : Precedes items other.id id := ⟨item, member, named, depends⟩
    by_cases next : Startable other
    · obtain ⟨blocker, present, chain, state⟩ := ih other.id before among rfl next
      exact ⟨blocker, present, chain.tail before, state⟩
    · exact ⟨other, among, .single before, open_, next⟩

theorem startItem_runnable (sound : Sound verifications aggregate) (member : item ∈ aggregate.items)
    (runnable : workItemIsRunnable item aggregate.items) :
    aggregate.startItem item.id = .ok ⟨item.enter .inProgress, 1⟩ := by
  have free := sound.unoccupied member (runnable_spec sound.valid.itemIds runnable).1
  obtain ⟨other, found⟩ : ∃ other, aggregate.items.find? (fun other => other.id == item.id &&
      workItemIsRunnable other aggregate.items &&
      !aggregate.runs.any fun run => run.workItemId == item.id && run.occupies) = some other := by
    rw [← Option.isSome_iff_exists, find?_isSome]
    exact ⟨item, member, by simpa [runnable] using free⟩
  have chosen := find?_some found
  simp only [Bool.and_eq_true, beq_iff_eq] at chosen
  cases inj_on_of_nodup_map sound.valid.itemIds (mem_of_find?_eq_some found) member chosen.1.1
  simp only [startItem, eq_ok]
  exact ⟨(), sound.valid.checked, item, found, rfl⟩

theorem startNext_answers (sound : Sound verifications aggregate) :
    (∃ item ∈ aggregate.items, workItemIsRunnable item aggregate.items ∧
      aggregate.startNext = .ok ⟨item.enter .inProgress, 1⟩) ∨
    (aggregate.startNext = .error .noRunnableWorkItem ∧
      ∀ item ∈ aggregate.items, workItemIsRunnable item aggregate.items = false) := by
  simp only [startNext, sound.valid.checked, startNextWorkRun, bind, Except.bind]
  cases found : aggregate.items.find? _ with
  | none =>
    refine .inr ⟨rfl, fun item member => Bool.eq_false_iff.mpr fun runnable => ?_⟩
    have current := sound.valid.items item member
    simp only [validItem, Bool.and_eq_true, beq_iff_eq] at current
    have missed := find?_eq_none.mp found item member
    simp only [current, runnable, beq_self_eq_true, Bool.true_and, Bool.not_eq_true,
      Bool.not_eq_false', contains_iff_mem, mem_map, mem_filter] at missed
    obtain ⟨run, ⟨among, occupies⟩, here⟩ := missed
    rw [sound.unoccupied member (runnable_spec sound.valid.itemIds runnable).1 run among here]
      at occupies
    cases occupies
  | some item =>
    have member := mem_of_find?_eq_some found
    have chosen := find?_some found
    simp only [Bool.and_eq_true] at chosen
    have started := startItem_runnable sound member chosen.1.2
    exact .inl ⟨item, member, chosen.1.2, started⟩

/-- The next run starts on an item whose dependencies are done. If there is none, every item
that could run otherwise waits for one that is neither done nor waiting itself. -/
theorem dependencies_never_stall (validated : aggregate.validate = .ok ())
    (fresh : aggregate.runs = [])
    (idle : ∀ item ∈ aggregate.items, item.state ≠ .inProgress ∧ item.state ≠ .candidateReady)
    (operations : List WorkOperation) :
    let reached := (Runs.after TrackedWork.step ⟨aggregate, []⟩ operations).aggregate
    (∀ start, reached.startNext = .ok start → ∃ item ∈ reached.items, Startable item ∧
      (∀ id ∈ item.dependsOn, isDone reached.items id) ∧
      start = ⟨item.enter .inProgress, 1⟩) ∧
    ∀ error, reached.startNext = .error error → error = .noRunnableWorkItem ∧
      ∀ item ∈ reached.items, Startable item → ∃ other ∈ reached.items,
        TransGen (Precedes reached.items) other.id item.id ∧ other.state ≠ .done ∧
          ¬ Startable other := by
  intro reached
  have sound := run_sound (validate_eq_ok.mp validated) fresh idle operations
  have distinct := sound.valid.itemIds
  rcases startNext_answers sound with ⟨item, member, runnable, answer⟩ | ⟨answer, stalled⟩
  · obtain ⟨startable, ready⟩ := runnable_spec distinct runnable
    constructor
    · intro start started
      exact ⟨item, member, startable, fun id depends => (isDone_iff distinct).mpr (ready id depends),
        Except.ok.inj (started.symm.trans answer)⟩
    · intro error failed
      cases answer.symm.trans failed
  · constructor
    · intro start started
      cases answer.symm.trans started
    · intro error failed
      refine ⟨Except.error.inj (failed.symm.trans answer), fun item member startable => ?_⟩
      have listed : ∀ item ∈ reached.items, item.dependsOn ⊆ reached.items.map (·.id) := by
        intro item member id depends
        have checked := sound.valid.items item member
        simp only [validItem, Bool.and_eq_true, all_eq_true] at checked
        simpa using (checked.2 id depends).2
      have resolvable := ((acyclicItems_iff _).mp sound.valid.acyclic).2 item member
      exact blocked_of_stalled distinct listed stalled (acc_of_resolvable distinct resolvable)
        member rfl startable

/-- The second item waits for the first, whose run fails. -/
def dependentWork : WorkRunAggregate :=
  { sampleWork .ready with
    items := [sampleItem "wit_01J00000000000000000000000" .ready,
      { sampleItem "wit_01J00000000000000000000001" .ready with
        dependsOn := ["wit_01J00000000000000000000000"] }] }

def failedRun : List WorkOperation :=
  let run := sampleRun "wrn_01J00000000000000000000000" "wit_01J00000000000000000000000" 1
  [.appendRun run, .settleVerifiedOutcome ⟨run.id, ⟨run.executionJobId, 1, run.leaseId,
    run.fencingToken, run.workerId, run.workerInstanceId, run.workerSessionId⟩, .failed, ⟨none⟩⟩]

theorem dependencies_never_stall_failed :
    let reached := (Runs.after TrackedWork.step ⟨dependentWork, []⟩ failedRun).aggregate
    reached.items.map (·.state) = [.failed, .ready] ∧
      ∀ item ∈ reached.items, Startable item → ∃ other ∈ reached.items,
        TransGen (Precedes reached.items) other.id item.id ∧ other.state ≠ .done ∧
          ¬ Startable other := by
  intro reached
  have stops : reached.items.map (·.state) = [.failed, .ready] ∧
      reached.startNext.isOk = false := by
    decide +kernel
  refine ⟨stops.1, ?_⟩
  have never := @dependencies_never_stall dependentWork (by decide +kernel) rfl (by decide)
    failedRun
  cases answer : reached.startNext with
  | ok _ =>
    rw [answer] at stops
    cases stops.2
  | error error => exact (never.2 error answer).2

end WorkRunAggregate

end WinWinCode.Delivery
