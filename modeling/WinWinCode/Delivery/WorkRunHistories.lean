import WinWinCode.Delivery.AttemptReplacement
import WinWinCode.Delivery.WorkRunInvariants
import WinWinCode.Foundation.Runs

/-!
What the operations on work runs do to a sound aggregate, and from it what holds of
every aggregate that a run of them reaches. Each operation is judged by one triple:
where it succeeds the aggregate is sound again, where it fails nothing has changed.
-/

namespace WinWinCode.Delivery

open Counting Fallible Programs Runs FirstMatch List

variable {id : String} {item : WorkItem} {state : WorkItemState}

namespace WorkRunAggregate

/-! The ways in which the operations let a run leave its state. -/

theorem exclusive_unique {holds : WorkRun → Bool} {runs : List WorkRun}
    (exclusive : Exclusive holds runs) {left right : WorkRun} (among : left ∈ runs)
    (member : right ∈ runs) (first : holds left) (second : holds right)
    (same : left.workItemId = right.workItemId) : left = right :=
  inj_on_of_nodup_map (exclusive_iff.mpr exclusive) (mem_filter.mpr ⟨among, first⟩)
    (mem_filter.mpr ⟨member, second⟩) same

/-- An active run, by the state of its item: its own next state and the item's. -/
inductive Settles : WorkItemState → WorkRunState → WorkItemState → Prop where
  | offered : Settles .inProgress .candidateReady .candidateReady
  | failed : Settles .inProgress .failed .failed
  | cancelled : Settles .inProgress .cancelled .cancelled
  | released : Settles .inProgress .failed .ready
  | verified {state : WorkRunState} (final : state = .settled ∨ state = .failed ∨ state = .cancelled) :
      Settles .candidateReady state .candidateReady

section
variable {verifications : List String} {aggregate : WorkRunAggregate} {run : WorkRun}

theorem leaving_of_settles (sound : Sound verifications aggregate)
    (found : aggregate.runs.find? (·.id == run.id) = some run) (active : run.isActive)
    {source target : WorkItemState} {state : WorkRunState}
    (known : itemState aggregate.items run.workItemId = some source)
    (settles : Settles source state target) : Leaving aggregate run state target := by
  have member := mem_of_find?_eq_some found
  -- A candidate run stands only where its item is candidate-ready.
  have offering : ∀ other ∈ aggregate.runs, isCandidate other = true →
      other.workItemId = run.workItemId → source = .candidateReady := by
    intro other among candidate same
    have offers := sound.offering other among candidate
    rw [same] at offers
    exact Option.some.inj (known.symm.trans offers)
  constructor
  case found => exact found
  case stops =>
    cases settles with
    | verified final => rcases final with rfl | rfl | rfl <;> decide
    | _ => decide
  case source =>
    cases settles with
    | verified final => exact .inr known
    | _ => exact .inl known
  case alone =>
    intro other among same running
    exact exclusive_unique sound.valid.active among member running active same
  case free => cases settles <;> decide
  case offers =>
    intro offers
    cases settles with
    | offered =>
      exact ⟨rfl, fun other among candidate same => nomatch offering other among candidate same⟩
    | verified final => rcases final with rfl | rfl | rfl <;> cases offers
    | _ => cases offers
  case keeps =>
    intro other among _ same candidate
    have ready := offering other among candidate same
    cases settles with
    | verified _ => rfl
    | _ => cases ready
  case backs =>
    intro ready
    cases settles with
    | offered => exact .inl rfl
    | verified _ =>
      obtain ⟨other, among, same, candidate⟩ := sound.offered run.workItemId known
      refine .inr ⟨other, among, ?_, same, candidate⟩
      rintro rfl
      simp only [isCandidate, decide_eq_true_eq] at candidate
      simp [WorkRun.isActive, candidate] at active
    | _ => cases ready

theorem leaving_of_completes (sound : Sound verifications aggregate) (member : run ∈ aggregate.runs)
    (candidate : isCandidate run)
    (vacant : ∀ other ∈ aggregate.runs, other.workItemId = run.workItemId →
      other.isActive = false) : Leaving aggregate run .settled .done := by
  constructor
  case found => exact find?_of_mem WorkRun.id sound.valid.runIds member
  case stops => decide
  case source => exact .inr (sound.offering run member candidate)
  case alone =>
    intro other among same running
    exact absurd ((vacant other among same).symm.trans running) Bool.false_ne_true
  case free => decide
  case offers => exact fun impossible => nomatch impossible
  case keeps =>
    intro _ among apart same offers
    exact absurd (exclusive_unique sound.valid.candidates among member offers candidate same) apart
  case backs => exact fun impossible => nomatch impossible

/-- The runs that a call appended belong to items whose dependencies were done. -/
def Gated (aggregate next : WorkRunAggregate) : Prop :=
  ∀ run ∈ next.runs, run.id ∉ aggregate.runs.map (·.id) →
    ∃ item ∈ aggregate.items, item.id = run.workItemId ∧
      ∀ id ∈ item.dependsOn, itemState aggregate.items id = some .done

variable {next : WorkRunAggregate}

theorem gated_of_ids (same : next.runs.map (·.id) = aggregate.runs.map (·.id)) :
    Gated aggregate next := by
  intro _ among new
  rw [← same] at new
  exact absurd (mem_map_of_mem among) new

theorem gated_of_concat {earlier : List WorkRun} (shape : next.runs = earlier ++ [run])
    (same : earlier.map (·.id) = aggregate.runs.map (·.id)) (known : item ∈ aggregate.items)
    (here : item.id = run.workItemId)
    (ready : ∀ id ∈ item.dependsOn, itemState aggregate.items id = some .done) :
    Gated aggregate next := by
  intro _ among new
  rw [shape] at among
  rcases mem_append.mp among with old | last
  · rw [← same] at new
    exact absurd (mem_map_of_mem old) new
  · rw [mem_singleton.mp last]
    exact ⟨item, known, here, ready⟩

/-- Judgement on an operation of a sound aggregate: it keeps it sound, appends runs only
where the dependencies are done, and changes nothing when it fails. -/
def Keeps {Error : Type} (grown : List String) (aggregate : WorkRunAggregate)
    (operation : Program WorkRunAggregate Error Unit) : Prop :=
  Triple (· = aggregate) operation (fun _ next => Sound grown next ∧ Gated aggregate next)
    (· = aggregate)

theorem transitionItemState_spec (id : String) (target : WorkItemState) :
    Triple (· = aggregate) (transitionItemState id target)
      (fun _ next => next = { aggregate with items := setItemState aggregate.items id target } ∧
        ∃ state, itemState aggregate.items id = some state ∧
          workItemTransitionAllowed state target = true) (· = aggregate) := by
  apply run_inspect
  · rfl
  intro item found
  apply run_lift
  · rfl
  intro _ allowed
  apply run_modify
  refine ⟨rfl, item.state, ?_, ?_⟩
  · rw [itemState, okOr_eq_ok.mp found]
    rfl
  · exact eq_true_of_ne_false (refuse_eq_ok.mp allowed)

theorem itemStands_state (distinct : (aggregate.items.map (·.id)).Nodup) {revision : Int}
    (stands : aggregate.itemStands id revision state) :
    itemState aggregate.items id = some state := by
  simp only [itemStands, any_eq_true, Bool.and_eq_true, beq_iff_eq, decide_eq_true_eq] at stands
  obtain ⟨_, member, ⟨rfl, _⟩, known⟩ := stands
  rw [itemState_of_mem distinct member, known]

theorem vacant_of_hasActiveRun (none : aggregate.hasActiveRun id ≠ true) :
    ∀ other ∈ aggregate.runs, other.workItemId = id → other.isActive = false := by
  intro other among same
  cases active : other.isActive with
  | false => rfl
  | true => exact absurd (any_eq_true.mpr ⟨other, among, by simp [same, active]⟩) none

theorem validRevision_of_filter {value next : Int}
    (known : (checkedNext value).filter validRevision = some next) : validRevision next = true :=
  (Option.filter_eq_some_iff.mp known).2

section
variable (sound : Sound verifications aggregate)
include sound

theorem completeCandidate_keeps (workRunId : String) :
    Keeps verifications aggregate (completeCandidate workRunId) := by
  apply run_inspect
  · rfl
  intro _ _
  apply run_inspect
  · rfl
  intro run found
  apply run_inspect
  · rfl
  intro _ free
  apply run_lift
  · rfl
  intro revision known
  have member := mem_of_find?_eq_some (okOr_eq_ok.mp found)
  have chosen := find?_some (okOr_eq_ok.mp found)
  simp only [Bool.and_eq_true, beq_iff_eq] at chosen
  have vacant := vacant_of_hasActiveRun (not_or.mp (refuse_eq_ok.mp free)).2
  have leaving := leaving_of_completes sound member chosen.2 vacant
  have next := leaving.valid sound.valid (validRevision_of_filter (okOr_eq_ok.mp known))
  apply run_bind (transitionItemState_spec run.workItemId .done)
  rintro _ _ ⟨rfl, _⟩
  apply run_change
  apply run_passing next.checked
  exact ⟨sound.leave leaving next, gated_of_ids (setRun_ids aggregate.runs run.id .settled revision)⟩

theorem settleFact_keeps (fact : WorkRunTerminalFact) :
    Keeps verifications aggregate (settleFact fact) := by
  apply run_inspect
  · rfl
  intro run found
  apply run_lift
  · rfl
  intro _ matched
  apply run_inspect
  · rfl
  intro item held
  apply run_lift
  · rfl
  intro _ stands
  apply run_lift
  · rfl
  intro revision known
  have first := okOr_eq_ok.mp found
  have same : run.id = fact.workRun.id := find?_key WorkRun.id first
  rw [← same] at first
  have active : run.isActive = true :=
    eq_true_of_ne_false (not_or.mp (not_or.mp (refuse_eq_ok.mp matched)).2).1
  have owned := okOr_eq_ok.mp held
  have here : item.id = run.workItemId := find?_key WorkItem.id owned
  have inProgress : itemState aggregate.items run.workItemId = some .inProgress := by
    rw [itemState, owned]
    exact congrArg some (not_not.mp (not_or.mp (refuse_eq_ok.mp stands)).1)
  have settles : Settles .inProgress fact.outcome.settledStates.1 fact.outcome.settledStates.2 := by
    cases fact.outcome with
    | candidateReady => exact .offered
    | failed => exact .failed
    | cancelled => exact .cancelled
  have leaving := leaving_of_settles sound first active inProgress settles
  have fits : validRevision revision := by
    have bounded := Option.filter_eq_some_iff.mp (okOr_eq_ok.mp known)
    have before := revision_of_validRun (sound.valid.runs run leaving.member)
    simp only [checkedNext, Option.ite_none_right_eq_some, Option.some.injEq,
      decide_eq_true_eq] at bounded
    simp only [validRevision, Bool.and_eq_true, decide_eq_true_eq] at before ⊢
    omega
  rw [here]
  apply run_bind (transitionItemState_spec run.workItemId _)
  rintro _ _ ⟨rfl, _⟩
  apply run_modify
  exact ⟨sound.leave leaving (leaving.valid sound.valid fits), gated_of_ids (setRun_ids _ _ _ _)⟩

theorem settleVerifiedOutcome_keeps (verified : VerifiedTerminalOutcome) :
    Keeps verifications aggregate (settleVerifiedOutcome verified) := by
  apply run_inspect
  · rfl
  intro _ _
  apply run_inspect
  · rfl
  intro _ _
  apply run_lift
  · rfl
  intro fact _
  exact settleFact_keeps sound fact

theorem settleVerificationOutcome_keeps (verified : VerifiedTerminalOutcome) :
    Keeps verifications aggregate (settleVerificationOutcome verified) := by
  apply run_inspect
  · rfl
  intro _ _
  apply run_inspect
  · rfl
  intro run found
  apply run_lift
  · rfl
  intro _ _
  apply run_inspect
  · rfl
  intro _ stands
  apply run_lift
  · rfl
  intro revision known
  have first := okOr_eq_ok.mp found
  rw [← find?_key WorkRun.id first] at first
  have accepted := not_or.mp (refuse_eq_ok.mp stands)
  have candidate := itemStands_state sound.valid.itemIds (eq_true_of_ne_false accepted.2)
  have settles : Settles .candidateReady (settledVerification verified.status) .candidateReady := by
    apply Settles.verified
    cases verified.status <;> simp [settledVerification]
  have leaving := leaving_of_settles sound first (eq_true_of_ne_false accepted.1) candidate settles
  have next := leaving.valid sound.valid (validRevision_of_filter (okOr_eq_ok.mp known))
  have shape : aggregate.leave run (settledVerification verified.status) revision .candidateReady =
      { aggregate with
        runs := setRun aggregate.runs run.id (settledVerification verified.status) revision } := by
    rw [leave, setItemState_self candidate]
  apply run_modify
  rw [← shape]
  exact ⟨sound.leave leaving next, gated_of_ids (setRun_ids _ _ _ _)⟩

end

theorem startVerification_spec {start : WorkRunStart}
    (started : aggregate.startVerification id = .ok start) :
    Valid aggregate ∧ itemState aggregate.items id = some .candidateReady ∧
      ∀ other ∈ aggregate.runs, other.workItemId = id → other.isActive = false := by
  simp only [startVerification, eq_ok, exists_const, validate_eq_ok] at started
  obtain ⟨valid, _, found, free, _⟩ := started
  have chosen := find?_some found
  simp only [Bool.and_eq_true, beq_iff_eq, decide_eq_true_eq] at chosen
  refine ⟨valid, ?_, vacant_of_hasActiveRun (not_or.mp free).2⟩
  rw [← chosen.1, itemState_of_mem valid.itemIds (mem_of_find?_eq_some found), chosen.2]

theorem runnable_spec (distinct : (aggregate.items.map (·.id)).Nodup)
    (runnable : workItemIsRunnable item aggregate.items) :
    (item.state = .ready ∨ item.state = .waitingDependency) ∧
      ∀ id ∈ item.dependsOn, itemState aggregate.items id = some .done := by
  have ready : effectiveWorkItemState item aggregate.items = .ready := of_decide_eq_true runnable
  unfold effectiveWorkItemState at ready
  split at ready
  · cases ready
  · rename_i blocked
    have idle : item.state = .ready ∨ item.state = .waitingDependency := by
      split at ready
      · rename_i waiting
        exact .inr waiting
      · exact .inl ready
    refine ⟨idle, fun id member => (isDone_iff distinct).mp ?_⟩
    cases done : isDone aggregate.items id with
    | true => rfl
    | false =>
      refine absurd ⟨idle, any_eq_true.mpr ⟨id, member, ?_⟩⟩ blocked
      rw [done]
      rfl

structure Admitted (aggregate : WorkRunAggregate) (run : WorkRun) (readOnly : Bool) : Prop where
  valid : Valid aggregate
  joining : Joining aggregate run
  verifies : readOnly = true → itemState aggregate.items run.workItemId = some .candidateReady
  writes : readOnly = false → ∃ item, aggregate.items.find? (·.id == run.workItemId) = some item ∧
    workItemIsRunnable item aggregate.items = true

theorem admitRun_spec {readOnly : Bool} (admitted : aggregate.admitRun run readOnly = .ok ()) :
    Admitted aggregate run readOnly := by
  simp only [admitRun, eq_ok, exists_const, validate_eq_ok] at admitted
  rcases admitted with ⟨valid, ⟨⟩, verification, active, _, item, found, runnable, _, fresh, vacant,
    following, counted, numbered⟩
  have distinct : ∀ other ∈ aggregate.runs, other.id ≠ run.id := fun other among same =>
    fresh (any_eq_true.mpr ⟨other, among, beq_iff_eq.mpr same⟩)
  have next : following = aggregate.lastAttempt run.executionJobId + 1 := by
    simp only [checkedNext, Option.ite_none_right_eq_some, Option.some.injEq] at counted
    exact counted.2.symm
  rw [not_or, not_or, not_not] at numbered
  cases readOnly with
  | false =>
    have free := not_or.mp (not_and.mp vacant rfl)
    refine ⟨valid, ⟨eq_true_of_ne_false active, distinct, vacant_of_hasActiveRun free.1, ?_⟩,
      fun impossible => absurd impossible Bool.false_ne_true,
      fun _ => ⟨item, found, eq_true_of_ne_false (not_and.mp runnable rfl)⟩⟩
    rw [numbered.2.1, if_neg Bool.false_ne_true, next]
  | true =>
    simp only [checkVerification, ↓reduceIte, eq_ok] at verification
    obtain ⟨_, started, _⟩ := verification
    obtain ⟨_, candidate, free⟩ := startVerification_spec started
    refine ⟨valid, ⟨eq_true_of_ne_false active, distinct, free, ?_⟩, fun _ => candidate,
      fun impossible => absurd impossible.symm Bool.false_ne_true⟩
    have unused : aggregate.runs.filter (·.executionJobId == run.executionJobId) = [] := by
      rw [filter_eq_nil_iff]
      exact fun other among same => not_and.mp numbered.1 rfl (any_eq_true.mpr ⟨other, among, same⟩)
    rw [numbered.2.1, if_pos rfl, lastAttempt, unused]
    rfl

theorem occupyItem_spec (occupied : Program.exec (occupyItem id) aggregate = .ok next) :
    next = { aggregate with items := setItemState aggregate.items id .inProgress } := by
  have judged : Triple (· = aggregate) (occupyItem id)
      (fun _ next => next = { aggregate with items := setItemState aggregate.items id .inProgress })
      (fun _ => True) := by
    apply run_inspect trivial
    intro waiting _
    cases waiting with
    | false =>
      exact triple_mono (transitionItemState_spec id .inProgress)
        (fun _ _ reached => reached.1) (fun _ _ => trivial)
    | true =>
      apply run_bind (triple_mono (transitionItemState_spec id .ready)
        (fun _ _ reached => reached.1) (fun _ _ => trivial))
      rintro _ _ rfl
      refine triple_mono (transitionItemState_spec id .inProgress)
        (fun _ _ reached => ?_) (fun _ _ => trivial)
      rw [reached.1, setItemState_twice]
  obtain ⟨_, ran⟩ := Program.exec_eq_ok.mp occupied
  exact judged.of_ok rfl ran

theorem withRun_writer (done : aggregate.withRun run false = .ok next) :
    Admitted aggregate run false ∧ Valid next ∧ next = { aggregate with
      items := setItemState aggregate.items run.workItemId .inProgress
      runs := aggregate.runs ++ [run] } := by
  simp only [withRun, Bool.false_eq_true, ↓reduceIte, eq_ok] at done
  obtain ⟨⟨⟩, admitted, _, occupied, ⟨⟩, checked, built⟩ := done
  cases occupyItem_spec occupied
  cases built
  exact ⟨admitRun_spec admitted, validate_eq_ok.mp checked, rfl⟩

theorem withRun_verification (done : aggregate.withRun run true = .ok next) :
    Admitted aggregate run true ∧ Valid next ∧
      next = { aggregate with runs := aggregate.runs ++ [run] } := by
  simp only [withRun, ↓reduceIte, eq_ok] at done
  obtain ⟨⟨⟩, admitted, _, same, ⟨⟩, checked, built⟩ := done
  cases same
  cases built
  exact ⟨admitRun_spec admitted, validate_eq_ok.mp checked, rfl⟩

theorem itemState_of_find (found : aggregate.items.find? (·.id == id) = some item) :
    itemState aggregate.items id = some item.state := by
  rw [itemState, found]
  rfl

section
variable (sound : Sound verifications aggregate)
include sound

theorem Sound.withWriter (done : aggregate.withRun run false = .ok next) :
    Sound verifications next ∧ Gated aggregate next := by
  obtain ⟨admitted, valid, rfl⟩ := withRun_writer done
  obtain ⟨item, found, runnable⟩ := admitted.writes rfl
  obtain ⟨idle, ready⟩ := runnable_spec sound.valid.itemIds runnable
  have here : item.id = run.workItemId := find?_key WorkItem.id found
  have only : ∀ other ∈ aggregate.items, other.id = run.workItemId → other = item := by
    intro other member same
    have first := find?_of_mem WorkItem.id sound.valid.itemIds member
    rw [same, found] at first
    exact (Option.some.inj first).symm
  constructor
  · exact sound.appendWriter admitted.joining (itemState_of_find found) idle
      (fun other member same id needs => ready id (only other member same ▸ needs)) valid
  · exact gated_of_concat rfl rfl (mem_of_find?_eq_some found) here ready

theorem Sound.verified_gate (known : itemState aggregate.items id = some state)
    (busy : state = .inProgress ∨ state = .candidateReady) :
    ∃ item ∈ aggregate.items, item.id = id ∧
      ∀ id ∈ item.dependsOn, itemState aggregate.items id = some .done := by
  obtain ⟨item, found, rfl⟩ := Option.map_eq_some_iff.mp known
  exact ⟨item, mem_of_find?_eq_some found, find?_key WorkItem.id found,
    sound.gated item (mem_of_find?_eq_some found) busy⟩

theorem appendVerificationRun_keeps (run : WorkRun) :
    Keeps (verifications ++ [run.id]) aggregate (appendVerificationRun run) := by
  apply run_assign
  · rfl
  intro _ done
  obtain ⟨admitted, valid, rfl⟩ := withRun_verification done
  have candidate := admitted.verifies rfl
  obtain ⟨_, member, here, ready⟩ := sound.verified_gate candidate (Or.inr rfl)
  exact ⟨sound.appendVerification admitted.joining candidate valid,
    gated_of_concat rfl rfl member here ready⟩

end

/-! Replacing an attempt is a run that fails followed by a run that joins. -/

theorem successor_attempt {predecessor successor : Nat} {attempt : Int} (positive : 1 ≤ run.attempt)
    (held : run.attempt = (toI64 predecessor).getD (-1))
    (follows : successor = saturatingAdd predecessor 1) (fits : toI64 successor = some attempt) :
    attempt = run.attempt + 1 := by
  unfold toI64 at held fits
  by_cases small : (predecessor : Int) ≤ maxI64
  · rw [if_pos small, Option.getD_some] at held
    rw [Option.ite_none_right_eq_some] at fits
    have below : predecessor + 1 < wordLimit := by
      unfold maxI64 at small
      unfold wordLimit
      omega
    have sum : successor = predecessor + 1 := by
      rw [follows, saturatingAdd]
      exact min_eq_left (Nat.le_sub_one_of_lt below)
    have same : (successor : Int) = attempt := Option.some.inj fits.2
    omega
  · rw [if_neg small, Option.getD_none] at held
    omega

theorem validatedReplacementSuccessor_spec {identity : SessionBindingIdentity}
    {binding : SessionBinding} {replacement : DeliveryExecutionAttemptReplacement}
    {authority : SessionBindingAuthority} {successorId : String}
    (validated : validatedReplacementSuccessor aggregate identity binding replacement authority =
      .ok successorId) : replacement.workRunId = some successorId ∧ ∃ run,
      aggregate.runs.find? (·.id == identity.workRunId) = some run ∧ run.isActive ∧
      run.attempt = (toI64 replacement.predecessorLease.attempt).getD (-1) ∧
      replacement.successorLease.attempt = saturatingAdd replacement.predecessorLease.attempt 1 := by
  simp only [validatedReplacementSuccessor, activeRun, validateReplacementIdentity, eq_ok,
    exists_const, Except.ok.injEq] at validated
  obtain ⟨_, ⟨run, found, matched, rfl⟩, _, wanted, _, ⟨identified, _⟩, _, rfl⟩ := validated
  simp only [not_or, not_not] at matched identified
  exact ⟨wanted, run, found, eq_true_of_ne_false matched.1, identified.2.2.2.2.1,
    identified.2.2.2.2.2.2.2.2.2.2.2.2.1⟩

section
variable {identity : SessionBindingIdentity} {binding : SessionBinding}
  {replacement : DeliveryExecutionAttemptReplacement} {authority : SessionBindingAuthority}

section
variable (sound : Sound verifications aggregate)
include sound

section
variable (found : aggregate.runs.find? (·.id == run.id) = some run) (active : run.isActive = true)
  {revision : Int} {successor : WorkRun}
include found active

theorem verification_successor_keeps
    (candidate : itemState aggregate.items run.workItemId = some .candidateReady)
    (pushed : { aggregate with runs := setRun aggregate.runs run.id .failed revision
      }.pushVerificationSuccessor successor = .ok next) (running : successor.isActive = true)
    (item : successor.workItemId = run.workItemId)
    (job : successor.executionJobId = run.executionJobId)
    (attempt : successor.attempt = run.attempt + 1) :
    Sound (verifications ++ [successor.id]) next ∧ Gated aggregate next := by
  have leaving := leaving_of_settles sound found active candidate
    (.verified (Or.inr (Or.inl rfl)) : Settles .candidateReady .failed .candidateReady)
  have shape : aggregate.leave run .failed revision .candidateReady =
      { aggregate with runs := setRun aggregate.runs run.id .failed revision } := by
    rw [leave, setItemState_self candidate]
  rw [← shape] at pushed
  simp only [pushVerificationSuccessor, eq_ok, mapError_eq_ok, exists_const,
    validate_eq_ok] at pushed
  obtain ⟨_, started, valid, built⟩ := pushed
  cases built
  obtain ⟨middle, ready, vacant⟩ := startVerification_spec started
  have halfway := sound.leave leaving middle
  have joining : Joining (aggregate.leave run .failed revision .candidateReady) successor := by
    refine ⟨running, ?_, vacant, ?_⟩
    · intro other among same
      have distinct := valid.runIds
      rw [map_append, nodup_append] at distinct
      exact distinct.2.2 _ (mem_map_of_mem among) _ mem_cons_self same
    · -- No later attempt of the job exists, or the successor would repeat it.
      obtain ⟨count, known⟩ := sound.counted run.executionJobId
      have listed : run.attempt ∈ attemptsUpTo count := by
        rw [← known]
        exact mem_map_of_mem (mem_filter.mpr ⟨leaving.member, beq_self_eq_true _⟩)
      have unused : run.attempt + 1 ∉ attemptsUpTo count := by
        intro repeated
        rw [← known, ← jobAttempts_setRun aggregate.runs run.id .failed revision] at repeated
        obtain ⟨other, among, same⟩ := mem_map.mp repeated
        obtain ⟨member, owned⟩ := mem_filter.mp among
        have distinct := valid.attempts
        rw [map_append, nodup_append] at distinct
        refine distinct.2.2 _ (mem_map_of_mem member) _ mem_cons_self ?_
        change (other.executionJobId, other.attempt) = (successor.executionJobId, successor.attempt)
        rw [beq_iff_eq.mp owned, same, job, attempt]
      have largest : (aggregate.leave run .failed revision .candidateReady).lastAttempt
          successor.executionJobId = count := by
        rw [job]
        apply lastAttempt_of_counted
        exact (jobAttempts_setRun aggregate.runs run.id .failed revision _).trans known
      rw [mem_attemptsUpTo] at listed unused
      rw [largest, attempt]
      omega
  obtain ⟨_, member, here, done⟩ := sound.verified_gate candidate (Or.inr rfl)
  constructor
  · exact halfway.appendVerification joining ready valid
  · exact gated_of_concat rfl (setRun_ids _ _ _ _) member (here.trans item.symm) done

/-- A writer gives its item back, and its successor takes it again. -/
theorem writer_successor_keeps
    (inProgress : itemState aggregate.items run.workItemId = some .inProgress)
    (retried : { aggregate with runs := setRun aggregate.runs run.id .failed revision
      }.retryWriter successor = .ok next) (item : successor.workItemId = run.workItemId) :
    Sound verifications next ∧ Gated aggregate next := by
  have leaving := leaving_of_settles sound found active inProgress .released
  simp only [retryWriter, eq_ok, mapError_eq_ok, Program.exec_eq_ok, item] at retried
  obtain ⟨_, ⟨_, released⟩, _, appended⟩ := retried
  cases ((transitionItemState_spec run.workItemId .ready).of_ok rfl released).1
  have done := Program.exec_eq_ok.mpr ⟨_, appended⟩
  rw [appendRun, appendRunMode, Program.exec_assign] at done
  have shape := withRun_writer done
  have halfway := sound.leave leaving shape.1.valid
  have kept := halfway.withWriter done
  obtain ⟨_, member, here, ready⟩ := sound.verified_gate inProgress (Or.inl rfl)
  refine ⟨kept.1, ?_⟩
  rw [shape.2.2]
  exact gated_of_concat rfl (setRun_ids _ _ _ _) member (here.trans item.symm) ready

end

theorem replaceExecutionAttempt_keeps :
    Keeps (if identity.workRunId ∈ verifications then verifications ++ replacement.workRunId.toList
      else verifications) aggregate
      (replaceExecutionAttempt identity binding replacement authority) := by
  apply run_assign
  · rfl
  intro _ done
  simp only [eq_ok, Prod.exists, Except.ok.injEq] at done
  obtain ⟨_, validated, _, _, replaced, rfl⟩ := done
  rcases validatedReplacementSuccessor_spec validated with
    ⟨named, run, found, active, held, follows⟩
  simp only [withSuccessor, eq_ok, exists_const, found, Option.some.injEq, exists_eq_left', not_or,
    not_not] at replaced
  obtain ⟨_, _, attempt, fits, _, owned, ⟨state, _⟩, _, succeeded, same⟩ := replaced
  cases same
  have identified : run.id = identity.workRunId := find?_key WorkRun.id found
  rw [← identified] at found succeeded ⊢
  have known := itemState_of_find owned
  have member := mem_of_find?_eq_some found
  have positive : 1 ≤ run.attempt := by
    have checked := sound.valid.runs run member
    unfold validRun at checked
    split at checked
    · cases checked
    · simp only [Bool.and_eq_true, decide_eq_true_eq] at checked
      exact checked.1.2
  cases readOnly : isVerificationProfile binding.executionProfile with
  | true =>
    simp only [appendSuccessor, readOnly, ↓reduceIte] at succeeded state
    rw [state] at known
    have reader : run.id ∈ verifications := by
      by_contra writer
      cases (sound.writing run member active writer).symm.trans known
    rw [if_pos reader, named]
    exact verification_successor_keeps sound found active known succeeded rfl rfl rfl
      (successor_attempt positive held follows fits)
  | false =>
    simp only [appendSuccessor, readOnly, Bool.false_eq_true, ↓reduceIte] at succeeded state
    rw [state] at known
    have writer : run.id ∉ verifications := by
      intro reader
      cases (sound.verifying run member active reader).symm.trans known
    rw [if_neg writer]
    exact writer_successor_keeps sound found active known succeeded rfl

end

end

end

end WorkRunAggregate

/-! Runs of operations. -/

inductive WorkOperation where
  | appendRun (run : WorkRun)
  | appendVerificationRun (run : WorkRun)
  | settleVerifiedOutcome (verified : VerifiedTerminalOutcome)
  | settleVerificationOutcome (verified : VerifiedTerminalOutcome)
  | completeCandidate (workRunId : String)
  | replaceExecutionAttempt (identity : SessionBindingIdentity) (binding : SessionBinding)
      (replacement : DeliveryExecutionAttemptReplacement) (authority : SessionBindingAuthority)

inductive WorkFailure where
  | scheduling (error : WorkRunSchedulingError)
  | coordination (error : CoordinationError)

namespace WorkOperation

def perform : WorkOperation → Program WorkRunAggregate WorkFailure Unit
  | .appendRun run => (WorkRunAggregate.appendRun run).mapError .scheduling
  | .appendVerificationRun run =>
    (WorkRunAggregate.appendVerificationRun run).mapError .scheduling
  | .settleVerifiedOutcome verified =>
    (WorkRunAggregate.settleVerifiedOutcome verified).mapError .scheduling
  | .settleVerificationOutcome verified =>
    (WorkRunAggregate.settleVerificationOutcome verified).mapError .scheduling
  | .completeCandidate workRunId =>
    (WorkRunAggregate.completeCandidate workRunId).mapError .scheduling
  | .replaceExecutionAttempt identity binding replacement authority =>
    (WorkRunAggregate.replaceExecutionAttempt identity binding replacement authority).mapError
      .coordination

/-- The verification runs once the operation has succeeded: a run appended as one, and
the successor of one. -/
def verifications (operation : WorkOperation) (known : List String) : List String :=
  match operation with
  | .appendVerificationRun run => known ++ [run.id]
  | .replaceExecutionAttempt identity _ replacement _ =>
    if identity.workRunId ∈ known then known ++ replacement.workRunId.toList else known
  | _ => known

end WorkOperation

/-- An aggregate with the ids of its verification runs, which nothing in it records. -/
structure TrackedWork where
  aggregate : WorkRunAggregate
  verifications : List String

def TrackedWork.step (work : TrackedWork) (operation : WorkOperation) : TrackedWork :=
  match operation.perform work.aggregate with
  | (aggregate, .ok _) => ⟨aggregate, operation.verifications work.verifications⟩
  | (aggregate, .error _) => ⟨aggregate, work.verifications⟩

namespace WorkRunAggregate

variable {verifications : List String} {aggregate : WorkRunAggregate}

section
variable (sound : Sound verifications aggregate)
include sound

theorem perform_keeps (operation : WorkOperation) :
    Keeps (operation.verifications verifications) aggregate operation.perform := by
  cases operation with
  | appendRun run => exact triple_mapError (run_assign rfl fun _ done => sound.withWriter done)
  | appendVerificationRun run => exact triple_mapError (appendVerificationRun_keeps sound run)
  | settleVerifiedOutcome verified =>
    exact triple_mapError (settleVerifiedOutcome_keeps sound verified)
  | settleVerificationOutcome verified =>
    exact triple_mapError (settleVerificationOutcome_keeps sound verified)
  | completeCandidate workRunId => exact triple_mapError (completeCandidate_keeps sound workRunId)
  | replaceExecutionAttempt _ _ _ _ =>
    exact triple_mapError (replaceExecutionAttempt_keeps sound)

theorem perform_error {operation : WorkOperation} {error : WorkFailure}
    (failed : (operation.perform aggregate).2 = .error error) :
    (operation.perform aggregate).1 = aggregate := by
  have judged := perform_keeps sound operation aggregate rfl
  cases outcome : operation.perform aggregate with
  | mk _ _ =>
    rw [outcome] at judged failed
    cases failed
    exact judged

theorem perform_gated (operation : WorkOperation) :
    Gated aggregate (operation.perform aggregate).1 := by
  refine (triple_mono (perform_keeps sound operation) (fun _ _ kept => kept.2) ?_).reached rfl
  rintro _ rfl
  exact gated_of_ids rfl

end

theorem step_sound (work : TrackedWork) (operation : WorkOperation)
    (sound : Sound work.verifications work.aggregate) :
    Sound (work.step operation).verifications (work.step operation).aggregate := by
  have judged := perform_keeps sound operation work.aggregate rfl
  unfold TrackedWork.step
  cases outcome : operation.perform work.aggregate with
  | mk _ result =>
    rw [outcome] at judged
    cases result with
    | ok _ => exact judged.1
    | error _ =>
      cases judged
      exact sound

theorem run_sound (valid : Valid aggregate) (fresh : aggregate.runs = [])
    (idle : ∀ item ∈ aggregate.items, item.state ≠ .inProgress ∧ item.state ≠ .candidateReady)
    (operations : List WorkOperation) :
    let work := after TrackedWork.step ⟨aggregate, []⟩ operations
    Sound work.verifications work.aggregate :=
  after_invariant TrackedWork.step (fun work operation => step_sound work operation)
    (sound_of_idle valid fresh idle) operations

def runsOf (aggregate : WorkRunAggregate) (itemId : String) (test : WorkRun → Bool) :
    List WorkRun :=
  aggregate.runs.filter fun run => run.workItemId == itemId && test run

theorem runsOf_le_one {test : WorkRun → Bool} (exclusive : Exclusive test aggregate.runs)
    (distinct : (aggregate.runs.map (·.id)).Nodup) (itemId : String) :
    (aggregate.runsOf itemId test).length ≤ 1 := by
  have among : ∀ run ∈ aggregate.runsOf itemId test,
      run ∈ aggregate.runs ∧ run.workItemId = itemId ∧ test run = true := by
    intro _ member
    simpa [runsOf] using member
  have nodup : (aggregate.runsOf itemId test).Nodup := (List.Nodup.of_map _ distinct).filter _
  cases shape : aggregate.runsOf itemId test with
  | nil => exact Nat.zero_le 1
  | cons first rest =>
    cases rest with
    | nil => exact Nat.le_refl 1
    | cons second _ =>
      rw [shape] at among nodup
      obtain ⟨left, here, holds⟩ := among first mem_cons_self
      obtain ⟨right, there, also⟩ := among second (mem_cons_of_mem _ mem_cons_self)
      have same := exclusive_unique exclusive left right holds also (here.trans there.symm)
      exact absurd (same ▸ mem_cons_self) (nodup_cons.mp nodup).1

def jobRuns (aggregate : WorkRunAggregate) (job itemId : String) : List WorkRun :=
  aggregate.runs.filter fun run => run.executionJobId == job && run.workItemId == itemId

theorem earlier_inactive (last : aggregate.runs.Pairwise fun earlier later =>
      earlier.workItemId = later.workItemId → earlier.isActive = false) (job itemId : String) :
    ∀ run ∈ (aggregate.jobRuns job itemId).dropLast, run.isActive = false := by
  have here : ∀ run ∈ aggregate.jobRuns job itemId, run.workItemId = itemId := by
    intro run member
    have chosen := (mem_filter.mp member).2
    simp only [Bool.and_eq_true, beq_iff_eq] at chosen
    exact chosen.2
  have ordered := List.Pairwise.filter
    (fun run : WorkRun => run.executionJobId == job && run.workItemId == itemId) last
  intro run member
  rcases eq_nil_or_concat (aggregate.jobRuns job itemId) with empty | ⟨_, final, shape⟩
  · rw [empty] at member
    cases member
  · rw [shape, concat_eq_append] at here
    rw [shape, concat_eq_append, dropLast_concat] at member
    rw [jobRuns] at shape
    rw [shape, concat_eq_append, pairwise_append] at ordered
    apply ordered.2.2 run member final mem_cons_self
    exact (here run (mem_append_left _ member)).trans
      (here final (mem_append_right _ mem_cons_self)).symm

/-- From an aggregate without runs whose items are neither in progress nor offer a
candidate, every aggregate that a run of operations reaches passes its check. Items and
runs agree in it, the attempts of a job are numbered without a gap, and of the runs of a
job on one item only the last can be active. A call that fails changes nothing, and a run
is appended only for an item whose dependencies are done. -/
theorem work_items_follow_their_runs {aggregate : WorkRunAggregate}
    (validated : aggregate.validate = .ok ()) (fresh : aggregate.runs = [])
    (idle : ∀ item ∈ aggregate.items, item.state ≠ .inProgress ∧ item.state ≠ .candidateReady)
    (operations : List WorkOperation) :
    let work := after TrackedWork.step ⟨aggregate, []⟩ operations
    let reached := work.aggregate
    reached.validate = .ok () ∧
    (∀ item ∈ reached.items, (reached.runsOf item.id (·.isActive)).length ≤ 1 ∧
      (reached.runsOf item.id (·.state = .candidateReady)).length ≤ 1 ∧
      (item.state = .inProgress ↔ ∃ run ∈ reached.runs, run.workItemId = item.id ∧
        run.isActive = true ∧ run.id ∉ work.verifications) ∧
      (item.state = .candidateReady ↔ ∃ run ∈ reached.runs, run.workItemId = item.id ∧
        run.state = .candidateReady)) ∧
    (∀ job, ∃ count, jobAttempts reached.runs job = attemptsUpTo count) ∧
    (∀ job itemId, ∀ run ∈ (reached.jobRuns job itemId).dropLast, run.isActive = false) ∧
    ∀ operation : WorkOperation, (∀ error, (operation.perform reached).2 = .error error →
        (operation.perform reached).1 = reached) ∧
      ∀ run ∈ (operation.perform reached).1.runs, run.id ∉ reached.runs.map (·.id) →
        ∃ item ∈ reached.items, item.id = run.workItemId ∧
          ∀ id ∈ item.dependsOn, ∃ needed ∈ reached.items, needed.id = id ∧
            needed.state = .done := by
  intro work reached
  have sound : Sound work.verifications reached :=
    run_sound (validate_eq_ok.mp validated) fresh idle operations
  have stateOf : ∀ item ∈ reached.items, itemState reached.items item.id = some item.state :=
    fun item member => itemState_of_mem sound.valid.itemIds member
  refine ⟨sound.valid.checked, ?_, sound.counted, earlier_inactive sound.last, ?_⟩
  · intro item member
    refine ⟨runsOf_le_one sound.valid.active sound.valid.runIds item.id,
      runsOf_le_one sound.valid.candidates sound.valid.runIds item.id, ⟨?_, ?_⟩, ?_, ?_⟩
    · intro busy
      exact sound.occupied item.id ((stateOf item member).trans (congrArg some busy))
    · rintro ⟨run, among, here, active, writer⟩
      have known := sound.writing run among active writer
      rw [here, stateOf item member] at known
      exact Option.some.inj known
    · intro offers
      rcases sound.offered item.id ((stateOf item member).trans (congrArg some offers)) with
        ⟨run, among, here, candidate⟩
      exact ⟨run, among, here, of_decide_eq_true candidate⟩
    · rintro ⟨run, among, here, candidate⟩
      have known := sound.offering run among (decide_eq_true candidate)
      rw [here, stateOf item member] at known
      exact Option.some.inj known
  · intro operation
    refine ⟨fun error failed => perform_error sound failed, fun run among new => ?_⟩
    obtain ⟨item, member, here, ready⟩ := perform_gated sound operation run among new
    refine ⟨item, member, here, fun id needs => ?_⟩
    obtain ⟨needed, found, done⟩ := Option.map_eq_some_iff.mp (ready id needs)
    exact ⟨needed, mem_of_find?_eq_some found, find?_key WorkItem.id found, done⟩

/-! Two items that wait for no other. -/

def sampleContract : WorkContract where
  constraints := []
  createdAt := "2026-01-01T00:00:00.000Z"
  criteria := [{
    description := "builds"
    id := "crt_01J00000000000000000000000"
    requiredEvidenceClass := "machine"
    verificationMethod := none }]
  id := "wct_01J00000000000000000000000"
  objective := "build"
  protectedScope := []
  requiredHumanAuthority := "none"
  revision := 1
  scope := []

def sampleItem (id : String) (state : WorkItemState) : WorkItem where
  criterionIds := ["crt_01J00000000000000000000000"]
  dependsOn := []
  goal := "goal"
  id := id
  revision := 1
  state := state
  title := "title"
  workContractId := "wct_01J00000000000000000000000"
  workContractRevision := 1

def sampleWork (state : WorkItemState) : WorkRunAggregate where
  contract := sampleContract
  items := [sampleItem "wit_01J00000000000000000000000" state,
    sampleItem "wit_01J00000000000000000000001" state]
  runs := []

def sampleRun (id itemId : String) (attempt : Int) : WorkRun where
  attempt := attempt
  candidateDigest := none
  codexThreadId := none
  contractRevision := 1
  executionJobId := "job_01J00000000000000000000000"
  fencingToken := "1"
  id := id
  leaseId := "lse_01J00000000000000000000000"
  productSessionId := none
  revision := 1
  state := .leased
  workContractId := "wct_01J00000000000000000000000"
  workItemId := itemId
  workItemRevision := 1
  workerId := "wrk_01J00000000000000000000000"
  workerInstanceId := "wki_01J00000000000000000000000"
  workerSessionId := "wsn_01J00000000000000000000000"

def sampleRuns : List WorkOperation :=
  [.appendRun (sampleRun "wrn_01J00000000000000000000000" "wit_01J00000000000000000000000" 1),
    .appendRun (sampleRun "wrn_01J00000000000000000000001" "wit_01J00000000000000000000001" 2)]

theorem work_items_follow_their_runs_sample : (sampleWork .ready).validate = .ok () ∧
      (after TrackedWork.step ⟨sampleWork .ready, []⟩ sampleRuns).aggregate.validate = .ok () :=
  ⟨by decide +kernel,
    (work_items_follow_their_runs (by decide +kernel) rfl (by decide) sampleRuns).1⟩

/-- Items may start in progress without a run, and the second run of a job may start on
another item while the first is active. -/
theorem job_active_on_two_items :
    ((sampleWork .inProgress).validate = .ok () ∧ (sampleWork .inProgress).runs = [] ∧
      ∃ item ∈ (sampleWork .inProgress).items, item.state = .inProgress) ∧
    (sampleWork .ready).validate = .ok () ∧ (sampleWork .ready).runs = [] ∧
      ((after TrackedWork.step ⟨sampleWork .ready, []⟩ sampleRuns).aggregate.runs.map fun run =>
        (run.executionJobId, run.attempt, run.isActive)) =
        [("job_01J00000000000000000000000", 1, true), ("job_01J00000000000000000000000", 2, true)] :=
  ⟨⟨by decide +kernel, rfl, by decide⟩, by decide +kernel, rfl, by decide +kernel⟩

end WorkRunAggregate

end WinWinCode.Delivery
