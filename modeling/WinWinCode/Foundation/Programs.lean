import Mathlib

/-!
Programs that run several transactions in a row. A program returns its answer or
fails; either way the state it reached stays, because what earlier transactions
committed is not undone by a later failure. `Triple P program Q E` is the
corresponding partial-correctness judgement: from a state satisfying `P`, an
answer leaves `Q` and a failure leaves `E`. `Total P program Q` adds that there
is an answer.
-/

namespace WinWinCode.Programs

universe u v w
variable {State : Type u} {Error : Type v} {α β : Type w}

def Program (State : Type u) (Error : Type v) (α : Type w) :=
  State → State × Except Error α

namespace Program

def pure (value : α) : Program State Error α := fun state => (state, .ok value)

def bind (first : Program State Error α) (next : α → Program State Error β) :
    Program State Error β := fun state =>
  match first state with
  | (reached, .ok value) => next value reached
  | (reached, .error error) => (reached, .error error)

instance : Monad (Program State Error) where
  pure := Program.pure
  bind := Program.bind

def fail (error : Error) : Program State Error α := fun state => (state, .error error)

def lift (value : Except Error α) : Program State Error α := fun state => (state, value)

def inspect (test : State → Except Error α) : Program State Error α := fun state =>
  (state, test state)

def modify (change : State → State) : Program State Error PUnit := fun state =>
  (change state, .ok ⟨⟩)

/-- Work on a copy of the state, which takes its place once all of the work succeeded. -/
def assign (change : State → Except Error State) : Program State Error PUnit := fun state =>
  match change state with
  | .ok next => (next, .ok ⟨⟩)
  | .error error => (state, .error error)

def exec (program : Program State Error α) (state : State) : Except Error State :=
  match program state with
  | (reached, .ok _) => .ok reached
  | (_, .error error) => .error error

/-- `program.map_err(convert)`. -/
def mapError {Other : Type v} (convert : Error → Other) (program : Program State Error α) :
    Program State Other α := fun state =>
  ((program state).1, (program state).2.mapError convert)

theorem pure_bind (value : α) (next : α → Program State Error β) :
    ((Pure.pure value : Program State Error α) >>= next) = next value := rfl

variable {next : α → Program State Error β} {value : Except Error α} {state reached : State}
  {first : Program State Error α}

theorem bind_ok {value : α} (ran : first state = (reached, .ok value)) :
    (first >>= next) state = next value reached := by
  change Program.bind first next state = _
  rw [Program.bind, ran]

theorem bind_error {error : Error} (failed : first state = (reached, .error error)) :
    (first >>= next) state = (reached, .error error) := by
  change Program.bind first next state = _
  rw [Program.bind, failed]

theorem lift_ok {result : α} (passes : value = .ok result) (state : State) :
    (lift value : Program State Error α) state = (state, .ok result) :=
  Prod.ext rfl passes

theorem bind_lift_ok {result : α} (passes : value = .ok result) (state : State) :
    (lift value >>= next) state = next result state :=
  bind_ok (lift_ok passes state)

variable {program : Program State Error α}

theorem mapError_ok {Other : Type v} {convert : Error → Other} {value : α}
    (ran : program state = (reached, .ok value)) :
    program.mapError convert state = (reached, .ok value) := by
  rw [mapError, ran]
  rfl

theorem mapError_error {Other : Type v} {convert : Error → Other} {error : Error}
    (failed : program state = (reached, .error error)) :
    program.mapError convert state = (reached, .error (convert error)) := by
  rw [mapError, failed]
  rfl

theorem exec_eq_ok :
    exec program state = .ok reached ↔ ∃ value, program state = (reached, .ok value) := by
  unfold exec
  cases ran : program state with
  | mk _ result =>
    cases result with
    | ok _ => simp [Prod.ext_iff]
    | error _ => simp

theorem exec_assign (change : State → Except Error State) (state : State) :
    exec (assign change) state = change state := by
  unfold exec assign
  cases change state <;> rfl

/-- Two programs that start with the same check agree where they agree after it. -/
theorem lift_bind_congr {left right : α → Program State Error β}
    (agree : ∀ result, left result state = right result state) :
    (lift value >>= left) state = (lift value >>= right) state := by
  cases value with
  | ok result => exact agree result
  | error _ => rfl

end Program

def Triple (before : State → Prop) (program : Program State Error α)
    (after : α → State → Prop) (failed : State → Prop) : Prop :=
  ∀ state, before state →
    match program state with
    | (reached, .ok value) => after value reached
    | (reached, .error _) => failed reached

variable {holds : State → Prop}

section Rules
variable {before failed : State → Prop} {after : α → State → Prop} {program : Program State Error α}

theorem triple_pure {value : α} (holds : ∀ state, before state → after value state) :
    Triple before (Pure.pure value : Program State Error α) after failed :=
  fun state start => holds state start

theorem triple_fail {error : Error} (holds : ∀ state, before state → failed state) :
    Triple before (Program.fail error : Program State Error α) after failed :=
  fun state start => holds state start

variable {value : Except Error α}

theorem triple_lift
    (succeeds : ∀ result, value = .ok result → ∀ state, before state → after result state)
    (fails : ∀ state, before state → failed state) :
    Triple before (Program.lift value : Program State Error α) after failed := by
  intro state start
  cases value with
  | ok result => exact succeeds result rfl state start
  | error _ => exact fails state start

theorem keeps_lift :
    Triple before (Program.lift value : Program State Error α) (fun _ => before) before :=
  triple_lift (fun _ _ _ start => start) (fun _ start => start)

theorem triple_mapError {Other : Type v} {convert : Error → Other}
    (judged : Triple before program after failed) :
    Triple before (program.mapError convert) after failed := by
  intro state start
  have reached := judged state start
  unfold Program.mapError
  rcases outcome : program state with ⟨_, _ | _⟩ <;> rw [outcome] at reached
  · exact reached
  · exact reached

variable {next : α → Program State Error β}

theorem triple_bind {first : Program State Error α} {middle : α → State → Prop}
    {after : β → State → Prop} (head : Triple before first middle failed)
    (tail : ∀ value, Triple (middle value) (next value) after failed) :
    Triple before (first >>= next) after failed := by
  intro state start
  have reached := head state start
  change match Program.bind first next state with
    | (reached, .ok value) => after value reached
    | (reached, .error _) => failed reached
  unfold Program.bind
  rcases outcome : first state with ⟨stop, _ | value⟩ <;> rw [outcome] at reached
  · exact reached
  · exact tail value stop reached

/-- A fact that the states do not bear on is settled before the program runs. -/
theorem triple_given {given : Prop} (judged : given → Triple before program after failed) :
    Triple (given ∧ before ·) program after failed :=
  fun state start => judged start.1 state start.2

theorem triple_passed {after : β → State → Prop} (fails : ∀ state, before state → failed state)
    (tail : ∀ result, value = .ok result → Triple before (next result) after failed) :
    Triple before (Program.lift value >>= next) after failed :=
  triple_bind (triple_lift (fun _ done _ start => ⟨done, start⟩) fails)
    fun result => triple_given (tail result)

theorem triple_checked {after : β → State → Prop}
    (tail : ∀ result, value = .ok result → Triple before (next result) after before) :
    Triple before (Program.lift value >>= next) after before :=
  triple_passed (fun _ start => start) tail

theorem Triple.of_ok (judged : Triple before program after failed) {state reached : State}
    {value : α} (start : before state) (ran : program state = (reached, .ok value)) :
    after value reached := by
  have holds := judged state start
  rwa [ran] at holds

theorem triple_reaches : Triple before program (fun _ => holds) holds ↔
      ∀ state, before state → holds (program state).1 := by
  refine forall₂_congr fun state _ => ?_
  rcases program state with ⟨_, _ | _⟩ <;> exact Iff.rfl

theorem Triple.reached (judged : Triple before program (fun _ => holds) holds) {state : State}
    (start : before state) : holds (program state).1 :=
  triple_reaches.mp judged state start

/-- What holds where the first program ends, and is kept by the second, holds at the
end of both. -/
theorem Triple.reached_bind {first : Program State Error α} {next : α → Program State Error β}
    (holds : State → Prop) {state : State} (start : holds (first state).1)
    (keeps : ∀ value, Triple holds (next value) (fun _ => holds) holds) :
    holds ((first >>= next) state).1 := by
  have head : Triple (· = state) first (fun _ => holds) holds := by
    rw [triple_reaches]
    rintro _ rfl
    exact start
  exact Triple.reached (triple_bind head keeps) rfl

theorem triple_pre {stronger : State → Prop} (judged : Triple before program after failed)
    (pre : ∀ state, stronger state → before state) : Triple stronger program after failed :=
  fun state start => judged state (pre state start)

theorem triple_mono {middle : α → State → Prop} {failed' : State → Prop}
    (judged : Triple before program middle failed')
    (post : ∀ value state, middle value state → after value state)
    (fails : ∀ state, failed' state → failed state) : Triple before program after failed := by
  intro state start
  have reached := judged state start
  rcases outcome : program state with ⟨stop, _ | value⟩ <;> rw [outcome] at reached
  · exact fails stop reached
  · exact post value stop reached

end Rules

/-! Running a program from one known state. -/

section Known
variable {state : State} {failed : State → Prop} {next : α → Program State Error β}
  {after : β → State → Prop} {test : State → Except Error α}

theorem run_inspect (stays : failed state)
    (tail : ∀ value, test state = .ok value → Triple (· = state) (next value) after failed) :
    Triple (· = state) (Program.inspect test >>= next) after failed := by
  intro start same
  cases known : test state with
  | ok value =>
    have ran : Program.inspect test start = (start, .ok value) := by
      rw [same, Program.inspect, known]
    rw [Program.bind_ok ran]
    exact tail value known start same
  | error error =>
    have ran : Program.inspect test start = (start, .error error) := by
      rw [same, Program.inspect, known]
    rw [Program.bind_error ran]
    exact same ▸ stays

theorem run_lift {value : Except Error α} (stays : failed state)
    (tail : ∀ result, value = .ok result → Triple (· = state) (next result) after failed) :
    Triple (· = state) (Program.lift value >>= next) after failed :=
  run_inspect stays tail

theorem run_passing {value : α} {after : α → State → Prop} (passes : test state = .ok value)
    (holds : after value state) : Triple (· = state) (Program.inspect test) after failed := by
  intro _ same
  rw [same, Program.inspect, passes]
  exact holds

theorem run_modify {change : State → State} {after : PUnit → State → Prop}
    (holds : after ⟨⟩ (change state)) :
    Triple (· = state) (Program.modify change : Program State Error PUnit) after failed := by
  rintro _ rfl
  exact holds

theorem run_change {change : State → State} {next : PUnit → Program State Error β}
    (tail : Triple (· = change state) (next ⟨⟩) after failed) :
    Triple (· = state) (Program.modify change >>= next) after failed := by
  intro _ same
  rw [same, Program.bind_ok (rfl : Program.modify change state = (change state, .ok ⟨⟩))]
  exact tail (change state) rfl

theorem run_assign {change : State → Except Error State} {after : PUnit → State → Prop}
    (stays : failed state) (holds : ∀ next, change state = .ok next → after ⟨⟩ next) :
    Triple (· = state) (Program.assign change) after failed := by
  intro _ same
  rw [same, Program.assign]
  cases known : change state with
  | ok next => exact holds next known
  | error _ => exact stays

theorem run_bind {first : Program State Error α} {middle : α → State → Prop}
    (head : Triple (· = state) first middle failed) (tail : ∀ value reached, middle value reached →
      Triple (· = reached) (next value) after failed) :
    Triple (· = state) (first >>= next) after failed :=
  triple_bind head fun value reached between => tail value reached between reached rfl

end Known

/-- Total correctness: from a state satisfying `before` the program answers and leaves
`after`. -/
def Total (before : State → Prop) (program : Program State Error α)
    (after : α → State → Prop) : Prop :=
  ∀ state, before state → ∃ reached value, program state = (reached, .ok value) ∧
    after value reached

section
variable {before : State → Prop} {program : Program State Error α} {after : α → State → Prop}

theorem Triple.total {failed : State → Prop} (judged : Triple before program after failed)
    (answers : ∀ state, before state → ∃ value, (program state).2 = .ok value) :
    Total before program after := by
  intro state start
  obtain ⟨value, answered⟩ := answers state start
  have ran : program state = ((program state).1, .ok value) := Prod.ext rfl answered
  exact ⟨_, value, ran, judged.of_ok start ran⟩

theorem total_pure {value : α} (holds : ∀ state, before state → after value state) :
    Total before (Pure.pure value : Program State Error α) after :=
  fun state start => ⟨state, value, rfl, holds state start⟩

variable {next : α → Program State Error β}

theorem total_checked {value : Except Error α} {result : α} {after : β → State → Prop}
    (passes : value = .ok result) (tail : Total before (next result) after) :
    Total before (Program.lift value >>= next) after := by
  subst passes
  exact tail

theorem total_mapError {Other : Type v} {convert : Error → Other}
    (judged : Total before program after) : Total before (program.mapError convert) after := by
  intro state start
  obtain ⟨reached, value, ran, holds⟩ := judged state start
  exact ⟨reached, value, Program.mapError_ok ran, holds⟩

theorem total_bind {first : Program State Error α} {middle : α → State → Prop}
    {after : β → State → Prop} (head : Total before first middle)
    (tail : ∀ value, Total (middle value) (next value) after) :
    Total before (first >>= next) after := by
  intro state start
  obtain ⟨stop, value, ran, between⟩ := head state start
  obtain ⟨reached, result, finished, holds⟩ := tail value stop between
  exact ⟨reached, result, (Program.bind_ok ran).trans finished, holds⟩

theorem total_given {given : Prop} (judged : given → Total before program after) :
    Total (given ∧ before ·) program after :=
  fun state start => judged start.1 state start.2

end

end WinWinCode.Programs
