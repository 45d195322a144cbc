import Mathlib

/-!
Finite runs of a deterministic component. A component is a function from a
state and an event to the next state; an answering component also returns what
its caller sees. The rules below carry a one-step fact to every run: an
invariant, a reflexive and transitive relation between earlier and later
states, and the lockstep agreement of two components fed the same events.
-/

namespace WinWinCode.Runs

open List

universe u v w x y

section Plain
variable {State : Type u} {Event : Type v} (step : State → Event → State)

def after (state : State) (events : List Event) : State :=
  events.foldl step state

@[simp] theorem after_nil (state : State) : after step state [] = state := rfl

@[simp] theorem after_cons (state : State) (event : Event) (rest : List Event) :
    after step state (event :: rest) = after step (step state event) rest := rfl

theorem after_append (state : State) (early late : List Event) :
    after step state (early ++ late) = after step (after step state early) late := by
  simp [after, foldl_append]

variable {Inv : State → Prop} {state : State}

theorem after_invariant (keeps : ∀ state event, Inv state → Inv (step state event))
    (start : Inv state) (events : List Event) : Inv (after step state events) := by
  induction events generalizing state with
  | nil => exact start
  | cons event _ ih => exact ih (keeps state event start)

theorem after_invariant_of (Allowed : Event → Prop)
    (keeps : ∀ state event, Allowed event → Inv state → Inv (step state event)) (start : Inv state)
    (events : List Event) (allowed : ∀ event ∈ events, Allowed event) :
    Inv (after step state events) := by
  induction events generalizing state with
  | nil => exact start
  | cons event _ ih =>
    apply ih (keeps state event (allowed event mem_cons_self) start)
    exact fun later member => allowed later (mem_cons_of_mem event member)

/-- The invariant of a run together with the events that led to its state. -/
theorem after_history {Inv : List Event → State → Prop} (start : Inv [] state)
    (keeps : ∀ past event, Inv past (after step state past) →
      Inv (past ++ [event]) (step (after step state past) event)) (events : List Event) :
    Inv events (after step state events) := by
  induction events using List.reverseRecOn with
  | nil => exact start
  | append_singleton past event ih =>
    rw [after_append]
    exact keeps past event ih

/-- A run whose every step is allowed in the state it is taken in. -/
def Meets (Allowed : State → Event → Prop) : State → List Event → Prop
  | _, [] => True
  | state, event :: rest => Allowed state event ∧ Meets Allowed (step state event) rest

instance decidableMeets {Allowed : State → Event → Prop}
    [allowed : ∀ state event, Decidable (Allowed state event)] :
    (state : State) → (events : List Event) → Decidable (Meets step Allowed state events)
  | _, [] => inferInstanceAs (Decidable True)
  | state, event :: rest =>
    match allowed state event, decidableMeets (step state event) rest with
    | isTrue here, isTrue later => isTrue ⟨here, later⟩
    | isFalse here, _ => isFalse fun meets => here meets.1
    | _, isFalse later => isFalse fun meets => later meets.2

theorem after_invariant_meets {Allowed : State → Event → Prop}
    (keeps : ∀ state event, Allowed state event → Inv state → Inv (step state event))
    (start : Inv state) (events : List Event) (meets : Meets step Allowed state events) :
    Inv (after step state events) := by
  induction events generalizing state with
  | nil => exact start
  | cons event _ ih => exact ih (keeps state event meets.1 start) meets.2

/-- A preorder that every step moves along relates the ends of every run. The
invariant says from which states the step fact is known. -/
theorem after_related {Rel : State → State → Prop} (refl : ∀ state, Rel state state)
    (trans : ∀ {early middle late}, Rel early middle → Rel middle late → Rel early late)
    (keeps : ∀ state event, Inv state → Inv (step state event))
    (moves : ∀ state event, Inv state → Rel state (step state event)) (start : Inv state)
    (events : List Event) : Rel state (after step state events) := by
  induction events generalizing state with
  | nil => exact refl state
  | cons event _ ih => exact trans (moves state event start) (ih (keeps state event start))

/-- What an observer notes at each step of a run. -/
def log {Note : Type w} (observe : State → Event → Note) : State → List Event → List Note
  | _, [] => []
  | state, event :: rest => observe state event :: log observe (step state event) rest

section Notes
variable {Note : Type w} {observe : State → Event → Note} (Allowed : Event → Prop)
  (keeps : ∀ state event, Allowed event → Inv state → Inv (step state event)) (start : Inv state)
  (events : List Event) (allowed : ∀ event ∈ events, Allowed event)
include keeps start allowed

theorem log_all (Holds : Note → Prop)
    (notes : ∀ state event, Allowed event → Inv state → Holds (observe state event)) :
    ∀ note ∈ log step observe state events, Holds note := by
  induction events generalizing state with
  | nil => exact forall_mem_nil _
  | cons event _ ih =>
    have first := allowed event mem_cons_self
    rw [log, forall_mem_cons]
    constructor
    · exact notes state event first start
    · exact ih (keeps state event first start)
        fun later member => allowed later (mem_cons_of_mem event member)

variable (Since : Note → State → Prop) {Ordered : Note → Note → Prop}
  (stays : ∀ note state event, Allowed event → Inv state → Since note state →
    Since note (step state event))
  (bears : ∀ note state event, Allowed event → Inv state → Since note state →
    Ordered note (observe state event))
include stays bears

/-- What a note leaves behind is kept by every later step and bears on every later note. -/
theorem log_since {note : Note} (since : Since note state) :
    ∀ later ∈ log step observe state events, Ordered note later := by
  have both : ∀ state event, Allowed event → Inv state ∧ Since note state →
      Inv (step state event) ∧ Since note (step state event) := fun state event may holds =>
    ⟨keeps state event may holds.1, stays note state event may holds.1 holds.2⟩
  exact log_all step Allowed both ⟨start, since⟩ events allowed (Ordered note)
    fun state event may holds => bears note state event may holds.1 holds.2

theorem log_pairwise (leaves : ∀ state event, Allowed event → Inv state →
      Since (observe state event) (step state event)) :
    (log step observe state events).Pairwise Ordered := by
  induction events generalizing state with
  | nil => exact List.Pairwise.nil
  | cons event rest ih =>
    have first := allowed event mem_cons_self
    have others : ∀ later ∈ rest, Allowed later :=
      fun later member => allowed later (mem_cons_of_mem event member)
    have next := keeps state event first start
    rw [log, pairwise_cons]
    constructor
    · exact log_since step Allowed keeps next rest others Since stays bears
        (leaves state event first start)
    · exact ih next others

end Notes

end Plain

section Answering
variable {State : Type u} {Event : Type v} {Answer : Type w}

/-- Every answer of a run, each with the state it leaves behind. -/
def trace (handle : State → Event → State × Answer) : State → List Event → List (Answer × State)
  | _, [] => []
  | state, event :: rest =>
    ((handle state event).2, (handle state event).1) ::
      trace handle (handle state event).1 rest

variable {Other : Type x} {Reply : Type y}

/-- Two components that agree on every event from related states, and stay
related, agree along every run. -/
theorem trace_lockstep (handle : State → Event → State × Answer)
    (handle' : Other → Event → Other × Reply)
    {Rel : State → Other → Prop} {Agree : Answer → Reply → Prop}
    (locked : ∀ state other event, Rel state other →
      Agree (handle state event).2 (handle' other event).2 ∧
        Rel (handle state event).1 (handle' other event).1)
    {state : State} {other : Other} (start : Rel state other) (events : List Event) :
    List.Forall₂ (fun left right => Agree left.1 right.1 ∧ Rel left.2 right.2)
      (trace handle state events) (trace handle' other events) := by
  induction events generalizing state other with
  | nil => exact List.Forall₂.nil
  | cons event _ ih =>
    have head := locked state other event start
    exact List.Forall₂.cons head (ih head.2)

end Answering

end WinWinCode.Runs
