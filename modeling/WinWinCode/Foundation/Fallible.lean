import Mathlib

/-!
Fallible operations as `Except` values. An early return on a bad condition is
`refuse`, a missing value is `okOr`, and `commit` runs an operation as one
transaction: a failure answers its error and leaves the state as it was. The
`_eq_ok` lemmas peel a successful computation into the facts its checks
established.
-/

namespace WinWinCode.Fallible

open List

universe u v w
variable {ε : Type u} {α β : Type v}

/-- `if refused { return Err(error) }`. -/
def refuse (refused : Prop) [Decidable refused] (error : ε) : Except ε Unit :=
  if refused then .error error else .ok ()

/-- `value.ok_or(error)?`. -/
def okOr (value : Option α) (error : ε) : Except ε α :=
  match value with
  | some value => .ok value
  | none => .error error

variable {next : α → Except ε β}

theorem bind_eq_ok {value : Except ε α} {result : β} :
    (value >>= next) = .ok result ↔ ∃ input, value = .ok input ∧ next input = .ok result := by
  cases value <;> simp [bind, Except.bind]

theorem pure_eq_ok {value result : α} :
    (pure value : Except ε α) = .ok result ↔ value = result := by
  simp [pure, Except.pure]

theorem map_eq_ok {value : Except ε α} {change : α → β} {result : β} :
    change <$> value = .ok result ↔ ∃ input, value = .ok input ∧ change input = result := by
  cases value <;> simp

variable {error : ε} {refused : Prop}

theorem refuse_eq_ok [Decidable refused] {done : Unit} :
    refuse refused error = .ok done ↔ ¬ refused := by
  unfold refuse
  by_cases bad : refused <;> simp [bad]

variable {value : Option α}

theorem okOr_eq_ok {result : α} : okOr value error = .ok result ↔ value = some result := by
  cases value <;> simp [okOr]

/-- The rules that read a `do` block step by step, as one rewriting rule. -/
theorem eq_ok : (∀ {ε α β : Type} {next : α → Except ε β} {value result},
      (value >>= next) = .ok result ↔ ∃ input, value = .ok input ∧ next input = .ok result) ∧
    (∀ {ε α : Type} {value result : α},
      (pure value : Except ε α) = .ok result ↔ value = result) ∧
    (∀ {ε : Type} {refused} [Decidable refused] {error : ε} {done},
      refuse refused error = .ok done ↔ ¬ refused) ∧
    ∀ {ε α : Type} {value} {error : ε} {result : α},
      okOr value error = .ok result ↔ value = some result :=
  ⟨bind_eq_ok, pure_eq_ok, refuse_eq_ok, okOr_eq_ok⟩

/-- One check of a `do` block peeled off. -/
theorem refuse_bind_eq_ok {γ : Type} [Decidable refused] {next : Unit → Except ε γ} {result : γ} :
    (refuse refused error >>= next) = .ok result ↔ ¬ refused ∧ next () = .ok result := by
  rw [bind_eq_ok]
  constructor
  · rintro ⟨⟨⟩, passed, rest⟩
    exact ⟨refuse_eq_ok.mp passed, rest⟩
  · rintro ⟨passed, rest⟩
    exact ⟨(), refuse_eq_ok.mpr passed, rest⟩

theorem refuse_bind_of_not {γ : Type} [Decidable refused] {next : Unit → Except ε γ}
    (passes : ¬ refused) : (refuse refused error >>= next) = next () := by
  rw [refuse, if_neg passes]
  rfl

theorem okOr_bind_of_some {input : α} (found : value = some input) :
    (okOr value error >>= next) = next input := by
  rw [found]
  rfl

theorem okOr_bind_eq_ok {result : β} :
    (okOr value error >>= next) = .ok result ↔ ∃ input, value = some input ∧
      next input = .ok result := by
  simp only [bind_eq_ok, okOr_eq_ok]

theorem mapError_eq_ok {ε' : Type w} {convert : ε → ε'} {value : Except ε α} {result : α} :
    value.mapError convert = .ok result ↔ value = .ok result := by
  cases value <;> simp [Except.mapError]

variable {Item : Type}

theorem forM_eq_ok {check : Item → Except ε PUnit} {items : List Item} {done : PUnit} :
    items.forM check = .ok done ↔ ∀ item ∈ items, check item = .ok ⟨⟩ := by
  induction items with
  | nil => simp [pure, Except.pure]
  | cons item rest ih =>
    rw [forall_mem_cons, ← ih]
    change (check item >>= fun _ => rest.forM check) = .ok done ↔ _
    rw [bind_eq_ok]
    exact ⟨fun ⟨_, passed, others⟩ => ⟨passed, others⟩,
      fun ⟨passed, others⟩ => ⟨⟨⟩, passed, others⟩⟩

variable {step : β → Item → Except ε β}

/-- A fold of fallible steps that each compute a total function computes its fold. -/
theorem foldlM_eq_foldl {total : β → Item → β} {items : List Item}
    (agrees : ∀ item ∈ items, ∀ state next, step state item = .ok next → next = total state item)
    {state final : β} (done : items.foldlM step state = .ok final) :
    final = items.foldl total state := by
  induction items generalizing state with
  | nil => exact (Except.ok.inj done).symm
  | cons item _ ih =>
    rw [foldlM_cons, bind_eq_ok] at done
    obtain ⟨next, first, others⟩ := done
    rw [foldl_cons, ← agrees item mem_cons_self state next first]
    exact ih (fun later member => agrees later (mem_cons_of_mem item member)) others

theorem foldlM_keeps (Inv : β → Prop) {items : List Item}
    (keeps : ∀ item ∈ items, ∀ state next, Inv state → step state item = .ok next → Inv next)
    {state final : β} (before : Inv state) (done : items.foldlM step state = .ok final) :
    Inv final := by
  induction items generalizing state with
  | nil => exact Except.ok.inj done ▸ before
  | cons item _ ih =>
    rw [foldlM_cons, bind_eq_ok] at done
    obtain ⟨next, first, others⟩ := done
    exact ih (fun later member => keeps later (mem_cons_of_mem item member))
      (keeps item mem_cons_self state next before first) others

section
variable {convert : Item → Except ε α} {items : List Item} {results : List α}

theorem exists_of_forall₂ {Left : Type u} {Right : Type v} {Related : Left → Right → Prop}
    {lefts : List Left} {rights : List Right} (related : List.Forall₂ Related lefts rights) :
    ∀ left ∈ lefts, ∃ right ∈ rights, Related left right := by
  induction related with
  | nil => exact forall_mem_nil _
  | cons first _ ih =>
    rw [forall_mem_cons]
    refine ⟨⟨_, mem_cons_self, first⟩, fun left member => ?_⟩
    obtain ⟨right, present, known⟩ := ih left member
    exact ⟨right, mem_cons_of_mem _ present, known⟩

section
variable (done : items.mapM convert = .ok results)
include done

theorem forall₂_of_mapM :
    List.Forall₂ (fun item result => convert item = .ok result) items results := by
  induction items generalizing results with
  | nil =>
    cases done
    exact .nil
  | cons _ _ ih =>
    simp only [mapM_cons, bind_eq_ok, pure_eq_ok] at done
    obtain ⟨_, converted, _, mapped, rfl⟩ := done
    exact .cons converted (ih mapped)

theorem exists_of_mapM : ∀ item ∈ items, ∃ result ∈ results, convert item = .ok result :=
  exists_of_forall₂ (forall₂_of_mapM done)

theorem mem_of_mapM : ∀ result ∈ results, ∃ item ∈ items, convert item = .ok result :=
  exists_of_forall₂ (forall₂_of_mapM done).flip

theorem map_of_mapM {γ : Type*} {read : α → γ} {shown : Item → γ}
    (agrees : ∀ item result, convert item = .ok result → read result = shown item) :
    results.map read = items.map shown := by
  have related := forall₂_of_mapM done
  clear done
  induction related with
  | nil => rfl
  | cons converted _ ih => rw [map_cons, map_cons, agrees _ _ converted, ih]

end

theorem mapM_total (converts : ∀ item ∈ items, ∃ result, convert item = .ok result) :
    ∃ results, items.mapM convert = .ok results := by
  induction items with
  | nil => exact ⟨[], rfl⟩
  | cons item _ ih =>
    obtain ⟨first, converted⟩ := converts item mem_cons_self
    rcases ih fun later member => converts later (mem_cons_of_mem item member) with
      ⟨results, mapped⟩
    refine ⟨first :: results, ?_⟩
    rw [mapM_cons, converted, mapped]
    rfl

end

/-- One step of a cascade of refusals that found no reason to refuse. -/
theorem ite_some_eq_none [Decidable refused] {reason : α} {rest : Option α} :
    (if refused then some reason else rest) = none ↔ ¬ refused ∧ rest = none := by
  by_cases given : refused <;> simp [given]

section Commit
variable {State Answer : Type v}

def commit (state : State) (result : Except ε (State × Answer)) : State × Except ε Answer :=
  match result with
  | .ok (next, answer) => (next, .ok answer)
  | .error error => (state, .error error)

/-- A property of states survives a transaction when it survives its success. -/
theorem commit_keeps {Inv : State → Prop} {state : State}
    {result : Except ε (State × Answer)} (before : Inv state)
    (succeeds : ∀ next answer, result = .ok (next, answer) → Inv next) :
    Inv (commit state result).1 := by
  cases result with
  | error _ => exact before
  | ok success => exact succeeds success.1 success.2 rfl

end Commit

end WinWinCode.Fallible
