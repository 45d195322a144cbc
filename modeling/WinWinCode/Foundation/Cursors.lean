import Mathlib

/-!
Lists read in portions. A cursor is the key of the last item that was read; a portion
is a prefix of the wanted items after it. A cursor that names no item reads from the
start.
-/

namespace WinWinCode.Cursors

open List

universe u v w
variable {Item : Type u} {Key : Type v} [DecidableEq Key] (key : Item → Key)

/-- The items after the one that the cursor names. -/
def after (cursor : Option Key) (items : List Item) : List Item :=
  match cursor with
  | none => items
  | some found =>
    if found ∈ items.map key then (items.dropWhile (key · ≠ found)).drop 1 else items

@[simp] theorem after_none (items : List Item) : after key none items = items := rfl

variable {rest : List Item} {item : Item}

theorem dropWhile_of_split {read : List Item} (fresh : key item ∉ read.map key) :
    (read ++ item :: rest).dropWhile (key · ≠ key item) = item :: rest := by
  have passes : ∀ other ∈ read, decide (key other ≠ key item) = true := by
    intro other member
    exact decide_eq_true fun same => fresh (same ▸ mem_map_of_mem member)
  rw [dropWhile_append_of_pos passes]
  simp

theorem after_of_split {read : List Item} (fresh : key item ∉ read.map key) :
    after key (some (key item)) (read ++ item :: rest) = rest := by
  simp only [after]
  rw [if_pos (by simp), dropWhile_of_split key fresh]
  rfl

variable {items : List Item}

omit [DecidableEq Key] in
theorem split_of_mem {found : Key} (member : found ∈ items.map key) :
    ∃ read item rest, items = read ++ item :: rest ∧ key item = found ∧
      key item ∉ read.map key := by
  obtain ⟨_, _, split, fresh⟩ := eq_append_cons_of_mem member
  obtain ⟨read, _, rfl, rfl, tail⟩ := map_eq_append_iff.mp split
  obtain ⟨item, rest, rfl, rfl, _⟩ := map_eq_cons_iff.mp tail
  exact ⟨read, item, rest, rfl, rfl, fresh⟩

theorem after_suffix (cursor : Option Key) (items : List Item) :
    ∃ read, items = read ++ after key cursor items := by
  cases cursor with
  | none => exact ⟨[], rfl⟩
  | some found =>
    by_cases member : found ∈ items.map key
    · obtain ⟨read, item, _, rfl, rfl, fresh⟩ := split_of_mem key member
      rw [after_of_split key fresh]
      exact ⟨read ++ [item], by simp⟩
    · exact ⟨[], by simp [after, member]⟩

variable {cursor : Option Key}

theorem after_append (named : ∀ found, cursor = some found → found ∈ items.map key)
    (more : List Item) : after key cursor (items ++ more) = after key cursor items ++ more := by
  cases cursor with
  | none => rfl
  | some found =>
    obtain ⟨_, _, _, rfl, rfl, fresh⟩ := split_of_mem key (named found rfl)
    rw [after_of_split key fresh, append_assoc, cons_append, after_of_split key fresh]

theorem after_map {Other : Type w} {otherKey : Other → Key} {change : Item → Other}
    (same : ∀ item, otherKey (change item) = key item) (cursor : Option Key) (items : List Item) :
    after otherKey cursor (items.map change) = (after key cursor items).map change := by
  have keys (some_items : List Item) :
      (some_items.map change).map otherKey = some_items.map key := by
    simp [Function.comp_def, same]
  cases cursor with
  | none => rfl
  | some found =>
    by_cases member : found ∈ items.map key
    · obtain ⟨_, item, _, rfl, rfl, fresh⟩ := split_of_mem key member
      rw [after_of_split key fresh, map_append, map_cons, ← same item]
      exact after_of_split otherKey (by rw [keys, same]; exact fresh)
    · simp only [after, keys, member, if_false]

/-- The first of the wanted items after the cursor: what lies between is not wanted, and
the cursor set to it reads the rest. -/
theorem after_next {wanted : Item → Bool} (distinct : (items.map key).Nodup)
    (next : (after key cursor items).filter wanted = item :: rest) :
    ∃ read skipped, items = read ++ after key cursor items ∧
      items = (read ++ skipped ++ [item]) ++ after key (some (key item)) items ∧
      (∀ unwanted ∈ skipped, wanted unwanted = false) ∧
      (after key (some (key item)) items).filter wanted = rest := by
  obtain ⟨read, split⟩ := after_suffix key cursor items
  obtain ⟨skipped, more, between, unwanted, _, tail⟩ := filter_eq_cons_iff.mp next
  have whole : items = (read ++ skipped) ++ item :: more := by
    rw [append_assoc, ← between]
    exact split
  have fresh : key item ∉ (read ++ skipped).map key := by
    rw [whole, map_append, map_cons] at distinct
    have apart := (nodup_append.mp distinct).2.2
    intro member
    exact apart (key item) member (key item) mem_cons_self rfl
  have reads : after key (some (key item)) items = more := by
    rw [whole]
    exact after_of_split key fresh
  refine ⟨read, skipped, split, ?_, ?_, ?_⟩
  · rw [reads]
    simpa using whole
  · intro other member
    simpa using unwanted other member
  · rw [reads]
    exact tail

end WinWinCode.Cursors
