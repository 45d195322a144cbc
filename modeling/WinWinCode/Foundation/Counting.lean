import Mathlib

/-!
Checked 64-bit counting and consecutively numbered lists. A list is numbered
from `first` when its items carry `first`, `first + 1`, and so on; the number of
an item is then its position, and cutting the list by number is cutting it by
position.
-/

namespace WinWinCode.Counting

open List

/-- One more than the largest unsigned 64-bit value. -/
def wordLimit : Nat := 18446744073709551616

def checkedAdd (left right : Nat) : Option Nat :=
  if left + right < wordLimit then some (left + right) else none

def saturatingAdd (left right : Nat) : Nat :=
  min (left + right) (wordLimit - 1)

theorem checkedAdd_eq_some {left right sum : Nat} :
    checkedAdd left right = some sum ↔ left + right < wordLimit ∧ sum = left + right := by
  unfold checkedAdd
  by_cases fits : left + right < wordLimit
  · simp [fits, eq_comm]
  · simp [fits]

universe u
variable {Item : Type u} (number : Item → Nat)

def Numbered : Nat → List Item → Prop
  | _, [] => True
  | first, item :: rest => number item = first ∧ Numbered (first + 1) rest

theorem numbered_append (first : Nat) (left right : List Item) :
    Numbered number first (left ++ right) ↔
      Numbered number first left ∧ Numbered number (first + left.length) right := by
  induction left generalizing first with
  | nil => simp [Numbered]
  | cons _ rest ih =>
    simp only [cons_append, Numbered, ih, length_cons, and_assoc]
    rw [show first + 1 + rest.length = first + (rest.length + 1) by omega]

variable {first : Nat} {items : List Item}

section
variable (numbered : Numbered number first items)
include numbered

theorem numbered_concat {item : Item} (next : number item = first + items.length) :
    Numbered number first (items ++ [item]) := by
  rw [numbered_append]
  exact ⟨numbered, next, trivial⟩

theorem numbered_drop (count : Nat) : Numbered number (first + count) (items.drop count) := by
  induction count generalizing first items with
  | zero => simpa using numbered
  | succ count ih =>
    cases items with
    | nil => simp [Numbered]
    | cons _ _ =>
      have tail := ih numbered.2
      rwa [show first + 1 + count = first + (count + 1) by omega] at tail

theorem numbered_take (count : Nat) : Numbered number first (items.take count) := by
  have whole := numbered
  rw [← take_append_drop count items, numbered_append] at whole
  exact whole.1

theorem numbered_map : items.map number = List.range' first items.length := by
  induction items generalizing first with
  | nil => rfl
  | cons _ _ ih => simp [range'_succ, numbered.1, ih numbered.2]

end

theorem numbered_comp {Other : Type u} (decode : Other → Item) {items : List Other} :
    Numbered number first (items.map decode) ↔ Numbered (fun item => number (decode item)) first items := by
  induction items generalizing first with
  | nil => exact Iff.rfl
  | cons _ _ ih => exact and_congr Iff.rfl ih

section
variable (numbered : Numbered number first items)
include numbered

theorem numbered_position {item : Item} (member : item ∈ items) :
    ∃ position, number item = first + position ∧ items[position]? = some item := by
  induction items generalizing first with
  | nil => simp at member
  | cons _ _ ih =>
    rcases mem_cons.mp member with same | tail
    · exact ⟨0, by rw [same, numbered.1, add_zero], by simp [same]⟩
    · obtain ⟨position, _, found⟩ := ih numbered.2 tail
      exact ⟨position + 1, by omega, by simpa using found⟩

/-- The items numbered above `cut` are the ones after the first `cut + 1 - first`
positions. -/
theorem numbered_filter_above (cut : Nat) :
    items.filter (cut < number ·) = items.drop (cut + 1 - first) := by
  induction items generalizing first with
  | nil => simp
  | cons _ _ ih =>
    rw [filter_cons, ih numbered.2, numbered.1]
    by_cases above : cut < first
    · simp only [above, decide_true, if_true]
      rw [show cut + 1 - (first + 1) = 0 by omega, show cut + 1 - first = 0 by omega]
      rfl
    · simp only [above, decide_false, Bool.false_eq_true, if_false]
      rw [show cut + 1 - first = (cut + 1 - (first + 1)) + 1 by omega, drop_succ_cons]

theorem numbered_highest (base : Nat) :
    items.foldl (fun highest item => max highest (number item)) base =
      if items = [] then base else max base (first + items.length - 1) := by
  induction items generalizing first base with
  | nil => rfl
  | cons _ rest ih =>
    rw [foldl_cons, ih numbered.2, numbered.1]
    cases rest with
    | nil => simp
    | cons _ _ =>
      simp only [reduceCtorEq, if_false, length_cons]
      omega

theorem numbered_getLast? {last : Item} (found : items.getLast? = some last) :
    number last + 1 = first + items.length := by
  obtain ⟨front, rfl⟩ := getLast?_eq_some_iff.mp found
  have tail := (numbered_append number first front [last]).mp numbered
  rw [tail.2.1, length_append, length_singleton]
  omega

theorem numbered_injective {left right : Item} (leftIn : left ∈ items) (rightIn : right ∈ items)
    (same : number left = number right) : left = right := by
  have distinct : (items.map number).Nodup := numbered_map number numbered ▸ nodup_range' ..
  exact inj_on_of_nodup_map distinct leftIn rightIn same

theorem numbered_sorted : items.Pairwise fun left right => number left ≤ number right := by
  rw [← pairwise_map (R := (· ≤ ·)), numbered_map number numbered]
  exact pairwise_le_range'

end

theorem le_foldl_max {start value : Nat} {values : List Nat} (among : value ≤ start ∨ value ∈ values) :
    value ≤ values.foldl max start := by
  have largest : ∀ other ∈ start :: values, other ≤ values.foldl max start :=
    (max?_eq_some_iff.mp max?_cons').2
  rcases among with within | member
  · exact within.trans (largest start mem_cons_self)
  · exact largest value (mem_cons_of_mem _ member)

end WinWinCode.Counting
