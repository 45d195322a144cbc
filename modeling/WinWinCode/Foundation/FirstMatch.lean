import Mathlib

/-!
Changing the first matching item of a list in place. The change is described by the
split of the list at that item; what the change keeps (a key, a relation between any
two items) is then a fact about one item.
-/

namespace WinWinCode.FirstMatch

open List

universe u v
variable {Item : Type u}

/-- `items.iter_mut().find(selected)` followed by an assignment. -/
def update (selected : Item → Bool) (change : Item → Item) : List Item → List Item
  | [] => []
  | item :: rest =>
    if selected item then change item :: rest else item :: update selected change rest

variable {selected : Item → Bool} {change : Item → Item} {items : List Item} {Key : Type v}

theorem update_eq_self (change : Item → Item) (missing : items.find? selected = none) :
    update selected change items = items := by
  induction items with
  | nil => rfl
  | cons item _ ih =>
    rw [find?_cons] at missing
    cases chosen : selected item with
    | true => simp [chosen] at missing
    | false =>
      rw [chosen] at missing
      rw [update, chosen, if_neg Bool.false_ne_true, ih missing]

variable {item : Item}

theorem update_split (change : Item → Item) (found : items.find? selected = some item) :
    ∃ before after, items = before ++ item :: after ∧
      update selected change items = before ++ change item :: after := by
  induction items with
  | nil => cases found
  | cons first rest ih =>
    rw [find?_cons] at found
    cases chosen : selected first with
    | true =>
      rw [chosen] at found
      cases found
      exact ⟨[], rest, rfl, by rw [update, if_pos chosen, nil_append]⟩
    | false =>
      rw [chosen] at found
      obtain ⟨before, after, split, changed⟩ := ih found
      refine ⟨first :: before, after, by rw [split, cons_append], ?_⟩
      rw [update, if_neg (by simp [chosen]), changed, cons_append]

section
variable (found : items.find? selected = some item)
include found

theorem mem_update {member : Item} (among : member ∈ update selected change items) :
    member = change item ∨ member ∈ items := by
  obtain ⟨_, _, split, changed⟩ := update_split change found
  rw [changed] at among
  rw [split]
  simp only [mem_append, mem_cons] at among ⊢
  rcases among with early | here | late
  · exact .inr (Or.inl early)
  · exact .inl here
  · exact .inr (Or.inr (Or.inr late))

theorem mem_update_of_ne {member : Item} (among : member ∈ items) (other : member ≠ item) :
    member ∈ update selected change items := by
  obtain ⟨_, _, split, changed⟩ := update_split change found
  rw [split] at among
  rw [changed]
  simp only [mem_append, mem_cons] at among ⊢
  rcases among with early | here | late
  · exact .inl early
  · exact absurd here other
  · exact .inr (Or.inr late)

theorem changed_mem_update : change item ∈ update selected change items := by
  obtain ⟨_, _, _, changed⟩ := update_split change found
  rw [changed]
  exact mem_append_right _ mem_cons_self

end

variable (key : Item → Key)

theorem find?_update [DecidableEq Key] (chosen wanted : Key) (change : Item → Item)
    (kept : ∀ item, key (change item) = key item) (items : List Item) :
    (update (key · == chosen) change items).find? (key · == wanted) =
      if wanted = chosen then (items.find? (key · == wanted)).map change
      else items.find? (key · == wanted) := by
  induction items with
  | nil =>
    rw [update]
    split <;> rfl
  | cons item _ ih =>
    by_cases here : key item = chosen
    · rw [update, if_pos (beq_iff_eq.mpr here), find?_cons, find?_cons, kept]
      by_cases same : wanted = chosen
      · simp [same, here]
      · have other : (chosen == wanted) = false := beq_false_of_ne (Ne.symm same)
        simp [same, here, other]
    · rw [update, if_neg (by simp [here]), find?_cons, find?_cons, ih]
      by_cases same : wanted = chosen
      · have other : (key item == chosen) = false := beq_false_of_ne here
        simp [same, other]
      · simp [same]

theorem update_update (first second : Item → Item)
    (stays : ∀ item, selected (first item) = selected item) (items : List Item) :
    update selected second (update selected first items) =
      update selected (second ∘ first) items := by
  induction items with
  | nil => rfl
  | cons item _ ih =>
    cases chosen : selected item with
    | true => simp [update, chosen, stays]
    | false => simp [update, chosen, ih]

variable {key : Item → Key}

theorem map_update (change : Item → Item) (kept : ∀ item, key (change item) = key item)
    (items : List Item) : (update selected change items).map key = items.map key := by
  induction items with
  | nil => rfl
  | cons _ _ ih =>
    rw [update]
    split
    · rw [map_cons, map_cons, kept]
    · rw [map_cons, map_cons, ih]

theorem map_filter_update {keep : Item → Bool} (change : Item → Item)
    (kept : ∀ item, key (change item) = key item) (stays : ∀ item, keep (change item) = keep item)
    (items : List Item) :
    ((update selected change items).filter keep).map key = (items.filter keep).map key := by
  induction items with
  | nil => rfl
  | cons _ _ ih =>
    rw [update]
    split
    · rw [filter_cons, filter_cons, stays]
      split
      · rw [map_cons, map_cons, kept]
      · rfl
    · rw [filter_cons, filter_cons]
      split
      · rw [map_cons, map_cons, ih]
      · exact ih

variable (key)

theorem find?_of_mem [DecidableEq Key] (distinct : (items.map key).Nodup) (member : item ∈ items) :
    items.find? (key · == key item) = some item := by
  induction items with
  | nil => cases member
  | cons first _ ih =>
    rw [map_cons, nodup_cons] at distinct
    rw [find?_cons]
    rcases mem_cons.mp member with rfl | later
    · rw [beq_self_eq_true]
    · have other : key first ≠ key item := fun same => distinct.1 (same ▸ mem_map_of_mem later)
      rw [beq_false_of_ne other]
      exact ih distinct.2 later

theorem find?_key [DecidableEq Key] {wanted : Key}
    (found : items.find? (key · == wanted) = some item) : key item = wanted := by
  have chosen := find?_some found
  exact beq_iff_eq.mp chosen

/-- A relation between any two items stays when the changed item is no stricter than
the original was. -/
theorem pairwise_update {Rel : Item → Item → Prop} (found : items.find? selected = some item)
    (left : ∀ other ∈ items, Rel item other → Rel (change item) other)
    (right : ∀ other ∈ items, Rel other item → Rel other (change item))
    (related : items.Pairwise Rel) : (update selected change items).Pairwise Rel := by
  obtain ⟨before, after, split, changed⟩ := update_split change found
  subst split
  rw [changed]
  simp only [pairwise_append, pairwise_cons, forall_mem_cons] at related ⊢
  obtain ⟨early, ⟨here, late⟩, across⟩ := related
  refine ⟨early, ⟨fun other member => ?_, late⟩, fun other member => ⟨?_, (across other member).2⟩⟩
  · exact left other (by simp [member]) (here other member)
  · exact right other (by simp [member]) (across other member).1

end WinWinCode.FirstMatch
