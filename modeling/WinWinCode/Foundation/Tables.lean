import Mathlib

/-!
Tables with uniqueness constraints. `Clash` says which two rows the constraints
forbid side by side: equal primary keys, equal unique columns, or a partial
index. A table carries the proof that no two of its rows clash, so a duplicate
key cannot be represented. Rows stand in insertion order.
-/

namespace WinWinCode.Tables

open List

universe u

section Concat
variable {Item : Type u} {items : List Item} {last : Item}

theorem forall_mem_concat {Holds : Item → Prop} (early : ∀ item ∈ items, Holds item)
    (late : Holds last) : ∀ item ∈ items ++ [last], Holds item := by
  intro item member
  rcases mem_append.mp member with old | new
  · exact early item old
  · rw [mem_singleton.mp new]
    exact late

theorem pairwise_concat {Rel : Item → Item → Prop} (early : items.Pairwise Rel)
    (late : ∀ item ∈ items, Rel item last) : (items ++ [last]).Pairwise Rel := by
  rw [pairwise_append]
  refine ⟨early, pairwise_singleton _ _, ?_⟩
  intro item member _ same
  rw [mem_singleton.mp same]
  exact late item member

end Concat

structure Table (Row : Type u) (Clash : Row → Row → Prop) where
  rows : List Row
  distinct : rows.Pairwise fun earlier later => ¬ Clash earlier later

namespace Table

variable {Row : Type u} {Clash : Row → Row → Prop}

def empty : Table Row Clash := ⟨[], List.Pairwise.nil⟩

/-- `SELECT ... WHERE selected`, for a selection on a unique key. -/
def find (table : Table Row Clash) (selected : Row → Bool) : Option Row :=
  table.rows.find? selected

theorem distinct_concat (table : Table Row Clash) (row : Row)
    (free : ¬ ∃ kept ∈ table.rows, Clash kept row) :
    (table.rows ++ [row]).Pairwise fun earlier later => ¬ Clash earlier later := by
  apply pairwise_concat table.distinct
  exact fun kept member clash => free ⟨kept, member, clash⟩

variable {table next : Table Row Clash} {row : Row}

section Insertion
variable [DecidableRel Clash]

/-- `INSERT`, which fails when a constraint is violated. -/
def insert (table : Table Row Clash) (row : Row) : Option (Table Row Clash) :=
  if free : ¬ ∃ kept ∈ table.rows, Clash kept row then
    some ⟨table.rows ++ [row], distinct_concat table row free⟩
  else none

/-- `INSERT OR IGNORE`. -/
def insertOrIgnore (table : Table Row Clash) (row : Row) : Table Row Clash :=
  (table.insert row).getD table

theorem insert_eq_some : table.insert row = some next ↔
      (¬ ∃ kept ∈ table.rows, Clash kept row) ∧ next.rows = table.rows ++ [row] := by
  unfold insert
  by_cases free : ¬ ∃ kept ∈ table.rows, Clash kept row
  · rw [dif_pos free]
    constructor
    · intro same
      exact ⟨free, by rw [← Option.some.inj same]⟩
    · rintro ⟨_, rows⟩
      cases next
      simp only at rows
      subst rows
      rfl
  · rw [dif_neg free]
    simp [free]

theorem insertOrIgnore_rows (table : Table Row Clash) (row : Row) :
    (table.insertOrIgnore row).rows =
      if ∃ kept ∈ table.rows, Clash kept row then table.rows else table.rows ++ [row] := by
  unfold insertOrIgnore insert
  by_cases clash : ∃ kept ∈ table.rows, Clash kept row
  · rw [dif_neg (not_not.mpr clash), if_pos clash]
    rfl
  · rw [dif_pos clash, if_neg clash]
    rfl

theorem insertOrIgnore_of_clash (clash : ∃ kept ∈ table.rows, Clash kept row) :
    table.insertOrIgnore row = table := by
  rw [insertOrIgnore, insert, dif_neg (not_not.mpr clash)]
  rfl

theorem insertOrIgnore_keeps (table : Table Row Clash) (row : Row) :
    table.rows ⊆ (table.insertOrIgnore row).rows := by
  rw [insertOrIgnore_rows]
  split
  · exact List.Subset.refl _
  · exact subset_append_left _ _

theorem mem_insertOrIgnore {member : Row} (present : member ∈ (table.insertOrIgnore row).rows) :
    member ∈ table.rows ∨ member = row := by
  rw [insertOrIgnore_rows] at present
  split at present
  · exact .inl present
  · rcases mem_append.mp present with old | new
    · exact .inl old
    · exact .inr (mem_singleton.mp new)

end Insertion

/-- What an `UPDATE` makes of one row. -/
def alter (selected : Row → Bool) (change : Row → Row) (row : Row) : Row :=
  if selected row then change row else row

/-- A change of the selected rows that brings no new clash. -/
abbrev Safe (Clash : Row → Row → Prop) (selected : Row → Bool) (change : Row → Row) : Prop :=
  ∀ row other, selected row = true → (Clash (change row) other → Clash row other) ∧
    (Clash other (change row) → Clash other row)

variable {selected : Row → Bool} {change : Row → Row}

theorem alter_clash (safe : Safe Clash selected change) {left right : Row}
    (clash : Clash (alter selected change left) (alter selected change right)) :
    Clash left right := by
  unfold alter at clash
  split at clash <;> split at clash
  · rename_i leftHit rightHit
    exact (safe right left rightHit).2 ((safe left (change right) leftHit).1 clash)
  · rename_i leftHit rightMiss
    exact (safe left right leftHit).1 clash
  · rename_i leftMiss rightHit
    exact (safe right left rightHit).2 clash
  · exact clash

/-- `UPDATE ... WHERE selected`, for a change that no constraint refuses. -/
def updateWhere (table : Table Row Clash) (selected : Row → Bool) (change : Row → Row)
    (safe : Safe Clash selected change) : Table Row Clash :=
  ⟨table.rows.map (alter selected change), by
    rw [List.pairwise_map]
    exact table.distinct.imp fun distinct clash => distinct (alter_clash safe clash)⟩

@[simp] theorem updateWhere_rows (table : Table Row Clash) (selected : Row → Bool)
    (change : Row → Row) (safe : Safe Clash selected change) :
    (table.updateWhere selected change safe).rows = table.rows.map (alter selected change) := rfl

theorem filter_map_alter {kept : Row → Bool} {total : Row → Row} {rows : List Row}
    (stable : ∀ row, kept (alter selected change row) = kept row)
    (agrees : ∀ row, kept row → alter selected change row = total row) :
    (rows.map (alter selected change)).filter kept = (rows.filter kept).map total := by
  have same : kept ∘ alter selected change = kept := funext stable
  rw [filter_map, same]
  apply map_congr_left
  intro row member
  exact agrees row (mem_filter.mp member).2

theorem countP_alter_le (counted selected : Row → Bool) (change : Row → Row) (rows : List Row) :
    (rows.map (alter selected change)).countP counted ≤
      rows.countP counted + rows.countP selected := by
  induction rows with
  | nil => exact le_refl 0
  | cons row _ _ =>
    simp only [map_cons, countP_cons, alter]
    by_cases hit : selected row = true
    · simp only [hit, if_true]
      split <;> omega
    · simp only [hit]
      split <;> simp_all
      omega

/-- An update that makes no selected row heavier makes the rows together no heavier. -/
theorem sum_alter_le {weight : Row → Nat}
    (lighter : ∀ row, selected row → weight (change row) ≤ weight row) (rows : List Row) :
    ((rows.map (alter selected change)).map weight).sum ≤ (rows.map weight).sum := by
  induction rows with
  | nil => exact le_refl 0
  | cons row _ ih =>
    simp only [map_cons, sum_cons]
    apply Nat.add_le_add _ ih
    unfold alter
    split
    · exact lighter row ‹_›
    · exact le_refl _

theorem sum_alter_single {rows : List Row} {only : Row} (weight : Row → Nat) (change : Row → Row)
    (single : rows.filter selected = [only]) :
    ((rows.map (alter selected change)).map weight).sum + weight only =
      (rows.map weight).sum + weight (change only) := by
  induction rows with
  | nil => cases single
  | cons row rest ih =>
    simp only [map_cons, sum_cons, alter]
    by_cases hit : selected row = true
    · rw [filter_cons_of_pos hit, List.cons.injEq, filter_eq_nil_iff] at single
      have untouched : rest.map (alter selected change) = rest := by
        apply (map_congr_left _).trans (map_id rest)
        intro later member
        simp [alter, single.2 later member]
      rw [if_pos hit, untouched, single.1]
      omega
    · rw [filter_cons_of_neg hit] at single
      have others := ih single
      rw [if_neg hit]
      omega

theorem find_eq_some (found : table.find selected = some row) :
    row ∈ table.rows ∧ selected row = true :=
  ⟨mem_of_find?_eq_some found, find?_some found⟩

theorem find_isSome (member : row ∈ table.rows) (hit : selected row) :
    ∃ found, table.find selected = some found :=
  Option.isSome_iff_exists.mp (find?_isSome.mpr ⟨row, member, hit⟩)

theorem find_insert [DecidableRel Clash] (inserted : table.insert row = some next)
    (wanted : Row → Bool) :
    next.find wanted = (table.find wanted).or (if wanted row then some row else none) := by
  rw [find, (insert_eq_some.mp inserted).2, find?_append, find?_singleton]
  rfl

/-- A lookup by a key that the inserted row may share with no other. -/
theorem find_insert_keyed [DecidableRel Clash] {Key : Type*} [DecidableEq Key] (key : Row → Key)
    (inserted : table.insert row = some next)
    (clashes : ∀ kept, key kept = key row → Clash kept row) :
    table.find (key · == key row) = none ∧ ∀ wanted, next.find (key · == wanted) =
      if key row = wanted then some row else table.find (key · == wanted) := by
  have missing : table.find (key · == key row) = none := by
    rw [find, find?_eq_none]
    intro kept member same
    exact (insert_eq_some.mp inserted).1 ⟨kept, member, clashes kept (beq_iff_eq.mp same)⟩
  refine ⟨missing, fun wanted => ?_⟩
  rw [find_insert inserted]
  by_cases here : key row = wanted
  · rw [← here, missing, if_pos rfl, if_pos (beq_self_eq_true _), Option.none_or]
  · rw [if_neg here, beq_false_of_ne here, if_neg Bool.false_ne_true, Option.or_none]

theorem find_insertOrIgnore [DecidableRel Clash] (table : Table Row Clash) (row : Row)
    (wanted : Row → Bool) (keyed : ∀ kept, Clash kept row → wanted row → wanted kept) :
    (table.insertOrIgnore row).find wanted =
      (table.find wanted).or (if wanted row then some row else none) := by
  rw [find, insertOrIgnore_rows]
  by_cases clash : ∃ kept ∈ table.rows, Clash kept row
  · rw [if_pos clash]
    by_cases hit : wanted row = true
    · obtain ⟨kept, member, clash⟩ := clash
      obtain ⟨_, known⟩ := find_isSome member (keyed kept clash hit)
      rw [known, Option.some_or]
      exact known
    · rw [if_neg hit, Option.or_none]
      rfl
  · rw [if_neg clash, find?_append, find?_singleton]
    rfl

theorem find_updateWhere (table : Table Row Clash) (selected wanted : Row → Bool)
    (change : Row → Row) (safe : Safe Clash selected change)
    (stable : ∀ row, wanted (change row) = wanted row) :
    (table.updateWhere selected change safe).find wanted =
      (table.find wanted).map (alter selected change) := by
  have same : wanted ∘ alter selected change = wanted := by
    funext row
    by_cases hit : selected row = true
    · simp [alter, hit, stable]
    · simp [alter, hit]
  simp only [find, updateWhere_rows, find?_map, same]

/-- `UPDATE ... WHERE selected`, which fails when a constraint is violated. -/
def update [DecidableRel Clash] (table : Table Row Clash) (selected : Row → Bool)
    (change : Row → Row) : Option (Table Row Clash) :=
  if distinct : (table.rows.map (alter selected change)).Pairwise
      fun earlier later => ¬ Clash earlier later then
    some ⟨table.rows.map (alter selected change), distinct⟩
  else none

theorem update_rows [DecidableRel Clash] (done : table.update selected change = some next) :
    next.rows = table.rows.map (alter selected change) := by
  unfold update at done
  split at done
  · rw [← Option.some.inj done]
  · cases done

/-- `DELETE ... WHERE selected`. -/
def deleteWhere (table : Table Row Clash) (selected : Row → Bool) : Table Row Clash :=
  ⟨table.rows.filter (fun row => !selected row), table.distinct.sublist List.filter_sublist⟩

variable {wanted : Row → Bool}

theorem find_deleteWhere (table : Table Row Clash)
    (kept : ∀ row, wanted row → selected row = false) :
    (table.deleteWhere selected).find wanted = table.find wanted := by
  simp only [find, deleteWhere, find?_filter]
  congr 1
  funext row
  cases asked : wanted row with
  | false => simp
  | true => simp [kept row asked]

theorem find_deleteWhere_self (table : Table Row Clash) (selected : Row → Bool) :
    (table.deleteWhere selected).find selected = none := by
  simp only [find, deleteWhere, find?_eq_none, mem_filter, Bool.not_eq_true',
    and_imp, Bool.not_eq_true]
  exact fun row _ spared => spared

/-- A lookup on a unique key finds what it found before, unless that very row was deleted. -/
theorem find_deleteWhere_unique (table : Table Row Clash)
    (unique : ∀ left ∈ table.rows, ∀ right ∈ table.rows, wanted left →
      wanted right → left = right) : (table.deleteWhere selected).find wanted =
      (table.find wanted).filter fun row => !selected row := by
  cases found : table.find wanted with
  | none =>
    rw [find, find?_eq_none] at found
    rw [find, Option.filter_none, find?_eq_none]
    exact fun row member => found row (mem_filter.mp member).1
  | some row =>
    have hit := find_eq_some found
    cases gone : selected row with
    | true =>
      rw [Option.filter_some, gone, find]
      change _ = none
      rw [find?_eq_none]
      intro other member same
      have spared := mem_filter.mp member
      have equal := unique other spared.1 row hit.1 same hit.2
      simp [equal, gone] at spared
    | false =>
      have member : row ∈ (table.deleteWhere selected).rows :=
        mem_filter.mpr ⟨hit.1, by rw [gone]; rfl⟩
      obtain ⟨other, same⟩ := find_isSome member hit.2
      have known := find_eq_some same
      have kept := mem_filter.mp known.1
      rw [same, unique other kept.1 row hit.1 known.2 hit.2, Option.filter_some, gone]
      rfl

section Upsertion
variable [DecidableRel Clash]

/-- `INSERT ... ON CONFLICT(key) DO UPDATE` of every column, where `selected` is the key. The
row is written last; another constraint may still refuse it. -/
def upsert (table : Table Row Clash) (selected : Row → Bool) (row : Row) :
    Option (Table Row Clash) :=
  (table.deleteWhere selected).insert row

/-- A lookup after an upsert: the written row, else what was there under another key. -/
theorem find_upsert {Key : Type*} [DecidableEq Key] [BEq Key] [LawfulBEq Key] (key : Row → Key)
    (own : Key) (done : table.upsert (key · == own) row = some next) (written : key row = own)
    (asked : Key) : next.find (key · == asked) =
      if own = asked then some row else table.find (key · == asked) := by
  rw [find_insert done, written]
  by_cases hit : own = asked
  · rw [hit, find_deleteWhere_self, if_pos rfl, if_pos (beq_self_eq_true _), Option.none_or]
  · rw [if_neg hit, if_neg (mt beq_iff_eq.mp hit), Option.or_none]
    apply find_deleteWhere
    intro kept same
    rw [beq_iff_eq.mp same]
    exact beq_false_of_ne (Ne.symm hit)

end Upsertion

theorem eq_of_clash (table : Table Row Clash)
    (symm : ∀ left right, Clash left right → Clash right left) {left right : Row}
    (leftIn : left ∈ table.rows) (rightIn : right ∈ table.rows) (clash : Clash left right) :
    left = right := by
  by_contra different
  have apart : Std.Symm fun left right => ¬ Clash left right :=
    ⟨fun left right free clash => free (symm right left clash)⟩
  exact table.distinct.forall leftIn rightIn different clash

/-- A selection whose rows all clash picks one row at most. -/
theorem filter_length_le_one (table : Table Row Clash)
    (unique : ∀ left right, selected left = true → selected right = true → Clash left right) :
    (table.rows.filter selected).length ≤ 1 := by
  have apart := table.distinct.sublist (filter_sublist (p := selected))
  match rows : table.rows.filter selected with
  | [] => exact Nat.zero_le 1
  | [only] => exact Nat.le_refl 1
  | first :: second :: rest =>
    rw [rows] at apart
    have chosen : ∀ row ∈ first :: second :: rest, selected row = true :=
      fun row member => (mem_filter.mp (rows ▸ member)).2
    have clash := unique first second (chosen first (by simp)) (chosen second (by simp))
    exact absurd clash (rel_of_pairwise_cons apart (by simp))

/-- A lookup on a unique key finds in a selection what it finds in the whole list, when the
selection has the row that is looked for. -/
theorem find?_eq_of_unique {part whole : List Row} (within : part ⊆ whole)
    (covers : ∀ row ∈ whole, wanted row → row ∈ part)
    (unique : ∀ left ∈ whole, ∀ right ∈ whole, wanted left → wanted right → left = right) :
    part.find? wanted = whole.find? wanted := by
  cases found : whole.find? wanted with
  | none =>
    rw [find?_eq_none] at found ⊢
    exact fun row member => found row (within member)
  | some row =>
    have member := mem_of_find?_eq_some found
    have hit := find?_some found
    rcases Option.isSome_iff_exists.mp
      (find?_isSome.mpr ⟨row, covers row member hit, hit⟩) with ⟨other, same⟩
    rw [same, unique other (within (mem_of_find?_eq_some same)) row member
      (find?_some same) hit]

theorem filter_eq_singleton (table : Table Row Clash) (member : row ∈ table.rows)
    (here : selected row)
    (unique : ∀ left right, selected left → selected right → Clash left right) :
    table.rows.filter selected = [row] := by
  have picked : row ∈ table.rows.filter selected := mem_filter.mpr ⟨member, here⟩
  have short := table.filter_length_le_one unique
  have one : (table.rows.filter selected).length = 1 := le_antisymm short (length_pos_of_mem picked)
  obtain ⟨_, rows⟩ := length_eq_one_iff.mp one
  rw [rows] at picked ⊢
  rw [mem_singleton.mp picked]

end Table

end WinWinCode.Tables
