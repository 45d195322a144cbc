import WinWinCode.Delivery.WorkRuns

/-!
The check that no item depends on itself, directly or through others. An item is resolvable
when all it depends on is; the passes find the resolvable items, and they are all items
exactly if the dependencies have no cycle.
-/

namespace WinWinCode.Delivery.WorkRunAggregate

open List Relation

section Passes
variable {items : List (String × List String)} {resolved : List String}

inductive Resolvable (items : List (String × List String)) : String → Prop
  | item {item : String × List String} : item ∈ items → (∀ id ∈ item.2, Resolvable items id) →
    Resolvable items item.1

theorem Resolvable.mono {others : List (String × List String)} (among : items ⊆ others)
    {id : String} (resolvable : Resolvable items id) : Resolvable others id := by
  induction resolvable with
  | item member _ needs => exact .item (among member) needs

variable (items) in
/-- What the passes have resolved so far. -/
structure Resolves (resolved : List String) : Prop where
  distinct : resolved.Nodup
  sound : ∀ id ∈ resolved, Resolvable items id

theorem Resolves.subset (resolves : Resolves items resolved) : resolved ⊆ items.map (·.1) := by
  intro id member
  cases resolves.sound id member with
  | item among _ => exact mem_map_of_mem among

theorem Resolves.length_le (resolves : Resolves items resolved) : resolved.length ≤ items.length :=
  (subperm_of_subset resolves.distinct resolves.subset).length_le.trans_eq (length_map _)

theorem resolvePass_cons (item : String × List String) (rest : List (String × List String))
    (resolved : List String) : resolvePass (item :: rest) resolved = resolvePass rest
      (if item.2 ⊆ resolved ∧ item.1 ∉ resolved then resolved ++ [item.1] else resolved) := by
  simp [resolvePass, subset_def]

theorem resolvePass_spec {part : List (String × List String)} (among : part ⊆ items)
    (resolves : Resolves items resolved) :
    Resolves items (resolvePass part resolved) ∧ resolved <+: resolvePass part resolved ∧
      (resolvePass part resolved = resolved → ∀ item ∈ part, item.2 ⊆ resolved →
        item.1 ∈ resolved) := by
  induction part generalizing resolved with
  | nil => exact ⟨resolves, prefix_rfl, fun _ => forall_mem_nil _⟩
  | cons item rest ih =>
    have later : rest ⊆ items := fun _ member => among (mem_cons_of_mem item member)
    rw [resolvePass_cons]
    split
    · rename_i ready
      have next : Resolves items (resolved ++ [item.1]) := by
        constructor
        · exact nodup_append'.mpr
            ⟨resolves.distinct, nodup_singleton _, by simpa using ready.2⟩
        · intro id member
          rcases mem_append.mp member with old | new
          · exact resolves.sound id old
          · cases mem_singleton.mp new
            exact .item (among mem_cons_self) fun id needed => resolves.sound id (ready.1 needed)
      obtain ⟨keeps, extends_, _⟩ := ih later next
      refine ⟨keeps, (prefix_append _ _).trans extends_, fun same => ?_⟩
      have longer := extends_.length_le
      rw [same, length_append, length_singleton] at longer
      omega
    · rename_i waits
      obtain ⟨keeps, extends_, closed⟩ := ih later resolves
      refine ⟨keeps, extends_, fun same other member needs => ?_⟩
      rcases mem_cons.mp member with rfl | member
      · by_contra missing
        exact waits ⟨needs, missing⟩
      · exact closed same other member needs

variable (items) in
/-- The passes, repeated without a bound, come to an end with an answer. -/
inductive Answers : List String → Bool → Prop
  | all {resolved : List String} (full : (resolvePass items resolved).length = items.length) :
      Answers resolved true
  | stuck {resolved : List String} (short : (resolvePass items resolved).length ≠ items.length)
      (stays : (resolvePass items resolved).length = resolved.length) : Answers resolved false
  | again {resolved : List String} {answer : Bool}
      (short : (resolvePass items resolved).length ≠ items.length)
      (grows : (resolvePass items resolved).length ≠ resolved.length)
      (next : Answers (resolvePass items resolved) answer) : Answers resolved answer

/-- As many passes as items are unresolved, and one more, come to the end. -/
theorem acyclicFrom_answers {passes : Nat} (resolves : Resolves items resolved)
    (enough : items.length < passes + resolved.length) :
    Answers items resolved (acyclicFrom items passes resolved) := by
  induction passes generalizing resolved with
  | zero =>
    have bound := resolves.length_le
    omega
  | succ passes ih =>
    obtain ⟨keeps, extends_, _⟩ := resolvePass_spec (Subset.refl items) resolves
    have bound := extends_.length_le
    rw [acyclicFrom]
    split
    · exact .all ‹_›
    · split
      · exact .stuck ‹_› ‹_›
      · exact .again ‹_› ‹_› (ih keeps (by omega))

theorem Answers.iff {answer : Bool} (answers : Answers items resolved answer)
    (resolves : Resolves items resolved) :
    answer = true ↔ (items.map (·.1)).Nodup ∧ ∀ item ∈ items, Resolvable items item.1 := by
  induction answers with
  | all full =>
    -- the resolved ids are as many as the items, so they are the items' ids
    obtain ⟨keeps, _⟩ := resolvePass_spec (Subset.refl items) resolves
    have all := subperm_of_subset keeps.distinct keeps.subset
    have same := all.perm_of_length_le (by simp [full])
    refine iff_of_true rfl ⟨same.nodup_iff.mp keeps.distinct, fun item member => ?_⟩
    exact keeps.sound item.1 (same.mem_iff.mpr (mem_map_of_mem member))
  | @stuck resolved short stays =>
    obtain ⟨keeps, extends_, closed⟩ := resolvePass_spec (Subset.refl items) resolves
    have same := (extends_.eq_of_length stays.symm).symm
    refine iff_of_false Bool.false_ne_true fun ⟨distinct, resolvable⟩ => short ?_
    have everything {id : String} (found : Resolvable items id) :
        id ∈ resolvePass items resolved := by
      rw [same]
      induction found with
      | item member _ needs => exact closed same _ member needs
    refine le_antisymm keeps.length_le ?_
    rw [← length_map (·.1)]
    refine (subperm_of_subset distinct fun id member => ?_).length_le
    obtain ⟨item, among, rfl⟩ := mem_map.mp member
    exact everything (resolvable item among)
  | again _ _ _ ih => exact ih (resolvePass_spec (Subset.refl items) resolves).1

end Passes

/-- An item that has to be done before another. -/
def Precedes (items : List WorkItem) (needed id : String) : Prop :=
  ∃ item ∈ items, item.id = id ∧ needed ∈ item.dependsOn

def dependencies (items : List WorkItem) : List (String × List String) :=
  items.map fun item => (item.id, item.dependsOn)

theorem acyclicItems_answers (items : List WorkItem) :
    Answers (dependencies items) [] (acyclicItems items) :=
  acyclicFrom_answers ⟨nodup_nil, forall_mem_nil _⟩ (by simp [dependencies])

theorem acyclicItems_iff (items : List WorkItem) : acyclicItems items = true ↔
      (items.map (·.id)).Nodup ∧ ∀ item ∈ items, Resolvable (dependencies items) item.id := by
  rw [(acyclicItems_answers items).iff ⟨nodup_nil, forall_mem_nil _⟩]
  simp [dependencies, Function.comp_def]

variable {items : List WorkItem}

/-- A resolvable item is reached by no infinite chain of dependencies. -/
theorem acc_of_resolvable (distinct : (items.map (·.id)).Nodup) {id : String}
    (resolvable : Resolvable (dependencies items) id) : Acc (Precedes items) id := by
  induction resolvable with
  | item member _ needs =>
    obtain ⟨item, among, rfl⟩ := mem_map.mp member
    constructor
    rintro needed ⟨other, present, same, depends⟩
    cases inj_on_of_nodup_map distinct present among same
    exact needs needed depends

theorem resolvable_iff_acyclic (distinct : (items.map (·.id)).Nodup)
    (listed : ∀ item ∈ items, item.dependsOn ⊆ items.map (·.id)) :
    (∀ item ∈ items, Resolvable (dependencies items) item.id) ↔
      ∀ id, ¬ TransGen (Precedes items) id id := by
  constructor
  · intro resolvable
    have founded : WellFounded (Precedes items) := by
      constructor
      intro id
      constructor
      rintro needed ⟨item, among, _, depends⟩
      obtain ⟨other, present, rfl⟩ := mem_map.mp (listed item among depends)
      exact acc_of_resolvable distinct (resolvable other present)
    exact fun id cycle => founded.transGen.irrefl.irrefl id cycle
  · intro acyclic
    have order : IsStrictOrder String (TransGen (Precedes items)) :=
      { irrefl := acyclic, trans := fun _ _ _ => .trans }
    have founded := (items.map (·.id)).finite_toSet.wellFoundedOn (r := TransGen (Precedes items))
    intro item member
    refine founded.induction (P := Resolvable (dependencies items)) (mem_map_of_mem member) ?_
    intro id among earlier
    obtain ⟨item, present, rfl⟩ := mem_map.mp among
    refine @Resolvable.item _ (item.id, item.dependsOn) (mem_map.mpr ⟨item, present, rfl⟩) ?_
    exact fun needed depends =>
      earlier needed (listed item present depends) (.single ⟨item, present, rfl, depends⟩)

theorem acyclic_items_exact (items : List WorkItem) :
    Answers (dependencies items) [] (acyclicItems items) ∧
    (∀ others, items.Perm others → acyclicItems others = acyclicItems items) ∧
    ((items.map (·.id)).Nodup → (∀ item ∈ items, item.dependsOn ⊆ items.map (·.id)) →
      (acyclicItems items = true ↔ ∀ id, ¬ TransGen (Precedes items) id id)) := by
  refine ⟨acyclicItems_answers items, fun others same => ?_, fun distinct listed => ?_⟩
  · rw [Bool.eq_iff_iff, acyclicItems_iff, acyclicItems_iff]
    have pairs := same.map fun item : WorkItem => (item.id, item.dependsOn)
    refine and_congr (same.map _).nodup_iff.symm
      ⟨fun all item member => ?_, fun all item member => ?_⟩
    · exact (all item (same.subset member)).mono pairs.symm.subset
    · exact (all item (same.symm.subset member)).mono pairs.subset
  · rw [← resolvable_iff_acyclic distinct listed, acyclicItems_iff]
    exact and_iff_right distinct

end WinWinCode.Delivery.WorkRunAggregate
