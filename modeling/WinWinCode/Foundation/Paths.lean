import Mathlib

/-!
Lexical paths: the names between the slashes of a text, resolved without a look at any
file system. A resolved path keeps only names, so its text determines it.
-/

namespace WinWinCode.Paths

open List Option

/-- A component that names an entry of its directory. -/
def IsName (name : List Char) : Prop :=
  name ≠ [] ∧ name ≠ ['.'] ∧ name ≠ ['.', '.'] ∧ '/' ∉ name

/-- Follow one component: stay, go up or go down. The innermost name comes first, and
nothing is above the root. -/
def follow (inside : List (List Char)) (component : List Char) : Option (List (List Char)) :=
  if component = [] ∨ component = ['.'] then some inside
  else if component = ['.', '.'] then
    match inside with
    | [] => none
    | _ :: outside => some outside
  else some (component :: inside)

def resolveNames (text : List Char) : Option (List (List Char)) :=
  ((text.splitOn '/').foldlM follow []).map List.reverse

theorem mark_not_mem_splitOn {mark : Char} {text piece : List Char}
    (member : piece ∈ text.splitOn mark) : mark ∉ piece := by
  induction text generalizing piece with
  | nil => simp_all [List.splitOn]
  | cons symbol rest ih =>
    rw [List.splitOn, splitOnP_cons_eq_if_modifyHead] at member
    split at member
    · rcases mem_cons.mp member with rfl | later
      · exact not_mem_nil
      · exact ih later
    · rename_i other
      -- the symbol joins the first piece of the rest
      cases pieces : rest.splitOnP (· == mark) with
      | nil => exact absurd pieces (splitOnP_ne_nil _ _)
      | cons first more =>
        have free : ∀ piece ∈ first :: more, mark ∉ piece :=
          fun piece among => ih (by rw [List.splitOn, pieces]; exact among)
        rw [pieces, modifyHead_cons] at member
        rcases mem_cons.mp member with rfl | later
        · rw [mem_cons, not_or]
          exact ⟨fun same => other (by simp [same]), free first mem_cons_self⟩
        · exact free piece (mem_cons_of_mem _ later)

theorem mem_of_foldlM {components inside found : List (List Char)} {name : List Char}
    (followed : components.foldlM follow inside = some found) (member : name ∈ found) :
    name ∈ inside ∨ name ∈ components ∧ name ≠ [] ∧ name ≠ ['.'] ∧ name ≠ ['.', '.'] := by
  induction components generalizing inside with
  | nil => exact .inl (some.inj followed ▸ member)
  | cons _ _ ih =>
    rw [foldlM_cons, bind_eq_bind, bind_eq_some_iff] at followed
    obtain ⟨_, step, followed⟩ := followed
    rcases ih followed with earlier | ⟨among, named⟩
    · -- only the step down adds a name, and it has ruled out what is not one
      unfold follow at step
      split at step
      · exact .inl (some.inj step ▸ earlier)
      · grind
    · exact .inr ⟨mem_cons_of_mem _ among, named⟩

theorem isName_of_resolveNames {text : List Char} {names : List (List Char)}
    (found : resolveNames text = some names) : ∀ name ∈ names, IsName name := by
  obtain ⟨_, followed, rfl⟩ := map_eq_some_iff.mp found
  intro name among
  obtain ⟨piece, filled, here, up⟩ :=
    (mem_of_foldlM followed (mem_reverse.mp among)).resolve_left not_mem_nil
  exact ⟨filled, here, up, mark_not_mem_splitOn piece⟩

/-- A path without `.`, `..` and empty components. -/
@[ext] structure LexicalPath where
  absolute : Bool
  names : List (List Char)
  named : ∀ name ∈ names, IsName name
deriving DecidableEq

namespace LexicalPath

def resolve (text : List Char) : Option LexicalPath :=
  (resolveNames text).pmap (fun names named => ⟨text.head? == some '/', names, named⟩)
    fun _ found => isName_of_resolveNames found

def text (path : LexicalPath) : List Char :=
  match path.names with
  | [] => [if path.absolute then '/' else '.']
  | names => (if path.absolute then ['/'] else []) ++ ['/'].intercalate names

/-- The outer path itself, or a path in the directory tree below it. -/
def Within (path outer : LexicalPath) : Prop :=
  path.absolute = outer.absolute ∧ outer.names <+: path.names

instance (path outer : LexicalPath) : Decidable (path.Within outer) :=
  inferInstanceAs (Decidable (_ ∧ _))

variable {path outer : LexicalPath}

/-- The pieces of a path's text are its names; the root itself is written as a dot. -/
theorem pieces_text (path : LexicalPath) : path.text.splitOn '/' =
    (if path.absolute then [[]] else []) ++
      if path.names = [] then [if path.absolute then [] else ['.']] else path.names := by
  have rooted (rest : List Char) : ('/' :: rest).splitOn '/' = [] :: rest.splitOn '/' := by
    simp [List.splitOn, splitOnP_cons_eq_if_modifyHead]
  cases list : path.names with
  | nil =>
    cases absolute : path.absolute <;>
      simp [text, list, absolute, List.splitOn, splitOnP_cons_eq_if_modifyHead]
  | cons _ _ =>
    have pieces := splitOn_intercalate '/' (fun other among =>
      (path.named other (list ▸ among)).2.2.2) (cons_ne_nil _ _)
    cases absolute : path.absolute <;> simp [text, list, absolute, rooted, pieces]

theorem splitOn_text (relative : path.absolute = false) :
    path.text.splitOn '/' = if path.names = [] then [['.']] else path.names := by
  simp [pieces_text, relative]

theorem head_text (path : LexicalPath) : path.text.head? = some '/' ↔ path.absolute = true := by
  cases absolute : path.absolute with
  | true => cases list : path.names <;> simp [text, list, absolute]
  | false =>
    cases list : path.names with
    | nil => simp [text, list, absolute]
    | cons name rest =>
      have named := path.named name (by simp [list])
      cases name with
      | nil => exact absurd rfl named.1
      | cons symbol _ =>
        have free : symbol ≠ '/' := fun same => named.2.2.2 (by simp [same])
        cases rest <;> simp [text, list, absolute, intercalate_cons_cons, free]

theorem rdropWhile_text (relative : path.absolute = false) :
    path.text.rdropWhile (· == '/') = path.text := by
  refine rdropWhile_eq_self_iff.mpr fun nonempty ends => ?_
  rcases eq_nil_or_concat path.text with empty | ⟨_, last, spelled⟩
  · exact nonempty empty
  -- a slash at the end would leave an empty piece, which is no name
  have slash : last = '/' := by simpa [spelled] using ends
  have pieces := splitOn_text relative
  rw [spelled, slash, concat_eq_append, List.splitOn, splitOnP_append_cons _ _ (by simp)] at pieces
  have blank : [] ∈ if path.names = [] then [['.']] else path.names := by
    rw [← pieces]
    simp
  split at blank
  · simp at blank
  · exact (path.named [] blank).1 rfl

/-- A path whose text goes on from a relative path's text at a slash lies below it. -/
theorem within_of_text (relative : outer.absolute = false)
    (spelled : path.text = outer.text ∨ ∃ rest, path.text = outer.text ++ '/' :: rest) :
    path.Within outer := by
  -- both texts start alike, so both are relative and split into their names
  have start : path.text.head? = outer.text.head? := by
    rcases spelled with same | ⟨rest, goes⟩
    · rw [same]
    · have nonempty : outer.text ≠ [] := by
        cases list : outer.names with
        | nil => simp [text, list]
        | cons name more =>
          intro empty
          have pieces := splitOn_text relative
          rw [empty, list] at pieces
          exact (outer.named name (by simp [list])).1 (List.cons.inj pieces).1.symm
      rw [goes, head?_append_of_ne_nil _ nonempty]
  have level : path.absolute = false := by
    rw [← Bool.not_eq_true, ← head_text, start, head_text, relative]
    exact Bool.false_ne_true
  refine ⟨level.trans relative.symm, ?_⟩
  by_cases root : outer.names = []
  · exact root ▸ nil_prefix
  have inner := splitOn_text level
  have pieces := splitOn_text relative
  rw [if_neg root] at pieces
  have among : ∃ more, (if path.names = [] then [['.']] else path.names) = outer.names ++ more := by
    rw [← inner, ← pieces]
    rcases spelled with same | ⟨rest, goes⟩
    · exact ⟨[], by rw [same, append_nil]⟩
    · exact ⟨rest.splitOnP (· == '/'), by
        rw [goes, List.splitOn, splitOnP_append_cons _ _ (by simp)]
        rfl⟩
  obtain ⟨more, among⟩ := among
  split at among
  -- the dot that stands for an empty path is not the first name of another
  · cases list : outer.names with
    | nil => exact absurd list root
    | cons name _ =>
      rw [list, cons_append] at among
      exact absurd (List.cons.inj among).1.symm (outer.named name (by simp [list])).2.1
  · exact ⟨more, among.symm⟩

end LexicalPath

end WinWinCode.Paths
