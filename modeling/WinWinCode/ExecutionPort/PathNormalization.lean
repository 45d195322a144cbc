import WinWinCode.ExecutionPort.TargetConfinement

/-!
What the normalization of a path means. The text of a resolved path splits into its names
again, so that it is resolved to itself.
-/

namespace WinWinCode.Paths

open List Option

theorem mem_splitOn {symbol : Char} (other : symbol ≠ '/') {text : List Char} :
    symbol ∈ text ↔ ∃ piece ∈ text.splitOn '/', symbol ∈ piece := by
  have pieces (all : List (List Char)) :
      symbol ∈ ['/'].intercalate all ↔ ∃ piece ∈ all, symbol ∈ piece := by
    induction all with
    | nil => simp
    | cons _ rest ih => cases rest <;> simp_all [intercalate_cons_cons]
  rw [← pieces, intercalate_splitOn]

/-- How far a component leads down. -/
def descent (component : List Char) : Int :=
  if component = [] ∨ component = ['.'] then 0 else if component = ['.', '.'] then -1 else 1

/-- Only a way that leads above its start is refused. -/
theorem foldlM_follow_eq_none {components inside : List (List Char)} :
    components.foldlM follow inside = none ↔
      ∃ way, way <+: components ∧ inside.length + (way.map descent).sum < 0 := by
  induction components generalizing inside with
  | nil => simp
  | cons component rest ih =>
    have onward : (∃ way, way <+: component :: rest ∧ inside.length + (way.map descent).sum < 0) ↔
        ∃ way, way <+: rest ∧ inside.length + descent component + (way.map descent).sum < 0 := by
      simp [prefix_cons_iff, or_and_right, exists_or, add_assoc]
    rw [onward, foldlM_cons]
    by_cases stay : component = [] ∨ component = ['.']
    · simp [follow, descent, stay, ih]
    by_cases up : component = ['.', '.']
    · cases inside with
      | nil => simpa [follow, descent, up] using ⟨[], nil_prefix, by simp⟩
      | cons _ _ => simp [follow, descent, up, ih]
    · simp [follow, descent, stay, up, ih]

theorem foldlM_names {names inside : List (List Char)} (named : ∀ name ∈ names, IsName name) :
    names.foldlM follow inside = some (names.reverse ++ inside) := by
  induction names generalizing inside with
  | nil => rfl
  | cons name rest ih =>
    obtain ⟨filled, here, up, _⟩ := named name mem_cons_self
    simp [follow, filled, here, up, ih fun other among => named other (mem_cons_of_mem _ among)]

namespace LexicalPath

theorem components_text (path : LexicalPath) :
    (path.text.splitOn '/').filter (descent · ≠ 0) = path.names := by
  have kept : path.names.filter (descent · ≠ 0) = path.names := by
    refine filter_eq_self.mpr fun name among => ?_
    obtain ⟨filled, here, up, _⟩ := path.named name among
    simp [descent, filled, here, up]
  rw [pieces_text, filter_append]
  split <;> split <;> simp_all [descent]

theorem resolve_text (path : LexicalPath) : resolve path.text = some path := by
  have names : resolveNames path.text = some path.names := by
    rw [resolveNames, pieces_text]
    cases list : path.names with
    | nil => cases path.absolute <;> rfl
    | cons _ _ =>
      rw [if_neg (cons_ne_nil _ _), ← list]
      cases path.absolute <;> simp [foldlM_names path.named, follow]
  have head : (path.text.head? == some '/') = path.absolute := by
    rw [Bool.eq_iff_iff, beq_iff_eq, head_text]
  exact pmap_eq_some_iff.mpr ⟨path.names, path.named, names, by simp [head]⟩

/-- Only a relative path of a single blank name is written in white space alone. -/
theorem blank_text (path : LexicalPath) : path.text.all Text.isWhiteSpace = true ↔
    path.absolute = false ∧ ∃ name, path.names = [name] ∧ name.all Text.isWhiteSpace = true := by
  have slash : Text.isWhiteSpace '/' = false := rfl
  have dot : Text.isWhiteSpace '.' = false := rfl
  cases list : path.names with
  | nil => cases absolute : path.absolute <;> simp [text, list, absolute, slash, dot]
  | cons _ rest =>
    cases rest <;> cases absolute : path.absolute <;>
      simp [text, list, absolute, slash, intercalate_cons_cons]

/-- A resolved path is written in the symbols of the text it was resolved from. -/
theorem mem_of_resolve {path : LexicalPath} {text : List Char} {symbol : Char}
    (other : symbol ≠ '/') (found : resolve text = some path) (member : symbol ∈ path.text) :
    symbol = '.' ∨ symbol ∈ text := by
  obtain ⟨names, _, resolved, rfl⟩ := pmap_eq_some_iff.mp found
  obtain ⟨_, followed, rfl⟩ := map_eq_some_iff.mp resolved
  obtain ⟨piece, among, member⟩ := (mem_splitOn other).mp member
  have origin := @mem_of_foldlM _ _ _ piece followed
  rw [pieces_text] at among
  rw [@mem_splitOn _ other text]
  grind

end LexicalPath

end WinWinCode.Paths

namespace WinWinCode.ExecutionPort

open Fallible Paths Text List Option

def slashes (value : String) : List Char :=
  value.toList.map fun symbol => if symbol == '\\' then '/' else symbol

/-- The components of a path between its separators, of both kinds. -/
def components (value : String) : List (List Char) := (slashes value).splitOn '/'

/-- Some way along the path leads above its start. -/
def Climbs (value : String) : Prop :=
  ∃ way, way <+: components value ∧ (way.map descent).sum < 0

/-- A relative path that leads to one entry, whose name is white space only. -/
def LeadsToBlank (value : String) : Prop :=
  (slashes value).head? ≠ some '/' ∧
    ∃ name, (components value).foldlM follow [] = some [name] ∧ name.all isWhiteSpace = true

theorem requestedPath_eq_none {value : String} : requestedPath value = none ↔ Climbs value := by
  rw [requestedPath, LexicalPath.resolve, pmap_eq_none_iff, resolveNames, map_eq_none_iff,
    foldlM_follow_eq_none]
  simp [Climbs, components, slashes]

/-- What is refused, what an accepted path resolves to, and which results are accepted again. -/
theorem normalize_path_exact (field value : String) :
    ((∃ error, normalizePath field value = .error error) ↔
      isBlank value = true ∨ '\x00' ∈ value.toList ∨ Climbs value) ∧
    ∀ result, normalizePath field value = .ok result →
      (result.toList.head? = some '/' ↔ (slashes value).head? = some '/') ∧
      (components value).foldlM follow [] =
        some ((components result).filter (descent · ≠ 0)).reverse ∧
      (normalizePath field result = .ok result ↔ ¬ LeadsToBlank value) := by
  constructor
  · rw [← requestedPath_eq_none]
    have refused : (∃ error, normalizePath field value = .error error) ↔
        ¬ ∃ result, normalizePath field value = .ok result := by
      cases normalizePath field value <;> simp
    simp only [refused, normalizePath_eq_ok]
    cases isBlank value <;> cases requestedPath value <;> simp
  · intro result done
    obtain ⟨_, clean, path, found, rfl⟩ := normalizePath_eq_ok.mp done
    have symbols {symbol : Char} (member : symbol ∈ path.text) :
        symbol ≠ '\\' ∧ symbol ≠ '\x00' := by
      by_cases slash : symbol = '/'
      · simp [slash]
      · rcases LexicalPath.mem_of_resolve slash found member with rfl | member
        · decide
        · obtain ⟨_, among, rfl⟩ := mem_map.mp member
          grind
    have spelled : slashes (String.ofList path.text) = path.text := by
      rw [slashes, String.toList_ofList]
      refine (map_congr_left fun symbol member => ?_).trans (map_id _)
      simp [(symbols member).1]
    obtain ⟨_, _, resolved, same⟩ := pmap_eq_some_iff.mp found
    obtain ⟨followed, along, rfl⟩ := map_eq_some_iff.mp resolved
    have head : path.text.head? = some '/' ↔ (slashes value).head? = some '/' := by
      rw [LexicalPath.head_text, same]
      simp [slashes]
    have names : path.names = followed.reverse := by rw [same]
    refine ⟨?_, ?_, ?_⟩
    · rw [String.toList_ofList]
      exact head
    · rw [components, components, spelled, path.components_text, names, reverse_reverse]
      exact along
    · have blank : isBlank (String.ofList path.text) = true ↔ LeadsToBlank value := by
        rw [isBlank, String.toList_ofList, path.blank_text, ← Bool.not_eq_true,
          ← LexicalPath.head_text, head, names]
        simp only [LeadsToBlank, components, slashes, along, reverse_eq_iff, reverse_singleton,
          some.injEq, ne_eq]
      rw [← blank, Bool.not_eq_true, normalizePath_eq_ok, String.toList_ofList]
      constructor
      · exact And.left
      · exact fun shown => ⟨shown, fun member => (symbols member).2 rfl, path,
          (congrArg LexicalPath.resolve spelled).trans path.resolve_text, rfl⟩

theorem normalize_path_not_idempotent : normalizePath "request.paths" "./ " = .ok " " ∧
      normalizePath "request.paths" " " = .error ⟨.empty, "request.paths", "must not be blank"⟩ := by
  exact ⟨rfl, rfl⟩

end WinWinCode.ExecutionPort
