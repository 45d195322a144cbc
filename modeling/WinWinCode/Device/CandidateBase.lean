import WinWinCode.Foundation.Fallible
import WinWinCode.Foundation.Text

/-!
The base a candidate is applied to. A candidate is frozen over a source commit, which may be a
candidate in turn, and the registry walks from source to source until it meets a commit that is
none. The walk refuses to come back, so that it ends in every repository.
-/

namespace WinWinCode.Device

open Fallible List Relation Text

inductive CandidateRegistryError where
  | invalid (message : String)
  | store (message : String)

structure OriginProvenance where
  workerId : Option String
  workerInstanceId : Option String

/-- What is read of a binding. A source commit may be there without being a text. -/
structure SourceBinding where
  schemaVersion : Option Nat
  repositoryId : Option String
  originProvenance : Option OriginProvenance
  sourceCommitId : Option (Option String)

namespace SourceBinding

def source (binding : SourceBinding) : Option String := binding.sourceCommitId.join

def hasOrigin (binding : SourceBinding) : Bool :=
  binding.originProvenance.any fun origin =>
    origin.workerId.any (!·.isEmpty) && origin.workerInstanceId.any (!·.isEmpty)

def candidateMetadata (binding : SourceBinding) : Bool :=
  binding.originProvenance.isSome || binding.sourceCommitId.isSome

def validIn (repository : String) (binding : SourceBinding) : Bool :=
  binding.schemaVersion == some 1 && binding.repositoryId == some repository &&
    binding.hasOrigin && binding.source.isSome

end SourceBinding

/-- The commits with their messages, if these are bindings, and the commits that have a candidate
reference. -/
structure Repository where
  commits : List (String × Option SourceBinding)
  retained : List String

def Repository.message (git : Repository) (commit : String) : Option (Option SourceBinding) :=
  (git.commits.find? (·.1 == commit)).map (·.2)

def isCommitSha (value : String) : Bool :=
  (value.length == 40 || value.length == 64) && value.toList.all isLowerHex

def validateCommitSha (value label : String) : Except CandidateRegistryError Unit :=
  refuse (!isCommitSha value) (.invalid (label ++ " is not a full lowercase git commit id"))

/-- How one round of the walk ends. -/
inductive Round where
  | base (commit : String)
  | rework (source : String) (previous : SourceBinding)

section Walk
variable (git : Repository) (repository : String)

def round (visited : List String) (current : SourceBinding) :
    Except CandidateRegistryError Round := do
  let source ← okOr current.source
    (.invalid "the frozen candidate has no persisted source commit")
  validateCommitSha source "candidate source commit"
  refuse (source ∈ visited) (.invalid "the candidate source binding chain contains a cycle")
  let previous ← okOr (git.message source) (.store "Cannot inspect frozen candidate refs")
  if source ∉ git.retained ∧ previous.any (·.candidateMetadata) = false then
    return .base source
  else
    let previous ← okOr previous
      (.invalid "a retained candidate source has corrupt binding metadata")
    refuse (!previous.validIn repository)
      (.invalid "the candidate source binding metadata is invalid")
    return .rework source previous

/-- A candidate by one of the two tests. -/
def Candidate (commit : String) : Prop :=
  commit ∈ git.retained ∨ (git.message commit).join.any (·.candidateMetadata)

structure Plain (commit : String) : Prop where
  sha : isCommitSha commit
  known : (git.message commit).isSome
  plain : ¬ Candidate git commit

/-- A commit whose binding is one of the repository. -/
structure Bound (commit : String) (binding : SourceBinding) : Prop where
  sha : isCommitSha commit
  message : git.message commit = some (some binding)
  valid : binding.validIn repository

def Reworks (commit source : String) : Prop :=
  ∃ binding, Bound git repository commit binding ∧ binding.source = some source

/-- A number of rework rounds. -/
abbrev Chain : String → String → Prop := ReflTransGen (Reworks git repository)

/-- The commit is on the chain of the binding. -/
def Leads (binding : SourceBinding) (commit : String) : Prop :=
  binding.repositoryId = some repository ∧
    ∃ source, binding.source = some source ∧ Chain git repository source commit

/-- A commit that the chain comes back to, or a candidate without a valid binding. -/
def Broken (commit : String) : Prop :=
  TransGen (Reworks git repository) commit commit ∨
    Candidate git commit ∧ ∀ previous, ¬ Bound git repository commit previous

variable {git repository} {visited : List String} {current binding previous : SourceBinding}
  {commit base source : String}

theorem candidateMetadata_of_validIn (valid : binding.validIn repository) :
    binding.candidateMetadata = true := by
  unfold SourceBinding.validIn SourceBinding.source at valid
  unfold SourceBinding.candidateMetadata
  cases named : binding.sourceCommitId with
  | none => simp [named] at valid
  | some => simp

theorem round_base : round git repository visited current = .ok (.base commit) ↔
    current.source = some commit ∧ commit ∉ visited ∧ Plain git commit := by
  simp only [round, validateCommitSha, eq_ok, exists_const, ite_eq_iff, reduceCtorEq, and_false,
    exists_false, or_false, Round.base.injEq, Bool.not_eq_true', Bool.not_eq_false]
  constructor
  · rintro ⟨_, named, sha, fresh, binding, message, ⟨free, bare⟩, rfl⟩
    exact ⟨named, fresh, sha, by simp [message], by simp [Candidate, message, free, bare]⟩
  · rintro ⟨named, fresh, sha, known, plain⟩
    obtain ⟨binding, message⟩ := Option.isSome_iff_exists.mp known
    refine ⟨_, named, sha, fresh, binding, message, ?_, rfl⟩
    simpa [Candidate, message] using plain

theorem round_rework : round git repository visited current = .ok (.rework source previous) ↔
    current.source = some source ∧ source ∉ visited ∧ Bound git repository source previous := by
  simp only [round, validateCommitSha, eq_ok, exists_const, ite_eq_iff, reduceCtorEq, and_false,
    false_or, Round.rework.injEq, Bool.not_eq_true', Bool.not_eq_false]
  constructor
  · rintro ⟨_, named, sha, fresh, _, message, _, _, rfl, valid, rfl, rfl⟩
    exact ⟨named, fresh, sha, message, valid⟩
  · rintro ⟨named, fresh, sha, message, valid⟩
    refine ⟨_, named, sha, fresh, _, message, ?_, _, rfl, valid, rfl, rfl⟩
    simp [candidateMetadata_of_validIn valid]

variable (git repository)

/-- The rounds left, counted by the commits that no round has read. -/
def unread (visited : List String) : Nat :=
  ((git.commits.map (·.1)).toFinset \ visited.toFinset).card

theorem unread_cons (fresh : source ∉ visited) (bound : Bound git repository source previous) :
    unread git (source :: visited) < unread git visited := by
  obtain ⟨found, known, _⟩ := Option.map_eq_some_iff.mp bound.message
  have listed := mem_map_of_mem (f := Prod.fst) (mem_of_find?_eq_some known)
  have same : found.1 = source := by simpa using find?_some known
  rw [same] at listed
  rw [unread, toFinset_cons, Finset.sdiff_insert]
  apply Finset.card_erase_lt_of_mem
  rw [Finset.mem_sdiff, mem_toFinset, mem_toFinset]
  exact ⟨listed, fresh⟩

def walk (visited : List String) (current : SourceBinding) : Except CandidateRegistryError String :=
  match _done : round git repository visited current with
  | .error error => .error error
  | .ok (.base commit) => .ok commit
  | .ok (.rework source previous) => walk (source :: visited) previous
termination_by unread git visited
decreasing_by
  obtain ⟨_, fresh, bound⟩ := round_rework.mp _done
  exact unread_cons git repository fresh bound

def originalCandidateBase (binding : SourceBinding) (git : Repository) :
    Except CandidateRegistryError String := do
  refuse (binding.schemaVersion ≠ some 1)
    (.invalid "the frozen candidate has no recognized source binding")
  let repository ← okOr binding.repositoryId
    (.invalid "the frozen candidate has no repository identity")
  refuse (!binding.hasOrigin) (.invalid "the frozen candidate has no origin provenance")
  walk git repository [] binding

variable {git repository}

theorem reworks_unique : Relator.RightUnique (Reworks git repository) := by
  rintro _ _ _ ⟨_, bound, left⟩ ⟨_, again, right⟩
  cases bound.message.symm.trans again.message
  exact Option.some.inj (left.symm.trans right)

section Plain
variable (plain : Plain git base)
include plain

theorem Plain.ends (source : String) : ¬ Reworks git repository base source := by
  rintro ⟨_, bound, _⟩
  apply plain.plain
  simp [Candidate, bound.message, candidateMetadata_of_validIn bound.valid]

theorem Plain.acyclic (path : Chain git repository commit base) :
    ¬ TransGen (Reworks git repository) commit commit := by
  -- A cycle would have to pass the base, as each commit has one source.
  induction path using ReflTransGen.head_induction_on with
  | refl =>
    intro cycle
    obtain ⟨_, first, _⟩ := TransGen.head'_iff.mp cycle
    exact plain.ends _ first
  | head first _ ih =>
    intro cycle
    obtain ⟨_, again, back⟩ := TransGen.head'_iff.mp cycle
    cases reworks_unique first again
    exact ih (.tail' back first)

theorem walk_of_reaches (path : Chain git repository source base)
    (named : current.source = some source)
    (fresh : ∀ commit, Chain git repository source commit → commit ∉ visited) :
    walk git repository visited current = .ok base := by
  induction path using ReflTransGen.head_induction_on generalizing visited current with
  | refl =>
    have here : round git repository visited current = .ok (.base base) :=
      round_base.mpr ⟨named, fresh _ .refl, plain⟩
    rw [walk]
    split <;> cases here.symm.trans ‹_›
    rfl
  | head first rest ih =>
    obtain ⟨_, bound, next⟩ := first
    have here := round_rework.mpr ⟨named, fresh _ .refl, bound⟩
    rw [walk]
    split <;> cases here.symm.trans ‹_›
    refine ih next fun commit path seen => ?_
    rcases mem_cons.mp seen with rfl | old
    · exact plain.acyclic (.head ⟨_, bound, next⟩ rest) (.head' ⟨_, bound, next⟩ path)
    · exact fresh commit (.head ⟨_, bound, next⟩ path) old

end Plain

theorem reaches_of_walk (done : walk git repository visited current = .ok base) :
    Plain git base ∧ ∃ source, current.source = some source ∧
      Chain git repository source base := by
  fun_induction walk git repository visited current with
  | case1 => cases done
  | case2 _ _ _ round =>
    cases done
    obtain ⟨named, _, plain⟩ := round_base.mp round
    exact ⟨plain, _, named, .refl⟩
  | case3 _ _ source _ round ih =>
    obtain ⟨named, _, bound⟩ := round_rework.mp round
    obtain ⟨plain, _, next, path⟩ := ih done
    exact ⟨plain, source, named, .head ⟨_, bound, next⟩ path⟩

/-- The walk finds the plain commit at the end of the chain. -/
theorem originalCandidateBase_eq_ok : originalCandidateBase binding git = .ok base ↔
    binding.schemaVersion = some 1 ∧ binding.hasOrigin ∧ Plain git base ∧
      ∃ repository, Leads git repository binding base := by
  simp only [originalCandidateBase, eq_ok, exists_const, not_not, Bool.not_eq_true',
    Bool.not_eq_false]
  constructor
  · rintro ⟨version, repository, known, origin, done⟩
    obtain ⟨plain, chain⟩ := reaches_of_walk done
    exact ⟨version, origin, plain, repository, known, chain⟩
  · rintro ⟨version, origin, plain, repository, known, _, named, path⟩
    exact ⟨version, repository, known, origin,
      walk_of_reaches plain path named fun _ _ => not_mem_nil⟩

section Base
variable (done : originalCandidateBase binding git = .ok base)
include done

theorem base_of_source (named : binding.source = some source)
    (candidate : Candidate git source) (message : git.message source = some (some previous)) :
    originalCandidateBase previous git = .ok base := by
  obtain ⟨_, _, plain, repository, _, _, again, path⟩ := originalCandidateBase_eq_ok.mp done
  cases again.symm.trans named
  rcases path.cases_head with rfl | ⟨next, ⟨_, bound, further⟩, rest⟩
  · exact absurd candidate plain.plain
  · cases bound.message.symm.trans message
    have valid := bound.valid
    simp only [SourceBinding.validIn, Bool.and_eq_true, beq_iff_eq] at valid
    exact originalCandidateBase_eq_ok.mpr
      ⟨valid.1.1.1, valid.1.2, plain, repository, valid.1.1.2, next, further, rest⟩

theorem base_of_deleted {refs : List String} (fewer : refs ⊆ git.retained) :
    originalCandidateBase binding { git with retained := refs } = .ok base := by
  obtain ⟨version, origin, plain, repository, known, source, named, path⟩ :=
    originalCandidateBase_eq_ok.mp done
  refine originalCandidateBase_eq_ok.mpr ⟨version, origin, ?_, repository, known, source, named, ?_⟩
  · exact ⟨plain.sha, plain.known, fun candidate => plain.plain (candidate.imp_left (@fewer _))⟩
  · -- A binding is valid or not whatever the references are.
    refine ReflTransGen.mono ?_ _ _ path
    rintro _ _ ⟨previous, bound, further⟩
    exact ⟨previous, ⟨bound.sha, bound.message, bound.valid⟩, further⟩

theorem not_broken (leads : Leads git repository binding commit) :
    ¬ Broken git repository commit := by
  obtain ⟨known, _, named, reached⟩ := leads
  obtain ⟨_, _, plain, _, same, _, again, path⟩ := originalCandidateBase_eq_ok.mp done
  cases known.symm.trans same
  cases named.symm.trans again
  have ends : Chain git repository commit base := by
    rcases ReflTransGen.total_of_right_unique reworks_unique path reached with back | onward
    · rcases back.cases_head with rfl | ⟨_, first, _⟩
      · exact .refl
      · exact absurd first (plain.ends _)
    · exact onward
  rintro (cycle | ⟨candidate, unbound⟩)
  · exact plain.acyclic ends cycle
  · rcases ends.cases_head with rfl | ⟨_, ⟨_, bound, _⟩, _⟩
    · exact plain.plain candidate
    · exact unbound _ bound

end Base
end Walk

theorem application_base_survives_rework (git : Repository) (binding : SourceBinding) :
    (∀ base, originalCandidateBase binding git = .ok base →
      (∃ repository, Leads git repository binding base ∧ ¬ Candidate git base) ∧
      (∀ source previous, binding.source = some source → Candidate git source →
        git.message source = some (some previous) → originalCandidateBase previous git = .ok base) ∧
      ∀ refs ⊆ git.retained,
        originalCandidateBase binding { git with retained := refs } = .ok base) ∧
    ∀ repository commit, Leads git repository binding commit → Broken git repository commit →
      ∀ base, originalCandidateBase binding git ≠ .ok base := by
  constructor
  · intro _ done
    refine ⟨?_, fun _ _ => base_of_source done, fun _ => base_of_deleted done⟩
    obtain ⟨_, _, plain, repository, leads⟩ := originalCandidateBase_eq_ok.mp done
    exact ⟨repository, leads, plain.plain⟩
  · exact fun _ _ leads broken _ done => not_broken done leads broken

end WinWinCode.Device
