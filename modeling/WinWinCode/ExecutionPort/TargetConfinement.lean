import WinWinCode.ExecutionPort.ActionNormalizer

/-!
Where a file action can reach. The declared targets of an intent are compared with the
observed ones as texts; on relative paths without white space around them that is the
subtree relation, except that the comparison also goes on at a colon. What a request for
fewer paths with fewer effects shows never exceeds what the whole request shows.
-/

namespace WinWinCode.ExecutionPort

open Fallible Paths Text List

section Sets
variable {Item : Type} [DecidableEq Item] {less : Item → Item → Bool} {item other : Item}

theorem mem_insertDistinct {items : List Item} :
    other ∈ insertDistinct less item items ↔ other = item ∨ other ∈ items := by
  induction items with
  | nil => simp [insertDistinct]
  | cons _ _ ih =>
    unfold insertDistinct
    split
    · rename_i same
      simp [same]
    · split
      · exact mem_cons
      · rw [mem_cons, ih, mem_cons]
        tauto

@[simp] theorem mem_sortedSet {items : List Item} : item ∈ sortedSet less items ↔ item ∈ items := by
  induction items with
  | nil => exact Iff.rfl
  | cons _ _ ih =>
    rw [sortedSet, foldr_cons, mem_insertDistinct, mem_cons]
    exact or_congr Iff.rfl ih

theorem sortedSet_subset {small large : List Item} (among : small ⊆ large) :
    sortedSet less small ⊆ sortedSet less large := by
  intro item
  simpa using @among item

theorem sortedSet_of_same {items : List Item} (same : ∀ other ∈ items, other = item)
    (some : items ≠ []) : sortedSet less items = [item] := by
  induction items with
  | nil => exact absurd rfl some
  | cons _ rest ih =>
    obtain ⟨rfl, same⟩ := forall_mem_cons.mp same
    rw [sortedSet, foldr_cons]
    cases rest with
    | nil => rfl
    | cons next rest =>
      rw [← sortedSet, ih same (cons_ne_nil next rest)]
      exact if_pos rfl

theorem dedup_one {small large : List Item}
    (among : small ⊆ large) (some : small ≠ []) (one : large.dedup.length = 1) :
    small.dedup.length = 1 := by
  have fewer := ((nodup_dedup small).subperm fun item member =>
    mem_dedup.mpr (among (mem_dedup.mp member))).length_le
  have := length_pos_iff.mpr (mt (dedup_eq_nil small).mp some)
  omega

end Sets

variable {Json : Type} {argv : List String → String} {intent : ActionIntent}

/-- A target in the form in which a relative path is observed. -/
def IsRelativeTarget (target : String) : Prop :=
  ∃ declared ∈ requestedPath target, declared.absolute = false ∧ declared.text = target.toList

instance (target : String) : Decidable (IsRelativeTarget target) :=
  inferInstanceAs (Decidable (∃ declared ∈ requestedPath target, _))

/-- The path is a declared target or lies in the directory tree below one. -/
def InsideTargets (intent : ActionIntent) (path : String) : Prop :=
  ∃ resolved ∈ requestedPath path, ∃ target ∈ intent.targets,
    ∃ declared ∈ requestedPath target, resolved.Within declared

instance (path : String) : Decidable (InsideTargets intent path) :=
  inferInstanceAs (Decidable (∃ resolved ∈ requestedPath path, _))

theorem normalizePath_eq_ok {field value result : String} : normalizePath field value = .ok result ↔
      isBlank value = false ∧ '\x00' ∉ value.toList ∧
        ∃ path, requestedPath value = some path ∧ String.ofList path.text = result := by
  simp only [normalizePath, validateText, eq_ok]
  simp [and_assoc]

variable {observed : ObservedAction} {request : FileRequest}

theorem mem_targets_of_normalizeFile (done : normalizeFile request = .ok observed) {path : String}
    (among : path ∈ request.paths) : ∃ resolved, requestedPath path = some resolved ∧
      String.ofList resolved.text ∈ observed.targets := by
  simp only [normalizeFile, eq_ok] at done
  obtain ⟨_, _, _, converted, rfl⟩ := done
  obtain ⟨_, member, normalized⟩ := exists_of_mapM converted path among
  obtain ⟨_, _, resolved, found, rfl⟩ := normalizePath_eq_ok.mp normalized
  exact ⟨resolved, found, mem_sortedSet.mpr member⟩

theorem agrees_iff : (compareIntent intent observed).agrees ↔
      (∀ object ∈ observed.objects, object = intent.object) ∧
      observed.operation = intent.operation ∧
      observed.scope.ctorIdx ≤ intent.scope.ctorIdx ∧
      (∀ target ∈ observed.targets, ∃ declared ∈ intent.targets, targetIsCovered declared target) ∧
      observed.minimumRisk.ctorIdx ≤ intent.executorRisk.ctorIdx := by
  simp [compareIntent, intentMismatches]

/-- What covering means for a declared relative path: the observed text is the same, or
goes on at a slash or a colon. -/
theorem text_of_covered {target observed : String} (relative : IsRelativeTarget target)
    (bare : trim target.toList = target.toList) (named : target ≠ "*")
    (covered : targetIsCovered target observed) :
    observed.toList = target.toList ∨ ∃ mark rest, (mark = '/' ∨ mark = ':') ∧
        observed.toList = target.toList ++ mark :: rest := by
  obtain ⟨declared, _, level, spelled⟩ := relative
  have whole : (trim target.toList).rdropWhile (· == '/') = target.toList := by
    rw [bare, ← spelled, declared.rdropWhile_text level]
  simp only [targetIsCovered, whole, Bool.or_eq_true, Bool.and_eq_true, beq_iff_eq,
    isPrefixOf_iff_prefix, contains_iff_mem, mem_cons, not_mem_nil,
    or_false] at covered
  -- the three ways of `target_is_covered`: the star, the same text, a longer text
  rcases covered with (star | same) | ⟨⟨rest, goes⟩, mark⟩
  · exact absurd (String.toList_inj.mp star) named
  · exact .inl same.symm
  · rw [← goes, drop_left] at mark
    cases rest with
    | nil => simp at mark
    | cons symbol rest =>
      refine .inr ⟨symbol, rest, ?_, goes.symm⟩
      simpa using mark

/-- Declared relative targets confine a file action whose intent agrees: each requested path
lies inside one of them, or is spelled as one of them, a colon and more text. -/
theorem declared_targets_confine_files {request : FileRequest} {normalization : ActionNormalization}
    (relative : ∀ target ∈ intent.targets, IsRelativeTarget target ∧ target ≠ "*")
    (bare : ∀ target ∈ intent.targets, trim target.toList = target.toList)
    (normalized : normalizeAction argv intent (.file request : ToolRequest Json) =
      .ok normalization) (agrees : normalization.comparison.agrees = true) :
    ∀ path ∈ request.paths, InsideTargets intent path ∨
      ∃ resolved ∈ requestedPath path, ∃ target ∈ intent.targets,
        ∃ rest, resolved.text = target.toList ++ ':' :: rest := by
  intro path among
  simp only [normalizeAction, normalizeRequest, eq_ok] at normalized
  obtain ⟨_, _, _, done, rfl⟩ := normalized
  obtain ⟨resolved, found, member⟩ := mem_targets_of_normalizeFile done among
  obtain ⟨target, declares, covered⟩ := (agrees_iff.mp agrees).2.2.2.1 _ member
  obtain ⟨normal, named⟩ := relative target declares
  have spelled := text_of_covered normal (bare target declares) named covered
  rw [String.toList_ofList] at spelled
  obtain ⟨declared, placed, level, text⟩ := normal
  have inside (goes : resolved.text = declared.text ∨
      ∃ rest, resolved.text = declared.text ++ '/' :: rest) : InsideTargets intent path :=
    ⟨resolved, found, target, declares, declared, placed, LexicalPath.within_of_text level goes⟩
  -- a colon is not a step down, so that case stays apart
  rcases spelled with same | ⟨_, rest, rfl | rfl, goes⟩
  · exact .inl (inside (Or.inl (same.trans text.symm)))
  · exact .inl (inside (Or.inr ⟨rest, by rw [goes, text]⟩))
  · exact .inr ⟨resolved, found, target, declares, rest, goes⟩

def codeChange (targets : List String) : ActionIntent :=
  { object := .productionCode, operation := .modify, intent := .implement, scope := .repository
    targets := targets, requirementRefs := [], planRefs := [], expectedEffect := "change"
    scopeDelta := none, rollback := none, executorRisk := .medium }

def Passes (targets : List String) (path : String) : Prop :=
  ∃ normalization, normalizeAction String.join (codeChange targets)
    (.file ⟨.write, [path], {}⟩ : ToolRequest Unit) = .ok normalization ∧
      normalization.comparison.agrees = true

theorem agreed_of_eval (evaluated : ((normalizeAction String.join intent
      (.file request : ToolRequest Unit)).toOption.any (·.comparison.agrees))) :
    ∃ normalization, normalizeAction String.join intent (.file request : ToolRequest Unit) =
      .ok normalization ∧ normalization.comparison.agrees = true := by
  cases done : normalizeAction String.join intent (.file request : ToolRequest Unit) with
  | error _ => simp [done, Except.toOption] at evaluated
  | ok normalization => exact ⟨normalization, rfl, by simpa [done, Except.toOption] using evaluated⟩

theorem declared_targets_confine_files_sample :
    Passes ["src"] "src\\lib/../main.rs" ∧ (InsideTargets (codeChange ["src"]) "src\\lib/../main.rs" ∨
      ∃ resolved ∈ requestedPath "src\\lib/../main.rs", ∃ target ∈ ["src"],
        ∃ rest, resolved.text = target.toList ++ ':' :: rest) := by
  have passes : Passes ["src"] "src\\lib/../main.rs" := agreed_of_eval (by decide +kernel)
  refine ⟨passes, ?_⟩
  obtain ⟨_, done, agrees⟩ := passes
  exact declared_targets_confine_files (by decide +kernel) (by decide +kernel) done agrees _
    mem_cons_self

/-- A colon leads out of a declared directory, and white space before a star makes a relative
path of it that covers everything. -/
theorem targets_escaped_by_colon_and_space : (Passes ["src"] "src:other/main.rs" ∧
      (∀ target ∈ ["src"], IsRelativeTarget target ∧ target ≠ "*") ∧
      ¬ InsideTargets (codeChange ["src"]) "src:other/main.rs") ∧
    (Passes [" *"] "main.rs" ∧ (∀ target ∈ [" *"], IsRelativeTarget target ∧ target ≠ "*") ∧
      ¬ InsideTargets (codeChange [" *"]) "main.rs") :=
  ⟨⟨agreed_of_eval (by decide +kernel), by decide +kernel, by decide +kernel⟩,
    agreed_of_eval (by decide +kernel), by decide +kernel, by decide +kernel⟩

/-! Smaller requests. -/

/-- The effects of the smaller analysis are those of the larger, or neutral. -/
structure FileAnalysis.Resets (small large : FileAnalysis) : Prop where
  testOwner : small.testOwner = none ∨ small.testOwner = large.testOwner
  assertionEffect : small.assertionEffect = .unchanged ∨
    small.assertionEffect = large.assertionEffect
  dependencyEffect : small.dependencyEffect = .none ∨
    small.dependencyEffect = large.dependencyEffect
  publicApiChange : small.publicApiChange = false ∨ small.publicApiChange = large.publicApiChange
  migrationChange : small.migrationChange = false ∨ small.migrationChange = large.migrationChange

structure FileRequest.Smaller (small large : FileRequest) : Prop where
  operation : small.operation = large.operation
  named : small.paths ≠ []
  paths : small.paths ⊆ large.paths
  analysis : small.analysis.Resets large.analysis

variable {small large : FileAnalysis}

theorem FileAnalysis.Resets.objects (resets : small.Resets large) :
    small.objects ⊆ large.objects := by
  intro _ member
  rw [FileAnalysis.objects, mem_append] at member ⊢
  refine member.imp (fun member => ?_) fun member => ?_
  · rcases resets.testOwner with neutral | same
    · simp [neutral] at member
    · rwa [same] at member
  · rcases resets.dependencyEffect with neutral | same
    · simp [neutral] at member
    · rwa [same] at member

theorem FileAnalysis.Resets.facts (resets : small.Resets large) : small.facts ⊆ large.facts := by
  intro _ member
  simp only [FileAnalysis.facts, mem_append] at member ⊢
  refine member.imp (.imp (.imp (.imp (.imp ?_ ?_) ?_) ?_) ?_) ?_
  · rcases resets.testOwner with _ | _ <;> simp [*]
  · rcases resets.testOwner with _ | _ <;> simp [*]
  · rcases resets.assertionEffect with _ | _ <;> simp [*]
  · rcases resets.dependencyEffect with _ | _ <;> simp [*]
  · rcases resets.publicApiChange with _ | _ <;> simp [*]
  · rcases resets.migrationChange with _ | _ <;> simp [*]

theorem any_mono {Item : Type} {small large : List Item} (among : small ⊆ large)
    {test : Item → Bool} (found : small.any test) : large.any test = true := by
  obtain ⟨item, member, hit⟩ := any_eq_true.mp found
  exact any_eq_true.mpr ⟨item, among member, hit⟩

theorem minimumRisk_mono (operation : ActionOperation) {small large : List ObservedFact}
    (among : small ⊆ large) :
    (minimumRisk operation small).ctorIdx ≤ (minimumRisk operation large).ctorIdx := by
  unfold minimumRisk
  -- from the most severe level down: what raises the smaller one raises the larger
  split
  · rename_i found
    rw [if_pos (any_mono among found)]
  · split
    · rename_i found
      split
      · decide
      · rw [if_pos (found.imp id (.imp id (any_mono among)))]
    · split
      · rename_i found
        split
        · decide
        · split
          · decide
          · rw [if_pos (found.imp id (any_mono among))]
      · exact Nat.zero_le _

theorem fileScope_mono {less : String → String → Bool} {small large : List String}
    (among : small ⊆ large) (some : small ≠ []) :
    (fileScope (sortedSet less small)).ctorIdx ≤ (fileScope (sortedSet less large)).ctorIdx := by
  have within : sortedSet less small ⊆ sortedSet less large := sortedSet_subset among
  -- a single file stays single, and files of one module stay in it
  have alone : (sortedSet less large).length = 1 → (sortedSet less small).length = 1 := by
    intro alone
    obtain ⟨path, only⟩ := length_eq_one_iff.mp alone
    rw [only] at within
    rw [sortedSet_of_same (fun other member => mem_singleton.mp
      (within (mem_sortedSet.mpr member))) some]
    rfl
  have one := dedup_one (map_subset
    (fun path => ((path.toList.dropWhile (· == '/')).splitOn '/').headD []) within)
    (by simpa [eq_nil_iff_forall_not_mem] using some)
  dsimp only [fileScope]
  split
  · rename_i wide
    rw [if_pos (any_mono within wide)]
  · split_ifs
    all_goals first | decide | simp_all

theorem fileFacts_mono {small large : FileRequest} (smaller : small.Smaller large)
    {kept paths : List String} (among : kept ⊆ paths) :
    fileFacts small kept ⊆ fileFacts large paths := by
  intro _
  simp only [fileFacts, factSet, mem_sortedSet, mem_append, smaller.operation, mem_flatMap]
  exact .imp (.imp id fun ⟨path, member, listed⟩ => ⟨path, among member, listed⟩)
    fun listed => smaller.analysis.facts listed

structure ObservedAction.Bounded (small large : ObservedAction) : Prop where
  operation : small.operation = large.operation
  objects : small.objects ⊆ large.objects
  facts : small.facts ⊆ large.facts
  targets : small.targets ⊆ large.targets
  scope : small.scope.ctorIdx ≤ large.scope.ctorIdx
  minimumRisk : small.minimumRisk.ctorIdx ≤ large.minimumRisk.ctorIdx

theorem normalizeFile_smaller {small large : FileRequest} (smaller : small.Smaller large)
    (done : normalizeFile large = .ok observed) :
    ∃ bounded, normalizeFile small = .ok bounded ∧ bounded.Bounded observed := by
  simp only [normalizeFile, validateNonEmpty, validateNonBlankValues, eq_ok, forM_eq_ok] at done ⊢
  obtain ⟨_, ⟨_, _, valid⟩, paths, converted, rfl⟩ := done
  have found := exists_of_mapM converted
  rcases mapM_total fun path member =>
    (found path (smaller.paths member)).imp fun _ => And.right with ⟨kept, mapped⟩
  -- each path is normalized on its own, so the larger request met the same targets
  have among : kept ⊆ paths := by
    intro target member
    obtain ⟨path, named, same⟩ := mem_of_mapM mapped target member
    obtain ⟨_, listed, resolved⟩ := found path (smaller.paths named)
    rwa [← Except.ok.inj (resolved.symm.trans same)]
  have some : kept ≠ [] := by
    obtain ⟨path, named⟩ := exists_mem_of_ne_nil _ smaller.named
    obtain ⟨_, member, _⟩ := exists_of_mapM mapped path named
    exact ne_nil_of_mem member
  have facts := fileFacts_mono smaller
    (sortedSet_subset among : sortedSet (fun left right => decide (left < right)) kept ⊆ _)
  refine ⟨_, ⟨(), ⟨(), smaller.named, fun path member => valid path (smaller.paths member)⟩, kept,
    mapped, rfl⟩, congrArg FileOperation.action smaller.operation, sortedSet_subset ?_, facts,
    sortedSet_subset among, fileScope_mono among some, ?_⟩
  · intro _
    simp only [mem_append]
    exact .imp (fun listed => map_subset _ (sortedSet_subset among) listed)
      fun listed => smaller.analysis.objects listed
  · rw [smaller.operation]
    exact minimumRisk_mono _ facts

/-- A smaller file request is accepted wherever the larger one is, and nothing observed of
it exceeds what is observed of the larger. -/
theorem smaller_request_agrees {small large : FileRequest} (smaller : small.Smaller large)
    {normalization : ActionNormalization}
    (normalized : normalizeAction argv intent (.file large : ToolRequest Json) = .ok normalization)
    (agrees : normalization.comparison.agrees = true) :
    ∃ bounded, normalizeAction argv intent (.file small : ToolRequest Json) = .ok bounded ∧
      bounded.comparison.agrees = true ∧ bounded.observed.Bounded normalization.observed := by
  simp only [normalizeAction, normalizeRequest, eq_ok] at normalized ⊢
  obtain ⟨_, valid, _, done, rfl⟩ := normalized
  obtain ⟨found, normalized, bounded⟩ := normalizeFile_smaller smaller done
  obtain ⟨declared, same, wide, covered, accepted⟩ := agrees_iff.mp agrees
  refine ⟨_, ⟨_, valid, found, normalized, rfl⟩, agrees_iff.mpr ?_, bounded⟩
  exact ⟨fun object member => declared object (bounded.objects member),
    bounded.operation.trans same, bounded.scope.trans wide,
    fun target member => covered target (bounded.targets member),
    bounded.minimumRisk.trans accepted⟩

def wholeRequest : FileRequest where
  operation := .write
  paths := ["src/a.rs", "src/b.rs"]
  analysis := { assertionEffect := .unknown }

theorem smaller_request_agrees_one : ∃ bounded,
    normalizeAction String.join (codeChange ["src"])
      (.file ⟨.write, ["src/b.rs"], {}⟩ : ToolRequest Unit) = .ok bounded ∧
      bounded.comparison.agrees = true := by
  have smaller : FileRequest.Smaller ⟨.write, ["src/b.rs"], {}⟩ wholeRequest :=
    ⟨rfl, by decide, by decide, ⟨.inl rfl, .inl rfl, .inl rfl, .inl rfl, .inl rfl⟩⟩
  rcases @agreed_of_eval (codeChange ["src"]) wholeRequest (by decide +kernel) with
    ⟨normalization, done, agrees⟩
  obtain ⟨bounded, normalized, accepted, _⟩ := smaller_request_agrees smaller done agrees
  exact ⟨bounded, normalized, accepted⟩

end WinWinCode.ExecutionPort
