import WinWinCode.Fusion.Analysis

/-!
The reports of the analysis beside its entries. A claim without evidence, or without evidence
of a kind it requires, is reported under the key its group was displayed with when the claim
was read. A later claim of the group may still bring the prefixed spelling, which the entry of
the group then has and the report has not.
-/

namespace WinWinCode.Fusion
open Fallible List

variable {assertions : List Assertion} {assertion : Assertion}

section Entries
variable {group : List Assertion}

theorem positionFindings_eq : positionFindings group =
    (positionFinding group .supports).toList ++ (positionFinding group .opposes).toList := by
  unfold positionFindings
  cases supports : positionFinding group .supports <;>
    cases opposes : positionFinding group .opposes <;> simp [supports, opposes]

theorem positionFinding_of_mem (member : assertion ∈ group) :
    positionFinding group assertion.2.position ≠ none := by
  have sided : assertion ∈ group.filter (·.2.position = assertion.2.position) :=
    mem_filter.mpr ⟨member, decide_eq_true rfl⟩
  unfold positionFinding
  dsimp only
  rw [if_neg (ne_nil_of_mem sided)]
  exact Option.some_ne_none _

/-- A group has a finding or is a conflict, but not both. -/
theorem entry_cases (occupied : group ≠ []) :
    (∃ finding, findingOf group = some finding ∧ finding.claimKey = displayKey group ∧
      conflictOf group = none) ∨
    ∃ conflict, conflictOf group = some conflict ∧ conflict.claimKey = displayKey group ∧
      findingOf group = none := by
  obtain ⟨assertion, member⟩ := exists_mem_of_ne_nil _ occupied
  have sided := positionFinding_of_mem member
  -- an assertion of the group rules out that neither side has a finding
  unfold findingOf conflictOf
  rw [positionFindings_eq]
  cases supports : positionFinding group .supports <;>
    cases opposes : positionFinding group .opposes
  · cases side : assertion.2.position <;> simp [side, supports, opposes] at sided
  all_goals simp

theorem mem_groupOf {key : String} : assertion ∈ groupOf assertions key ↔
      assertion ∈ assertions ∧ claimGroupKey assertion.2.claimKey = key := by
  simp [groupOf]

theorem claimGroupKey_displayKey {key : String} (occupied : groupOf assertions key ≠ []) :
    claimGroupKey (displayKey (groupOf assertions key)) = key := by
  obtain ⟨_, member, spelled⟩ := displayKey_mem occupied
  rw [← spelled]
  exact (mem_groupOf.mp member).2

end Entries

/-- The keys of all entries, place after place. -/
def FusionAnalysis.entryKeys (analysis : FusionAnalysis) : List String :=
  analysis.consensus.map (·.claimKey) ++ analysis.conflicts.map (·.claimKey) ++
    analysis.uniqueInsights.map (·.claimKey)

/-- Each group has one entry, in one of the three lists. -/
theorem entries_perm {groups : List (List Assertion)} (occupied : ∀ group ∈ groups, group ≠ []) :
    (((groups.filter (·.length ≠ 1)).filterMap findingOf).map (·.claimKey) ++
      (groups.filterMap conflictOf).map (·.claimKey) ++
      ((groups.filter (·.length = 1)).filterMap findingOf).map (·.claimKey)).Perm
      (groups.map displayKey) := by
  induction groups with
  | nil => exact .nil
  | cons group rest ih =>
    obtain ⟨head, tail⟩ := forall_mem_cons.mp occupied
    refine .trans ?_ ((ih tail).cons (displayKey group))
    rcases entry_cases head with ⟨_, found, named, calm⟩ | ⟨_, found, named, calm⟩
    · by_cases single : group.length = 1
      · simp [single, found, calm, named, -append_assoc]
      · simp [single, found, calm, named]
    · by_cases single : group.length = 1 <;> simp [single, found, calm, named]

section Reports
variable {candidates : List FusionCandidateClaims} {analysis : FusionAnalysis}

theorem occupied_of_listed {key : String}
    (listed : key ∈ inOrder (assertions.map (claimGroupKey ·.2.claimKey))) :
    groupOf assertions key ≠ [] := by
  obtain ⟨_, member, same⟩ := mem_map.mp (mem_inOrder.mp listed)
  exact ne_nil_of_mem (mem_groupOf.mpr ⟨member, same⟩)

theorem entryKeys_perm (analysed : analyzeFusion candidates = .ok analysis) :
    analysis.entryKeys.Perm ((inOrder ((assertionsOf candidates).map
      (claimGroupKey ·.2.claimKey))).map fun key => displayKey (groupOf (assertionsOf candidates)
        key)) := by
  obtain ⟨_, _, analysed⟩ := bind_eq_ok.mp analysed
  obtain rfl := pure_eq_ok.mp analysed
  refine (entries_perm ?_).trans (Perm.of_eq map_map)
  intro group member
  obtain ⟨key, listed, rfl⟩ := mem_map.mp member
  exact occupied_of_listed listed

/-- The key of an entry is the one its group is displayed under. -/
theorem mem_entryKeys (analysed : analyzeFusion candidates = .ok analysis) {key : String} :
    key ∈ analysis.entryKeys ↔ key = displayKey (groupOf (assertionsOf candidates)
      (claimGroupKey key)) ∧ ∃ assertion ∈ assertionsOf candidates,
        claimGroupKey assertion.2.claimKey = claimGroupKey key := by
  rw [(entryKeys_perm analysed).mem_iff, mem_map]
  constructor
  · rintro ⟨_, listed, rfl⟩
    rw [claimGroupKey_displayKey (occupied_of_listed listed)]
    exact ⟨rfl, mem_map.mp (mem_inOrder.mp listed)⟩
  · rintro ⟨displayed, present⟩
    exact ⟨claimGroupKey key, mem_inOrder.mpr (mem_map.mpr present), displayed.symm⟩

theorem isPrefixed_foldl (first : String) (rest : List String) :
    isPrefixed (rest.foldl preferClaimKey first) = (isPrefixed first || rest.any isPrefixed) := by
  induction rest generalizing first with
  | nil => simp
  | cons next rest ih =>
    rw [foldl_cons, ih, any_cons, ← Bool.or_assoc]
    unfold preferClaimKey
    cases marked : isPrefixed first <;> cases later : isPrefixed next <;> simp [marked, later]

theorem foldl_eq_self {first : String} {rest : List String} :
    rest.foldl preferClaimKey first = first ↔
      (rest.any isPrefixed = true → isPrefixed first = true) := by
  constructor
  · intro same marked
    have shown := isPrefixed_foldl first rest
    rwa [same, marked, Bool.or_true] at shown
  · intro settled
    refine List.foldlRecOn (motive := fun key => key = first) rest preferClaimKey rfl ?_
    rintro _ rfl next member
    unfold preferClaimKey
    split
    · rename_i preferred
      simp only [Bool.and_eq_true, Bool.not_eq_true'] at preferred
      rw [settled (any_eq_true.mpr ⟨next, member, preferred.1⟩)] at preferred
      cases preferred.2
    · rfl

/-- Later claims of a group keep the key it is displayed under unless they bring the prefix. -/
theorem displayKey_append {group : List Assertion} (occupied : group ≠ [])
    (later : List Assertion) : displayKey (group ++ later) = displayKey group ↔
      ((∃ assertion ∈ later, isPrefixed assertion.2.claimKey = true) →
        ∃ assertion ∈ group, isPrefixed assertion.2.claimKey = true) := by
  obtain ⟨first, rest, rfl⟩ := exists_cons_of_ne_nil occupied
  have joined : displayKey (first :: rest ++ later) =
      (later.map (·.2.claimKey)).foldl preferClaimKey (displayKey (first :: rest)) := by
    simp [displayKey]
  have marked : isPrefixed (displayKey (first :: rest)) =
      (first :: rest).any fun assertion => isPrefixed assertion.2.claimKey := by
    rw [displayKey, map_cons, isPrefixed_foldl, any_map]
    rfl
  rw [joined, foldl_eq_self, marked, any_map, any_eq_true, any_eq_true]
  rfl

theorem mem_shownAssertions {seen : List Assertion} {shown : Assertion × String} :
    shown ∈ shownAssertions seen assertions ↔ ∃ before after,
      assertions = before ++ shown.1 :: after ∧ shown.2 =
        displayKey (groupOf (seen ++ before ++ [shown.1]) (claimGroupKey shown.1.2.claimKey)) := by
  induction assertions generalizing seen with
  | nil => simp [shownAssertions]
  | cons first rest ih =>
    rw [shownAssertions, mem_cons, ih]
    constructor
    · rintro (rfl | ⟨before, after, rfl, key⟩)
      · exact ⟨[], rest, rfl, by simp⟩
      · exact ⟨first :: before, after, rfl, by simpa using key⟩
    · rintro ⟨before, after, split, key⟩
      cases before with
      | nil =>
        cases split
        exact .inl (Prod.ext rfl (by simpa using key))
      | cons _ before =>
        cases split
        exact .inr ⟨before, after, rfl, by simpa using key⟩

/-- An entry of the analysis has the reported key and is about the group of the claim. -/
def FusionAnalysis.Names (analysis : FusionAnalysis) (claim : FusionClaim) (reported : String) :
    Prop :=
  reported ∈ analysis.entryKeys ∧ claimGroupKey reported = claimGroupKey claim.claimKey

def FusionClaim.Reported (claim : FusionClaim) : Prop :=
  claim.evidence = [] ∨ ∃ required ∈ claim.requiredEvidence,
    required ∉ claim.evidence.map (·.evidenceType)

/-- The prefix is not brought to a group after a claim of it was read and reported: if a later
claim of the group has it, so has the claim itself or an earlier one. -/
def PrefixedInTime (assertions : List Assertion) : Prop :=
  ∀ before assertion after, assertions = before ++ assertion :: after → assertion.2.Reported →
    (∃ later ∈ after, claimGroupKey later.2.claimKey = claimGroupKey assertion.2.claimKey ∧
      isPrefixed later.2.claimKey = true) →
    ∃ early ∈ before ++ [assertion],
      claimGroupKey early.2.claimKey = claimGroupKey assertion.2.claimKey ∧
        isPrefixed early.2.claimKey = true

theorem names_iff (analysed : analyzeFusion candidates = .ok analysis)
    {before after : List Assertion}
    (split : assertionsOf candidates = before ++ assertion :: after) : analysis.Names assertion.2
        (displayKey (groupOf (before ++ [assertion]) (claimGroupKey assertion.2.claimKey))) ↔
      ((∃ later ∈ after, claimGroupKey later.2.claimKey = claimGroupKey assertion.2.claimKey ∧
        isPrefixed later.2.claimKey = true) →
      ∃ early ∈ before ++ [assertion],
        claimGroupKey early.2.claimKey = claimGroupKey assertion.2.claimKey ∧
          isPrefixed early.2.claimKey = true) := by
  have early : assertion ∈ groupOf (before ++ [assertion]) (claimGroupKey assertion.2.claimKey) :=
    mem_groupOf.mpr ⟨by simp, rfl⟩
  -- what the group was when the claim was read is a beginning of what it became
  have grows : groupOf (assertionsOf candidates) (claimGroupKey assertion.2.claimKey) =
      groupOf (before ++ [assertion]) (claimGroupKey assertion.2.claimKey) ++
        groupOf after (claimGroupKey assertion.2.claimKey) := by
    rw [split, groupOf, groupOf, groupOf, ← filter_append, append_assoc]
    rfl
  have shown := claimGroupKey_displayKey (ne_nil_of_mem early)
  have present : ∃ other ∈ assertionsOf candidates,
      claimGroupKey other.2.claimKey = claimGroupKey assertion.2.claimKey :=
    ⟨assertion, by simp [split], rfl⟩
  rw [FusionAnalysis.Names, mem_entryKeys analysed, shown, grows, eq_comm,
    displayKey_append (ne_nil_of_mem early)]
  simp only [mem_groupOf, and_assoc, present, and_true]

theorem unsupported_iff (analysed : analyzeFusion candidates = .ok analysis)
    {report : FusionUnsupportedClaim} : report ∈ analysis.unsupportedClaims ↔
      ∃ shown ∈ shownAssertions [] (assertionsOf candidates),
        shown.1.2.evidence = [] ∧ ⟨shown.1.1, shown.2, shown.1.2.position⟩ = report := by
  obtain ⟨_, _, analysed⟩ := bind_eq_ok.mp analysed
  obtain rfl := pure_eq_ok.mp analysed
  simp only [mem_filterMap, unsupportedClaim, Option.ite_none_right_eq_some, Option.some.injEq]

theorem missing_iff (analysed : analyzeFusion candidates = .ok analysis)
    {report : FusionMissingEvidence} : report ∈ analysis.missingEvidence ↔
      ∃ shown ∈ shownAssertions [] (assertionsOf candidates),
        ∃ required ∈ shown.1.2.requiredEvidence,
          required ∉ shown.1.2.evidence.map (·.evidenceType) ∧
            ⟨shown.1.1, shown.2, required⟩ = report := by
  obtain ⟨_, _, analysed⟩ := bind_eq_ok.mp analysed
  obtain rfl := pure_eq_ok.mp analysed
  simp only [mem_flatMap, missingEvidence, mem_map, mem_filter, decide_eq_true_eq, and_assoc]

/-- Every report is about a claim of its candidate and has the key of the entry of its group,
exactly when the prefix comes in time. -/
theorem reports_name_their_groups (analysed : analyzeFusion candidates = .ok analysis) :
    ((∀ report ∈ analysis.unsupportedClaims, ∃ claim,
        (report.candidateId, claim) ∈ assertionsOf candidates ∧ claim.evidence = [] ∧
          claim.position = report.position ∧ analysis.Names claim report.claimKey) ∧
      ∀ report ∈ analysis.missingEvidence, ∃ claim,
        (report.candidateId, claim) ∈ assertionsOf candidates ∧
          report.evidenceType ∈ claim.requiredEvidence ∧
          report.evidenceType ∉ claim.evidence.map (·.evidenceType) ∧
          analysis.Names claim report.claimKey) ↔
      PrefixedInTime (assertionsOf candidates) := by
  constructor
  · rintro ⟨unsupported, missing⟩ before assertion after split reported
    have listed : (assertion, displayKey (groupOf (before ++ [assertion])
        (claimGroupKey assertion.2.claimKey))) ∈ shownAssertions [] (assertionsOf candidates) :=
      mem_shownAssertions.mpr ⟨before, after, split, rfl⟩
    have shown := claimGroupKey_displayKey (ne_nil_of_mem
      (mem_groupOf.mpr ⟨mem_append_right before (mem_singleton_self assertion), rfl⟩))
    refine (names_iff analysed split).mp ⟨?_, shown⟩
    rcases reported with bare | ⟨required, wanted, absent⟩
    · obtain ⟨_, _, _, _, named⟩ :=
        unsupported _ ((unsupported_iff analysed).mpr ⟨_, listed, bare, rfl⟩)
      exact named.1
    · obtain ⟨_, _, _, _, named⟩ :=
        missing _ ((missing_iff analysed).mpr ⟨_, listed, required, wanted, absent, rfl⟩)
      exact named.1
  · intro inTime
    have named : ∀ shown ∈ shownAssertions [] (assertionsOf candidates), shown.1.2.Reported →
        shown.1 ∈ assertionsOf candidates ∧ analysis.Names shown.1.2 shown.2 := by
      intro shown listed reported
      obtain ⟨before, after, split, key⟩ := mem_shownAssertions.mp listed
      rw [key]
      exact ⟨by simp [split], (names_iff analysed split).mpr (inTime _ _ _ split reported)⟩
    constructor
    · intro report member
      obtain ⟨shown, listed, bare, rfl⟩ := (unsupported_iff analysed).mp member
      obtain ⟨present, names⟩ := named shown listed (.inl bare)
      exact ⟨shown.1.2, present, bare, rfl, names⟩
    · intro report member
      obtain ⟨shown, listed, required, wanted, absent, rfl⟩ := (missing_iff analysed).mp member
      obtain ⟨present, names⟩ := named shown listed (.inr ⟨required, wanted, absent⟩)
      exact ⟨shown.1.2, present, wanted, absent, names⟩

end Reports

/-- One claim agreed on under two spellings, one in dispute and one of a single candidate. -/
def severalGroups : List FusionCandidateClaims :=
  [⟨"a", [⟨"claim:x", "s", .supports, [], []⟩, ⟨"y", "s", .supports, [], []⟩]⟩,
    ⟨"b", [⟨"x", "s", .supports, [], []⟩, ⟨"y", "s", .opposes, [], []⟩,
      ⟨"z", "s", .supports, [], []⟩]⟩]

def severalAnalysis : FusionAnalysis where
  consensus := [⟨⟨.supports, ["a", "b"], .unsupported⟩, "claim:x", "s"⟩]
  conflicts := [⟨"y", "s", [⟨.supports, ["a"], .unsupported⟩, ⟨.opposes, ["b"], .unsupported⟩],
    none, .undecided, none, none, none⟩]
  uniqueInsights := [⟨⟨.supports, ["b"], .unsupported⟩, "z", "s"⟩]
  unsupportedClaims := [⟨"a", "claim:x", .supports⟩, ⟨"a", "y", .supports⟩,
    ⟨"b", "claim:x", .supports⟩, ⟨"b", "y", .opposes⟩, ⟨"b", "z", .supports⟩]
  missingEvidence := []

theorem analyze_severalGroups : analyzeFusion severalGroups = .ok severalAnalysis := by
  decide +kernel

theorem reports_name_their_groups_several : analyzeFusion severalGroups = .ok severalAnalysis ∧
    ∀ report ∈ severalAnalysis.unsupportedClaims, ∃ claim,
      (report.candidateId, claim) ∈ assertionsOf severalGroups ∧ claim.evidence = [] ∧
        claim.position = report.position ∧ severalAnalysis.Names claim report.claimKey := by
  -- Only the first assertion has the prefix, so none brings it after another.
  have plain : ∀ later ∈ (assertionsOf severalGroups).tail,
      isPrefixed later.2.claimKey = false := by
    decide +kernel
  refine ⟨analyze_severalGroups, ((reports_name_their_groups analyze_severalGroups).mpr ?_).1⟩
  rintro before _ _ split _ ⟨later, member, _, marked⟩
  have behind : later ∈ (assertionsOf severalGroups).tail := by
    rw [split]
    cases before <;> simp [member]
  rw [plain later behind] at marked
  cases marked

/-- A second candidate spells the key of the first one's claim with the prefix. -/
def prefixedLater : List FusionCandidateClaims :=
  [⟨"a", [⟨"x", "x", .supports, [], []⟩]⟩, ⟨"b", [⟨"claim:x", "x", .supports, [], []⟩]⟩]

theorem report_key_not_listed : ∃ analysis, analyzeFusion prefixedLater = .ok analysis ∧
    ⟨"a", "x", .supports⟩ ∈ analysis.unsupportedClaims ∧ "x" ∉ analysis.entryKeys :=
  ⟨⟨[⟨⟨.supports, ["a", "b"], .unsupported⟩, "claim:x", "x"⟩], [], [],
    [⟨"a", "x", .supports⟩, ⟨"b", "claim:x", .supports⟩], []⟩, by decide +kernel⟩

/-- Every claim is in the group of exactly one entry, whichever of the three lists has it. -/
theorem claims_partitioned {candidates : List FusionCandidateClaims} {analysis : FusionAnalysis}
    (analysed : analyzeFusion candidates = .ok analysis) :
    (analysis.entryKeys.map claimGroupKey).Nodup ∧
      ∀ key, key ∈ analysis.entryKeys.map claimGroupKey ↔
        ∃ assertion ∈ assertionsOf candidates, claimGroupKey assertion.2.claimKey = key := by
  have entries : (analysis.entryKeys.map claimGroupKey).Perm
      (inOrder ((assertionsOf candidates).map (claimGroupKey ·.2.claimKey))) := by
    refine ((entryKeys_perm analysed).map claimGroupKey).trans (Perm.of_eq ?_)
    rw [map_map, map_congr_left, map_id]
    exact fun key listed => claimGroupKey_displayKey (occupied_of_listed listed)
  constructor
  · rw [entries.nodup_iff]
    exact (perm_insertionSort _ _).nodup_iff.mpr (nodup_dedup _)
  · intro key
    rw [entries.mem_iff, mem_inOrder, mem_map]

theorem claims_partitioned_several : (severalAnalysis.entryKeys.map claimGroupKey).Nodup :=
  (claims_partitioned analyze_severalGroups).1

end WinWinCode.Fusion
