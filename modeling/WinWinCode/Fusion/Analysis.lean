import WinWinCode.Foundation.Fallible
import WinWinCode.Foundation.Text

/-!
The analysis of candidate claims. Claims whose keys normalize to one key form a group, and a group
with assertions on both sides is a conflict, reported under one spelling of its key. A map that is
filled in a loop is given by its keys in order, and by the entries that fall to each key. Strings
compare by code points, as their UTF-8 bytes do.
-/

namespace WinWinCode.Fusion
open Fallible List

inductive EvidenceRefType
  | test | command | diff | file | commit | pullRequest | runtimeEvent | reviewFinding
  deriving DecidableEq

inductive VerificationFindingConclusion
  | pass | fail
  deriving DecidableEq

inductive FusionClaimPosition
  | supports | opposes
  deriving DecidableEq

inductive FusionEvidenceQuality
  | unsupported | toolObservation | verifiedFact
  deriving DecidableEq

structure FusionEvidence where
  evidenceType : EvidenceRefType
  sourceRef : String
  verifiedConclusion : Option VerificationFindingConclusion
  deriving DecidableEq

structure FusionClaim where
  (claimKey summary : String)
  position : FusionClaimPosition
  evidence : List FusionEvidence
  requiredEvidence : List EvidenceRefType
  deriving DecidableEq

structure FusionCandidateClaims where
  candidateId : String
  claims : List FusionClaim
  deriving DecidableEq

structure FusionPositionFinding where
  position : FusionClaimPosition
  candidateIds : List String
  strongestEvidence : FusionEvidenceQuality
  deriving DecidableEq

structure FusionFinding extends FusionPositionFinding where
  (claimKey summary : String)
  deriving DecidableEq

inductive ConflictLeadingSource
  | evidence | jevProvisional | verifier | undecided
  deriving DecidableEq

structure FusionConflict where
  (claimKey summary : String)
  positions : List FusionPositionFinding
  leadingPosition : Option FusionClaimPosition
  leadingSource : ConflictLeadingSource
  jevConfidence : Option Nat
  (jevReason verificationBasis : Option String)
  deriving DecidableEq

structure FusionUnsupportedClaim where
  (candidateId claimKey : String)
  position : FusionClaimPosition
  deriving DecidableEq

structure FusionMissingEvidence where
  (candidateId claimKey : String)
  evidenceType : EvidenceRefType
  deriving DecidableEq

structure FusionAnalysis where
  consensus : List FusionFinding
  conflicts : List FusionConflict
  uniqueInsights : List FusionFinding
  unsupportedClaims : List FusionUnsupportedClaim
  missingEvidence : List FusionMissingEvidence
  deriving DecidableEq

inductive FusionAnalysisError
  | invalidInput | duplicateCandidate | duplicateClaim | claimMismatch
  deriving DecidableEq

def claimGroupKey (claimKey : String) : String :=
  let words := (claimKey.toList.splitOnP Text.isWhiteSpace).filter (· ≠ [])
  let trimmed := Text.trim (List.intercalate [' '] words)
  let text := String.ofList trimmed
  let stripped := ((Text.stripPrefix "claim:" text).or (Text.stripPrefix "Claim:" text)).getD trimmed
  String.ofList (stripped.map Char.toLower)

def isControl (symbol : Char) : Bool :=
  symbol.toNat ≤ 0x1F || (0x7F ≤ symbol.toNat && symbol.toNat ≤ 0x9F)

def validText (value : String) (maxBytes : Nat) : Bool :=
  value ≠ "" && value.utf8ByteSize ≤ maxBytes && Text.trim value.toList = value.toList &&
    !value.toList.any isControl

def validateClaim (claimKeys : List String) (claim : FusionClaim) :
    Except FusionAnalysisError (List String) := do
  refuse (!validText claim.claimKey 4096 ∨ !validText claim.summary 65536 ∨
    1000 < claim.evidence.length ∨ 1000 < claim.requiredEvidence.length ∨
    claim.evidence.any fun evidence => !validText evidence.sourceRef 4096) .invalidInput
  refuse (claimGroupKey claim.claimKey ∈ claimKeys) .duplicateClaim
  pure (claimGroupKey claim.claimKey :: claimKeys)

def validateCandidate (candidateIds : List String) (candidate : FusionCandidateClaims) :
    Except FusionAnalysisError (List String) := do
  refuse (!validText candidate.candidateId 4096 ∨ 1000 < candidate.claims.length) .invalidInput
  refuse (candidate.candidateId ∈ candidateIds) .duplicateCandidate
  let _ ← candidate.claims.foldlM validateClaim []
  pure (candidate.candidateId :: candidateIds)

def validateCandidates (candidates : List FusionCandidateClaims) :
    Except FusionAnalysisError Unit := do
  refuse (candidates = [] ∨ 64 < candidates.length) .invalidInput
  let _ ← candidates.foldlM validateCandidate []

/-- The keys of an ordered map to which entries with these keys were added. -/
def inOrder {Key : Type} [LinearOrder Key] (keys : List Key) : List Key :=
  keys.dedup.insertionSort (· ≤ ·)

theorem mem_inOrder {Key : Type} [LinearOrder Key] {keys : List Key} {key : Key} :
    key ∈ inOrder keys ↔ key ∈ keys := by
  simp [inOrder]

/-- The order of a map forgets in which order and how often its keys were added. -/
theorem inOrder_congr {Key : Type} [LinearOrder Key] {left right : List Key}
    (same : ∀ key, key ∈ left ↔ key ∈ right) : inOrder left = inOrder right := by
  have perm : left.dedup.Perm right.dedup :=
    (perm_ext_iff_of_nodup left.nodup_dedup right.nodup_dedup).mpr (by simpa using same)
  have sorted := ((perm_insertionSort (· ≤ ·) _).trans perm).trans
    (perm_insertionSort (· ≤ ·) _).symm
  exact sorted.eq_of_pairwise' (pairwise_insertionSort _ _) (pairwise_insertionSort _ _)

/-- The id of a candidate, with a claim of it. -/
abbrev Assertion := String × FusionClaim

def assertionsOf (candidates : List FusionCandidateClaims) : List Assertion :=
  candidates.flatMap fun candidate => candidate.claims.map (candidate.candidateId, ·)

def groupOf (assertions : List Assertion) (groupKey : String) : List Assertion :=
  assertions.filter (claimGroupKey ·.2.claimKey = groupKey)

def isPrefixed (claimKey : String) : Bool :=
  "claim:".toList.isPrefixOf (claimKey.toList.dropWhile Text.isWhiteSpace)

def preferClaimKey (left right : String) : String :=
  if isPrefixed right && !isPrefixed left then right else left

section Group
variable (group : List Assertion)

def displayKey : String :=
  match group.map (·.2.claimKey) with
  | [] => ""
  | first :: rest => rest.foldl preferClaimKey first

def groupSummary : String := (group.head?.map (·.2.summary)).getD ""

def FusionEvidenceQuality.rank : FusionEvidenceQuality → Nat
  | .unsupported => 0
  | .toolObservation => 1
  | .verifiedFact => 2

def strongest (qualities : List FusionEvidenceQuality) : FusionEvidenceQuality :=
  qualities.foldl (fun left right => if left.rank ≤ right.rank then right else left) .unsupported

def strongestEvidence (evidence : List FusionEvidence) : FusionEvidenceQuality :=
  strongest (evidence.map fun evidence =>
    if evidence.verifiedConclusion.isSome then .verifiedFact else .toolObservation)

def positionFinding (position : FusionClaimPosition) : Option FusionPositionFinding :=
  let sided := group.filter (·.2.position = position)
  if sided = [] then none
  else some ⟨position, sided.map Prod.fst, strongest (sided.map (strongestEvidence ·.2.evidence))⟩

def positionFindings : List FusionPositionFinding :=
  [FusionClaimPosition.supports, .opposes].filterMap (positionFinding group)

def leading : Option FusionClaimPosition × ConflictLeadingSource :=
  let positions := positionFindings group
  let best := strongest (positions.map (·.strongestEvidence))
  match positions.filter (·.strongestEvidence = best) with
  | [leader] => (some leader.position, .evidence)
  | _ => (none, .undecided)

def conflictOf : Option FusionConflict :=
  if 1 < (positionFindings group).length then
    some ⟨displayKey group, groupSummary group, positionFindings group, (leading group).1,
      (leading group).2, none, none, none⟩
  else none

/-- The finding of a group with assertions on one side. -/
def findingOf : Option FusionFinding :=
  match positionFindings group with
  | [position] => some ⟨position, displayKey group, groupSummary group⟩
  | _ => none

end Group

/-- Each assertion, with the key its group is displayed under once it has joined. -/
def shownAssertions (seen : List Assertion) : List Assertion → List (Assertion × String)
  | [] => []
  | assertion :: rest =>
    let seen := seen ++ [assertion]
    (assertion, displayKey (groupOf seen (claimGroupKey assertion.2.claimKey))) ::
      shownAssertions seen rest

def unsupportedClaim (shown : Assertion × String) : Option FusionUnsupportedClaim :=
  if shown.1.2.evidence = [] then some ⟨shown.1.1, shown.2, shown.1.2.position⟩ else none

def missingEvidence (shown : Assertion × String) : List FusionMissingEvidence :=
  let present := shown.1.2.evidence.map (·.evidenceType)
  (shown.1.2.requiredEvidence.filter (· ∉ present)).map (⟨shown.1.1, shown.2, ·⟩)

def analyzeFusion (candidates : List FusionCandidateClaims) :
    Except FusionAnalysisError FusionAnalysis := do
  validateCandidates candidates
  let assertions := assertionsOf candidates
  let shown := shownAssertions [] assertions
  let groups := (inOrder (assertions.map (claimGroupKey ·.2.claimKey))).map (groupOf assertions)
  pure
    { consensus := (groups.filter (·.length ≠ 1)).filterMap findingOf
      conflicts := groups.filterMap conflictOf
      uniqueInsights := (groups.filter (·.length = 1)).filterMap findingOf
      unsupportedClaims := shown.filterMap unsupportedClaim
      missingEvidence := shown.flatMap missingEvidence }

/-- An assertion of the candidates that a conflict counts on one of its sides. -/
structure Counted (candidates : List FusionCandidateClaims) (conflict : FusionConflict)
    (candidate : FusionCandidateClaims) (claim : FusionClaim) : Prop where
  submitted : candidate ∈ candidates
  asserted : claim ∈ candidate.claims
  grouped : claimGroupKey claim.claimKey = claimGroupKey conflict.claimKey
  listed : ∃ finding ∈ conflict.positions,
    finding.position = claim.position ∧ candidate.candidateId ∈ finding.candidateIds

variable {group : List Assertion}

theorem displayKey_mem (occupied : group ≠ []) :
    ∃ assertion ∈ group, assertion.2.claimKey = displayKey group := by
  obtain ⟨_, rest, rfl⟩ := exists_cons_of_ne_nil occupied
  refine mem_map.mp (?_ : displayKey _ ∈ _)
  refine List.foldlRecOn (rest.map (·.2.claimKey)) preferClaimKey mem_cons_self ?_
  intro _ member _ among
  unfold preferClaimKey
  split
  · exact mem_cons_of_mem _ among
  · exact member

theorem positionFinding_eq_some {position : FusionClaimPosition}
    {finding : FusionPositionFinding} (found : positionFinding group position = some finding) :
    finding.position = position ∧ ∃ assertion ∈ group,
      assertion.2.position = position ∧ assertion.1 ∈ finding.candidateIds := by
  unfold positionFinding at found
  dsimp only at found
  split at found
  · cases found
  · rename_i sided
    cases found
    obtain ⟨assertion, member⟩ := exists_mem_of_ne_nil _ sided
    obtain ⟨asserted, same⟩ := mem_filter.mp member
    exact ⟨rfl, assertion, asserted, of_decide_eq_true same, mem_map_of_mem member⟩

/-- With more than one finding, each side has its own. -/
theorem exists_positionFinding
    (several : 1 < (positionFindings group).length) (position : FusionClaimPosition) :
    ∃ finding ∈ positionFindings group, positionFinding group position = some finding := by
  unfold positionFindings at several ⊢
  cases supports : positionFinding group .supports <;>
    cases opposes : positionFinding group .opposes <;> simp [supports, opposes] at several
  cases position <;> simp [supports, opposes]

/-- Both sides of a conflict have an assertion that it counts. -/
theorem exists_counted {candidates : List FusionCandidateClaims} {analysis : FusionAnalysis}
    (analysed : analyzeFusion candidates = .ok analysis) {conflict : FusionConflict}
    (reported : conflict ∈ analysis.conflicts) (position : FusionClaimPosition) :
    ∃ candidate claim, Counted candidates conflict candidate claim ∧ claim.position = position := by
  obtain ⟨_, _, analysed⟩ := bind_eq_ok.mp analysed
  obtain rfl := pure_eq_ok.mp analysed
  obtain ⟨_, grouped, conflicting⟩ := mem_filterMap.mp reported
  obtain ⟨groupKey, _, rfl⟩ := mem_map.mp grouped
  unfold conflictOf at conflicting
  split at conflicting
  · rename_i several
    cases conflicting
    obtain ⟨finding, listed, found⟩ := exists_positionFinding several position
    obtain ⟨rfl, _, member, sided, counted⟩ := positionFinding_eq_some found
    obtain ⟨shown, among, spelled⟩ := displayKey_mem (ne_nil_of_mem member)
    obtain ⟨asserted, same⟩ := mem_filter.mp member
    obtain ⟨candidate, submitted, claimed⟩ := mem_flatMap.mp asserted
    obtain ⟨claim, made, rfl⟩ := mem_map.mp claimed
    have alike : claimGroupKey shown.2.claimKey = groupKey :=
      of_decide_eq_true (mem_filter.mp among).2
    refine ⟨candidate, claim, ⟨submitted, made, ?_, finding, listed, sided.symm, counted⟩, sided⟩
    rw [← spelled, alike]
    exact of_decide_eq_true same
  · cases conflicting

end WinWinCode.Fusion
