import WinWinCode.Fusion.Analysis

/-!
The request a judge is asked with. Its evidence pack is keyed by side, kind and source of the
evidence, and its context loses the members that tell who claimed or how many did.
-/

namespace WinWinCode.Fusion

open List

/-- A JSON value. The members of an object stand in the order of their keys. -/
inductive Json
  | null
  | bool (value : Bool)
  | number (text : String)
  | string (text : String)
  | array (values : List Json)
  | object (members : List (String × Json))

def Json.get? (key : String) : Json → Option Json
  | .object members => members.lookup key
  | _ => none

def Json.text? (key : String) (value : Json) : Option String :=
  match value.get? key with
  | some (.string text) => some text
  | _ => none

def isBlindMetadataKey (key : String) : Bool :=
  String.ofList ((key.toList.filter Char.isAlphanum).map Char.toLower) ∈
    ["provider", "providerid", "providername", "model", "modelid", "modelname", "seat", "seatid",
      "seatname", "candidate", "candidateid", "candidatename", "vote", "votes", "votecount",
      "supportcount", "supportercount", "majority", "minority"]

mutual

def blindContextValue : Json → Json
  | .object members => .object (blindMembers members)
  | .array values => .array (blindValues values)
  | other => other

def blindValues : List Json → List Json
  | [] => []
  | value :: rest => blindContextValue value :: blindValues rest

def blindMembers : List (String × Json) → List (String × Json)
  | [] => []
  | (key, value) :: rest =>
    if isBlindMetadataKey key then blindMembers rest
    else (key, blindContextValue value) :: blindMembers rest

end

def FusionClaimPosition.text : FusionClaimPosition → String
  | .supports => "supports"
  | .opposes => "opposes"

/-- `format!("{:?}", evidence_type)`. -/
def EvidenceRefType.debug : EvidenceRefType → String
  | .test => "Test"
  | .command => "Command"
  | .diff => "Diff"
  | .file => "File"
  | .commit => "Commit"
  | .pullRequest => "PullRequest"
  | .runtimeEvent => "RuntimeEvent"
  | .reviewFinding => "ReviewFinding"

/-- The side, the evidence type and the source of a row. -/
abbrev RowKey := String ×ₗ String ×ₗ String

def rowKey (position kind source : String) : RowKey := toLex (position, toLex (kind, source))

/-- The row of a key at its place in the pack. Evidence has a type, so a key without one is that
of an assertion without evidence. -/
def evidenceRow (index : Nat) (key : RowKey) : Json :=
  let digits := String.ofList ((Nat.toDigits 10 index).leftpad 4 '0')
  let evidenceId := ("evidenceId", Json.string ("evidence-" ++ digits))
  let position := ("position", Json.string (ofLex key).1)
  let kind := (ofLex (ofLex key).2).1
  if kind = "" then .object [("evidence", .array []), evidenceId, position]
  else .object [evidenceId, ("evidenceType", .string kind), position,
    ("sourceRef", .string (ofLex (ofLex key).2).2)]

def rowKeys (claim : FusionClaim) : List RowKey :=
  if claim.evidence = [] then [rowKey claim.position.text "" ""]
  else claim.evidence.map fun evidence =>
    rowKey claim.position.text evidence.evidenceType.debug evidence.sourceRef

def enteredKeys (claims : List FusionCandidateClaims) (claimKey : String) : List RowKey :=
  claims.flatMap fun candidate =>
    (candidate.claims.filter (·.claimKey = claimKey)).flatMap rowKeys

def buildJudgeEvidencePack (claims : List FusionCandidateClaims) (claimKey : String) : List Json :=
  (inOrder (enteredKeys claims claimKey)).mapIdx evidenceRow

structure JudgeRequest where
  (claimKey summary question : String)
  canonicalContext : Json
  evidencePack : List Json

def buildBlindJudgeRequest (claims : List FusionCandidateClaims)
    (claimKey summary question : String) (canonicalContext : Json) : JudgeRequest where
  claimKey
  summary
  question
  canonicalContext := blindContextValue canonicalContext
  evidencePack := buildJudgeEvidencePack claims claimKey

/-- `JudgeRequest::premise`, over any serializer. -/
def JudgeRequest.premise {Error : Type} (serialize : Json → Except Error String)
    (request : JudgeRequest) : Except Error String :=
  serialize <| .object
    [("context", blindContextValue request.canonicalContext),
      ("evidence", blindContextValue (.array request.evidencePack)),
      ("question", .string request.question)]

/-- Every claim of the one list is made in the other, by whatever candidate and at whatever place,
with its position and evidence. Lists that differ by names, order and repetition repeat each other. -/
def Repeats (left right : List FusionCandidateClaims) : Prop :=
  ∀ candidate ∈ left, ∀ claim ∈ candidate.claims, ∃ other ∈ right, ∃ again ∈ other.claims,
    again.claimKey = claim.claimKey ∧ again.position = claim.position ∧
      again.evidence = claim.evidence

mutual

/-- Values that differ only in members, at any depth, whose key is metadata. -/
inductive SameVisible : Json → Json → Prop
  | same (value) : SameVisible value value
  | array {left right} (values : SameVisibleValues left right) :
    SameVisible (.array left) (.array right)
  | object {left right} (members : SameVisibleMembers left right) :
    SameVisible (.object left) (.object right)

inductive SameVisibleValues : List Json → List Json → Prop
  | nil : SameVisibleValues [] []
  | cons {value other left right} (first : SameVisible value other)
    (rest : SameVisibleValues left right) : SameVisibleValues (value :: left) (other :: right)

inductive SameVisibleMembers : List (String × Json) → List (String × Json) → Prop
  | nil : SameVisibleMembers [] []
  | kept (key) {value other left right} (first : SameVisible value other)
    (rest : SameVisibleMembers left right) :
    SameVisibleMembers ((key, value) :: left) ((key, other) :: right)
  | left (key value) {left right} (metadata : isBlindMetadataKey key = true)
    (rest : SameVisibleMembers left right) : SameVisibleMembers ((key, value) :: left) right
  | right (key value) {left right} (metadata : isBlindMetadataKey key = true)
    (rest : SameVisibleMembers left right) : SameVisibleMembers left ((key, value) :: right)

end

mutual

theorem SameVisible.blind_eq {left right : Json} :
    SameVisible left right → blindContextValue left = blindContextValue right
  | .same _ => rfl
  | .array values => congrArg Json.array values.blind_eq
  | .object members => congrArg Json.object members.blind_eq

theorem SameVisibleValues.blind_eq {left right : List Json} :
    SameVisibleValues left right → blindValues left = blindValues right
  | .nil => rfl
  | .cons first rest => congrArg₂ List.cons first.blind_eq rest.blind_eq

theorem SameVisibleMembers.blind_eq {left right : List (String × Json)} :
    SameVisibleMembers left right → blindMembers left = blindMembers right
  | .nil => rfl
  | .kept key first rest => by simp [blindMembers, first.blind_eq, rest.blind_eq]
  | .left _ _ metadata rest => by simpa [blindMembers, metadata] using rest.blind_eq
  | .right _ _ metadata rest => by simpa [blindMembers, metadata] using rest.blind_eq

end

variable {candidates left right : List FusionCandidateClaims} {claimKey : String} {key : RowKey}

theorem mem_enteredKeys : key ∈ enteredKeys candidates claimKey ↔
    ∃ candidate ∈ candidates, ∃ claim ∈ candidate.claims,
      claim.claimKey = claimKey ∧ key ∈ rowKeys claim := by
  simp [enteredKeys, and_assoc]

theorem Repeats.entered (repeats : Repeats left right) (entered : key ∈ enteredKeys left claimKey) :
    key ∈ enteredKeys right claimKey := by
  obtain ⟨candidate, submitted, claim, asserted, named, listed⟩ := mem_enteredKeys.mp entered
  obtain ⟨other, joined, again, repeated, same, position, evidence⟩ :=
    repeats candidate submitted claim asserted
  refine mem_enteredKeys.mpr ⟨other, joined, again, repeated, same.trans named, ?_⟩
  simpa [rowKeys, position, evidence] using listed

theorem judged_blind (repeats : Repeats left right) (repeated : Repeats right left)
    {context other : Json} (visible : SameVisible context other)
    (claimKey summary question : String) {Error : Type} (serialize : Json → Except Error String) :
    let request := buildBlindJudgeRequest left claimKey summary question context
    let blinded := buildBlindJudgeRequest right claimKey summary question other
    request = blinded ∧ request.premise serialize = blinded.premise serialize := by
  have keys : inOrder (enteredKeys left claimKey) = inOrder (enteredKeys right claimKey) :=
    inOrder_congr fun _ => ⟨repeats.entered, repeated.entered⟩
  have request : buildBlindJudgeRequest left claimKey summary question context =
      buildBlindJudgeRequest right claimKey summary question other := by
    simp only [buildBlindJudgeRequest, buildJudgeEvidencePack, visible.blind_eq, keys]
  exact ⟨request, congrArg _ request⟩

/-- The pack has a row for each evidence of a claim, or one without evidence if it has none. -/
def Represented (pack : List Json) (claim : FusionClaim) : Prop :=
  (∀ evidence ∈ claim.evidence, ∃ row ∈ pack,
    row.text? "position" = some claim.position.text ∧
      row.text? "evidenceType" = some evidence.evidenceType.debug ∧
      row.text? "sourceRef" = some evidence.sourceRef) ∧
  (claim.evidence = [] → ∃ row ∈ pack,
    row.text? "position" = some claim.position.text ∧ row.get? "evidence" = some (.array []))

/-- What the claim says is also said by claims spelled with exactly this key: its position with
each evidence of it, or its position without evidence if it has none. -/
def Spelled (candidates : List FusionCandidateClaims) (claimKey : String) (claim : FusionClaim) :
    Prop :=
  (∀ evidence ∈ claim.evidence, ∃ candidate ∈ candidates, ∃ again ∈ candidate.claims,
    again.claimKey = claimKey ∧ again.position = claim.position ∧
      ∃ cited ∈ again.evidence, cited.evidenceType = evidence.evidenceType ∧
        cited.sourceRef = evidence.sourceRef) ∧
  (claim.evidence = [] → ∃ candidate ∈ candidates, ∃ again ∈ candidate.claims,
    again.claimKey = claimKey ∧ again.position = claim.position ∧ again.evidence = [])

theorem EvidenceRefType.debug_ne (kind : EvidenceRefType) : kind.debug ≠ "" := by
  cases kind <;> decide

theorem EvidenceRefType.debug_inj {left right : EvidenceRefType} :
    left.debug = right.debug ↔ left = right := by
  cases left <;> cases right <;> decide

theorem FusionClaimPosition.text_inj {left right : FusionClaimPosition} :
    left.text = right.text ↔ left = right := by
  cases left <;> cases right <;> decide

/-- A question about rows that their keys decide is one about the claims that were entered. -/
theorem exists_row_iff {reads : Json → Prop} {asks : RowKey → Prop}
    (decided : ∀ index key, reads (evidenceRow index key) ↔ asks key) :
    (∃ row ∈ buildJudgeEvidencePack candidates claimKey, reads row) ↔
      ∃ candidate ∈ candidates, ∃ claim ∈ candidate.claims,
        claim.claimKey = claimKey ∧ ∃ key ∈ rowKeys claim, asks key := by
  have entered : (∃ row ∈ buildJudgeEvidencePack candidates claimKey, reads row) ↔
      ∃ key ∈ enteredKeys candidates claimKey, asks key := by
    constructor
    · rintro ⟨_, listed, read⟩
      obtain ⟨index, bound, rfl⟩ := mem_mapIdx.mp listed
      exact ⟨_, mem_inOrder.mp (getElem_mem bound), (decided index _).mp read⟩
    · rintro ⟨key, listed, asked⟩
      obtain ⟨index, bound, found⟩ := getElem_of_mem (mem_inOrder.mpr listed)
      exact ⟨_, mem_mapIdx.mpr ⟨index, bound, congrArg _ found⟩, (decided index key).mpr asked⟩
  rw [entered]
  constructor
  · rintro ⟨key, listed, asked⟩
    obtain ⟨candidate, submitted, claim, asserted, same, among⟩ := mem_enteredKeys.mp listed
    exact ⟨candidate, submitted, claim, asserted, same, key, among, asked⟩
  · rintro ⟨candidate, submitted, claim, asserted, same, key, among, asked⟩
    exact ⟨key, mem_enteredKeys.mpr ⟨candidate, submitted, claim, asserted, same, among⟩, asked⟩

theorem cited_row {index : Nat} {position kind source : String} (typed : kind ≠ "") :
    ((evidenceRow index key).text? "position" = some position ∧
        (evidenceRow index key).text? "evidenceType" = some kind ∧
        (evidenceRow index key).text? "sourceRef" = some source) ↔
      (ofLex key).1 = position ∧ (ofLex (ofLex key).2).1 = kind ∧
        (ofLex (ofLex key).2).2 = source := by
  by_cases bare : (ofLex (ofLex key).2).1 = ""
  · simp [evidenceRow, Json.text?, Json.get?, List.lookup, bare, Ne.symm typed]
  · simp [evidenceRow, Json.text?, Json.get?, List.lookup, bare]

theorem bare_row {index : Nat} {position : String} :
    ((evidenceRow index key).text? "position" = some position ∧
        (evidenceRow index key).get? "evidence" = some (.array [])) ↔
      (ofLex key).1 = position ∧ (ofLex (ofLex key).2).1 = "" := by
  by_cases bare : (ofLex (ofLex key).2).1 = ""
  · simp [evidenceRow, Json.text?, Json.get?, List.lookup, bare]
  · simp [evidenceRow, Json.text?, Json.get?, List.lookup, bare]

theorem represented_iff {claim : FusionClaim} :
    Represented (buildJudgeEvidencePack candidates claimKey) claim ↔
      Spelled candidates claimKey claim := by
  refine and_congr (forall₂_congr fun evidence _ => ?_) (imp_congr_right fun _ => ?_)
  · rw [exists_row_iff fun index key => cited_row evidence.evidenceType.debug_ne]
    refine exists_congr fun candidate => and_congr_right fun _ => exists_congr fun again =>
      and_congr_right fun _ => and_congr_right fun _ => ?_
    by_cases bare : again.evidence = []
    · simp [rowKeys, bare, rowKey, eq_comm (a := ""), evidence.evidenceType.debug_ne]
    · simp only [rowKeys, if_neg bare, rowKey, mem_map, exists_exists_and_eq_and, ofLex_toLex,
        FusionClaimPosition.text_inj, EvidenceRefType.debug_inj]
      grind
  · rw [exists_row_iff fun index key => bare_row]
    refine exists_congr fun candidate => and_congr_right fun _ => exists_congr fun again =>
      and_congr_right fun _ => and_congr_right fun _ => ?_
    by_cases bare : again.evidence = []
    · simp [rowKeys, bare, rowKey, FusionClaimPosition.text_inj]
    · simp [rowKeys, bare, rowKey, EvidenceRefType.debug_ne]

/-- The judge sees every assertion that the conflict counts exactly when what each of them says
is also said under the conflict's own spelling, and then both sides have a row. -/
theorem conflict_represented {candidates : List FusionCandidateClaims} {analysis : FusionAnalysis}
    (analysed : analyzeFusion candidates = .ok analysis) {conflict : FusionConflict}
    (reported : conflict ∈ analysis.conflicts) (summary question : String) (context : Json) :
    let pack := (buildBlindJudgeRequest candidates conflict.claimKey summary question
      context).evidencePack
    ((∀ candidate claim, Counted candidates conflict candidate claim → Represented pack claim) ↔
      ∀ candidate claim, Counted candidates conflict candidate claim →
        Spelled candidates conflict.claimKey claim) ∧
    ((∀ candidate claim, Counted candidates conflict candidate claim →
      Spelled candidates conflict.claimKey claim) →
      ∀ position : FusionClaimPosition, ∃ row ∈ pack, row.text? "position" = some position.text) := by
  have exact_ : ∀ claim, Represented (buildJudgeEvidencePack candidates conflict.claimKey) claim ↔
      Spelled candidates conflict.claimKey claim := fun _ => represented_iff
  refine ⟨forall₃_congr fun _ claim _ => exact_ claim, fun spelled position => ?_⟩
  -- Some counted claim takes this position, and one of its rows is in the pack.
  obtain ⟨candidate, claim, counted, rfl⟩ := exists_counted analysed reported position
  obtain ⟨cited, bare⟩ := (exact_ claim).mpr (spelled candidate claim counted)
  cases evidence : claim.evidence with
  | nil =>
    obtain ⟨row, listed, sided, _⟩ := bare evidence
    exact ⟨row, listed, sided⟩
  | cons first _ =>
    obtain ⟨row, listed, sided, _⟩ := cited first (evidence ▸ mem_cons_self)
    exact ⟨row, listed, sided⟩

/-- Two candidates that spell one claim in their own ways and disagree on it. -/
def disputed (left right : String) : List FusionCandidateClaims :=
  [⟨"a", [⟨left, "s", .supports, [], []⟩]⟩, ⟨"b", [⟨right, "s", .opposes, [], []⟩]⟩]

def disputedConflict : FusionConflict :=
  ⟨"x", "s", [⟨.supports, ["a"], .unsupported⟩, ⟨.opposes, ["b"], .unsupported⟩], none, .undecided,
    none, none, none⟩

def disputedAnalysis : FusionAnalysis :=
  ⟨[], [disputedConflict], [], [⟨"a", "x", .supports⟩, ⟨"b", "x", .opposes⟩], []⟩

/-- The second candidate spells the claim with a capital letter, and its side has no row. -/
theorem judge_misses_side : ∃ analysis conflict candidate claim,
    analyzeFusion (disputed "x" "X") = .ok analysis ∧ conflict ∈ analysis.conflicts ∧
      Counted (disputed "x" "X") conflict candidate claim ∧
      ∀ row ∈ (buildBlindJudgeRequest (disputed "x" "X") conflict.claimKey conflict.summary ""
        .null).evidencePack, row.text? "position" ≠ some claim.position.text := by
  have analysed : analyzeFusion (disputed "x" "X") = .ok disputedAnalysis := by decide +kernel
  refine ⟨disputedAnalysis, disputedConflict, _, ⟨"X", "s", .opposes, [], []⟩, analysed, by decide,
    ⟨mem_cons_of_mem _ mem_cons_self, by decide, ?_, by decide⟩, ?_⟩
  · decide +kernel
  · decide +kernel

/-- A third candidate says the same under the conflict's spelling. -/
def seconded : List FusionCandidateClaims :=
  disputed "x" "X" ++ [⟨"c", [⟨"x", "s", .opposes, [], []⟩]⟩]

def secondedConflict : FusionConflict :=
  ⟨"x", "s", [⟨.supports, ["a"], .unsupported⟩, ⟨.opposes, ["b", "c"], .unsupported⟩], none,
    .undecided, none, none, none⟩

theorem conflict_represented_seconded : ∃ analysis, analyzeFusion seconded = .ok analysis ∧
    ∀ position : FusionClaimPosition,
      ∃ row ∈ (buildBlindJudgeRequest seconded "x" "s" "" .null).evidencePack,
        row.text? "position" = some position.text := by
  have analysed : analyzeFusion seconded = .ok ⟨[], [secondedConflict], [],
      [⟨"a", "x", .supports⟩, ⟨"b", "x", .opposes⟩, ⟨"c", "x", .opposes⟩], []⟩ := by
    decide +kernel
  have spelled : ∀ candidate ∈ seconded, ∀ claim ∈ candidate.claims,
      Spelled seconded "x" claim := by
    unfold Spelled
    decide +kernel
  refine ⟨_, analysed,
    (conflict_represented analysed (mem_singleton_self secondedConflict) "s" "" .null).2 ?_⟩
  exact fun candidate claim counted => spelled candidate counted.submitted claim counted.asserted

theorem judged_blind_repeated :
    buildBlindJudgeRequest (disputed "x" "x") "x" "s" "q" (.object [("seat_id", .null)]) =
      buildBlindJudgeRequest (⟨"c", [⟨"x", "t", .supports, [], []⟩]⟩ :: (disputed "x" "x").reverse)
        "x" "s" "q" (.object []) :=
  (judged_blind (by unfold Repeats; decide) (by unfold Repeats; decide)
    (.object (.left _ _ (by decide +kernel) .nil)) "x" "s" "q"
    fun _ => (.error () : Except Unit String)).1

end WinWinCode.Fusion
