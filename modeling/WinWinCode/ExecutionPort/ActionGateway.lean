import WinWinCode.ExecutionPort.ActionEnforcement
import WinWinCode.Foundation.Runs

/-!
The worker's action gateway, from `action_gateway.rs`, over the receipt-use store of
`action_enforcement.rs`. Calls of any gateways and processes run interleaved over one
directory, in which a file that exists is never created again. A call can crash between any
two of its steps; a power loss ends every call and leaves anything of a file not yet synced.
-/

namespace WinWinCode.ExecutionPort.ActionGateway

open Fallible Function List

structure Ports where
  (Policy Json RecorderError ExecutorError Output : Type)

inductive GateDecision where
  | allow
  | allowWithWatch (reason : String)
  | requestPlanDelta (reason : String)
  | pauseForHuman (reason : String)
  | denyAction (reason : String)
  | replanRequired (reason : String)

def GateDecision.authorizesExecution : GateDecision → Bool
  | .allow | .allowWithWatch _ => true
  | _ => false

inductive RejectionCode where
  | invalidCurrentAuthority | staleLease | expiredLease | staleWorkerSession
  | staleSessionIdentity | actionReceiptConsumed

inductive ActionReceiptUseError where
  | conflict | storage

section Types
variable (ports : Ports)

inductive ActionGatewayError where
  | rejected (code : RejectionCode) (reason : String)
  | normalization (error : ActionNormalizationError)
  | intentMismatch (mismatches : List IntentMismatch)
  | notApproved (decision : GateDecision)
  | actionEnforcement (error : ActionEnforcementError)
  | receiptUse (error : ActionReceiptUseError)
  | decisionRecord (error : ports.RecorderError)
  | postActionRecord (error : ports.RecorderError)
  | executor (error : ports.ExecutorError)

/-- A call of `execute`, with the authority and the policy of its gateway: the gateway is
borrowed until the call returns, so neither is replaced under it. -/
structure GatewayCall where
  active : WorkerActionAuthority
  policy : ports.Policy
  now : String
  action : WorkerActionRequest ports.Json
  receipt : ActionEnforcementReceiptMessage

structure GateInput where
  policy : ports.Policy
  intent : ActionIntent
  observed : ObservedAction

structure ExecutedAction where
  normalization : ActionNormalization
  decision : GateDecision
  output : ports.Output

/-- How far an approved call has come with the file of its receipt. -/
inductive ClaimStage where
  | unclaimed | created | written | synced
deriving DecidableEq

inductive Phase where
  | entered
  | permitted (normalization : ActionNormalization)
  | approved (stage : ClaimStage) (normalization : ActionNormalization) (decision : GateDecision)
  /-- `create_new` answered that the file exists. -/
  | reading
  | returned (result : Except (ActionGatewayError ports) (ExecutedAction ports))
  | crashed

/-- What the gate, the recorder, the file system and the executor answer in one step. -/
structure Answers where
  decision : GateDecision
  recorder : Option ports.RecorderError
  fileFails : Bool
  executor : Except ports.ExecutorError ports.Output

inductive GatewayEffect where
  | recorded (index : Nat) (input : GateInput ports) (decision : GateDecision)
  | executed (index : Nat) (call : GatewayCall ports)

end Types

structure StoredReceiptUse where
  (schemaVersion requestId : String)
  receipt : ActionEnforcementReceiptMessage

/-- What the bytes of a file decode to, whether they are the canonical ones for it, and
whether the file and its directory entry were synced. -/
structure ReceiptFile where
  decoded : Option StoredReceiptUse
  (canonical synced : Bool)

structure GatewayCodec extends ActionCodec where
  /-- The digest of a request id and `.json`. -/
  fileName : String → String

structure Store (ports : Ports) where
  files : String → Option ReceiptFile
  calls : Nat → Option (GatewayCall ports × Phase ports)
  /-- Newest first. -/
  history : List (GatewayEffect ports)

inductive GatewayEvent (ports : Ports) where
  | call (index : Nat) (call : GatewayCall ports)
  | step (index : Nat) (answers : Answers ports)
  | crash (index : Nat)
  | powerLoss (leaves : String → Option ReceiptFile)

variable {ports : Ports}

/-- The gateway's own check, which has no calendar. -/
def isCanonicalInstant (value : String) : Bool :=
  let number := fun start => Decimals.decimalValue ((value.toList.drop start).take 2)
  Text.isCanonicalInstant value &&
    decide (1 ≤ number 5 ∧ number 5 ≤ 12 ∧ 1 ≤ number 8 ∧ number 8 ≤ 31 ∧ number 11 ≤ 23 ∧
      number 14 ≤ 59 ∧ number 17 ≤ 59)

def validateAuthority (now : String) (active presented : WorkerActionAuthority) :
    Except (ActionGatewayError ports) Unit := do
  refuse (active.workerSessionId ≠ active.sessionIdentity.workerSessionId ∨
      active.lease.attempt < 1 ∨ 1000 < active.lease.attempt ∨
      active.lease.expiresAt ≤ active.lease.issuedAt ∨
      isCanonicalInstant active.lease.issuedAt = false ∨
      isCanonicalInstant active.lease.expiresAt = false ∨ isCanonicalInstant now = false)
    (.rejected .invalidCurrentAuthority "current Worker authority is internally invalid")
  refuse (presented.lease ≠ active.lease) (.rejected .staleLease
    "presented lease, attempt, Worker instance, or fencing token is stale")
  refuse (active.lease.expiresAt ≤ now) (.rejected .expiredLease "active lease has expired")
  refuse (presented.workerSessionId ≠ active.workerSessionId ∨
      presented.workerSessionId ≠ presented.sessionIdentity.workerSessionId)
    (.rejected .staleWorkerSession "presented WorkerSession is stale or inconsistent")
  refuse (presented.sessionIdentity ≠ active.sessionIdentity)
    (.rejected .staleSessionIdentity "presented session binding is stale")

def precheck (codec : GatewayCodec) (call : GatewayCall ports) :
    Except (ActionGatewayError ports) ActionNormalization := do
  validateAuthority call.now call.active call.action.authority
  let normalization ← (normalizeAction codec.argv call.action.intent call.action.request).mapError
    .normalization
  refuse (normalization.comparison.agrees = false)
    (.intentMismatch normalization.comparison.mismatches)
  (validateActionReceipt codec.toActionCodec call.action call.receipt).mapError .actionEnforcement

def receiptUseSchemaVersion : String := "winwincode.action-enforcement-use.v1"

def storedUse (receipt : ActionEnforcementReceiptMessage) : StoredReceiptUse :=
  ⟨receiptUseSchemaVersion, receipt.requestId, receipt⟩

def readError (receipt : ActionEnforcementReceiptMessage) (file : Option ReceiptFile) :
    ActionGatewayError ports :=
  match file.bind fun file => file.decoded.map (·, file.canonical) with
  | none => .receiptUse .storage
  | some (decoded, canonical) =>
    if canonical = false ∨ decoded.schemaVersion ≠ receiptUseSchemaVersion ∨
        decoded.requestId ≠ receipt.requestId ∨ decoded.receipt ≠ receipt then
      .receiptUse .conflict
    else .rejected .actionReceiptConsumed "action receipt was already consumed"

def gateInput (call : GatewayCall ports) (normalization : ActionNormalization) : GateInput ports :=
  ⟨call.policy, normalization.intent, normalization.observed⟩

def outcome (normalization : ActionNormalization) (decision : GateDecision)
    (answers : Answers ports) : Except (ActionGatewayError ports) (ExecutedAction ports) :=
  match answers.recorder, answers.executor with
  | some error, _ => .error (.postActionRecord error)
  | none, .error error => .error (.executor error)
  | none, .ok output => .ok ⟨normalization, decision, output⟩

namespace Store
variable (store : Store ports)

def move (index : Nat) (call : GatewayCall ports) (phase : Phase ports) : Store ports :=
  { store with calls := update store.calls index (some (call, phase)) }

def put (name : String) (file : ReceiptFile) : Store ports :=
  { store with files := update store.files name (some file) }

def note (effect : GatewayEffect ports) : Store ports :=
  { store with history := effect :: store.history }

end Store

variable {call' : GatewayCall ports} {stage : ClaimStage} {later : ClaimStage}

section Steps
variable (codec : GatewayCodec)

def claimFile (call : GatewayCall ports) : String := codec.fileName call.receipt.requestId

def proceed (store : Store ports) (index : Nat) (call : GatewayCall ports)
    (answers : Answers ports) : Phase ports → Store ports
  | .entered =>
    store.move index call <| match precheck codec call with
      | .error error => .returned (.error error)
      | .ok normalization => .permitted normalization
  | .permitted normalization =>
    -- a decision that is not recorded is not acted on
    match answers.recorder with
    | some error => store.move index call (.returned (.error (.decisionRecord error)))
    | none =>
      (store.note (.recorded index (gateInput call normalization) answers.decision)).move index
        call (if answers.decision.authorizesExecution then
            .approved .unclaimed normalization answers.decision
          else .returned (.error (.notApproved answers.decision)))
  | .approved .unclaimed normalization decision =>
    if Text.isCanonicalId "req_" call.receipt.requestId = false then
      store.move index call (.returned (.error (.receiptUse .conflict)))
    else if answers.fileFails then
      store.move index call (.returned (.error (.receiptUse .storage)))
    else match store.files (claimFile codec call) with
      | some _ => store.move index call .reading
      -- created by this step alone, and empty until the next
      | none => (store.put (claimFile codec call) ⟨none, false, false⟩).move index call
        (.approved .created normalization decision)
  | .approved .created normalization decision =>
    if answers.fileFails then store.move index call (.returned (.error (.receiptUse .storage)))
    else (store.put (claimFile codec call) ⟨some (storedUse call.receipt), true, false⟩).move
      index call (.approved .written normalization decision)
  | .approved .written normalization decision =>
    -- `sync_all` and `sync_directory`, after which the claim is fresh
    if answers.fileFails then store.move index call (.returned (.error (.receiptUse .storage)))
    else (store.put (claimFile codec call) ⟨some (storedUse call.receipt), true, true⟩).move
      index call (.approved .synced normalization decision)
  | .approved .synced normalization decision =>
    (store.note (.executed index call)).move index call
      (.returned (outcome normalization decision answers))
  | .reading =>
    store.move index call (.returned (.error (if answers.fileFails then .receiptUse .storage
      else readError call.receipt (store.files (claimFile codec call)))))
  | .returned _ | .crashed => store

def step (store : Store ports) : GatewayEvent ports → Store ports
  | .call index call =>
    match store.calls index with
    | some _ => store
    | none => store.move index call .entered
  | .step index answers =>
    match store.calls index with
    | some (call, phase) => proceed codec store index call answers phase
    | none => store
  | .crash index =>
    match store.calls index with
    | some (call, _) => store.move index call .crashed
    | none => store
  | .powerLoss leaves =>
    { store with
      files := fun name => (store.files name).bind fun file =>
        if file.synced then some file else leaves name
      calls := fun index => (store.calls index).map fun (call, _) => (call, .crashed) }

structure Entitled (call : GatewayCall ports) (normalization : ActionNormalization) : Prop where
  authority : call.action.authority = call.active
  unexpired : call.now < call.active.lease.expiresAt
  permits : Permits codec.toActionCodec call.action call.receipt normalization

def Approved (call : GatewayCall ports) (normalization : ActionNormalization)
    (decision : GateDecision) (index : Nat) (history : List (GatewayEffect ports)) : Prop :=
  Entitled codec call normalization ∧ decision.authorizesExecution = true ∧
    .recorded index (gateInput call normalization) decision ∈ history

def executions (history : List (GatewayEffect ports)) : List (GatewayCall ports) :=
  history.filterMap fun
    | .executed _ call => some call
    | .recorded .. => none

def Phase.finished : Phase ports → Bool
  | .returned _ | .crashed => true
  | _ => false

/-- The file of the call is there, created by the call `index`. -/
def Owns (owner : String → Nat) (store : Store ports) (index : Nat) (call : GatewayCall ports)
    (synced : Bool) : Prop :=
  owner (claimFile codec call) = index ∧ ∃ file, store.files (claimFile codec call) = some file ∧
    (synced = true → file.synced = true)

/-- Every phase of a call is earned. A call between the creation of its file and its execution
owns the file, and one that executed has left it synced for good. -/
structure Sound (owner : String → Nat) (store : Store ports) : Prop where
  permitted : ∀ {index call normalization},
    store.calls index = some (call, .permitted normalization) → Entitled codec call normalization
  approved : ∀ {index call stage normalization decision},
    store.calls index = some (call, .approved stage normalization decision) →
      Approved codec call normalization decision index store.history ∧
        (stage ≠ .unclaimed → Owns codec owner store index call (stage == .synced))
  executed : ∀ {late index call early}, store.history = late ++ .executed index call :: early →
    ∃ normalization decision, Approved codec call normalization decision index early
  spent : ∀ {index call}, .executed index call ∈ store.history →
    Owns codec owner store index call true ∧
      ∃ phase, store.calls index = some (call, phase) ∧ phase.finished = true
  once : ((executions store.history).map (claimFile codec)).Nodup

variable {codec} {owner : String → Nat} {store : Store ports} {index : Nat}
  {call : GatewayCall ports} {normalization : ActionNormalization} {decision : GateDecision}
  {phase next : Phase ports}

theorem entitled_of_precheck (admitted : precheck codec call = .ok normalization) :
    Entitled codec call normalization := by
  simp only [precheck, validateAuthority, eq_ok, mapError_eq_ok, exists_const, not_or, ne_eq,
    not_not, not_le] at admitted
  obtain ⟨⟨_, lease, unexpired, ⟨session, _⟩, identity⟩, _, _, _, receipt⟩ := admitted
  refine ⟨?_, unexpired, validateActionReceipt_eq_ok.mp receipt⟩
  rw [WorkerActionAuthority.mk.injEq]
  exact ⟨lease, session, identity⟩

theorem mem_executions {history : List (GatewayEffect ports)} :
    call ∈ executions history ↔ ∃ index, .executed index call ∈ history := by
  simp only [executions, mem_filterMap]
  constructor
  · rintro ⟨_ | ⟨index, _⟩, member, found⟩
    · cases found
    · cases found
      exact ⟨index, member⟩
  · rintro ⟨_, member⟩
    exact ⟨_, member, rfl⟩

theorem calls_of_move {other : Nat}
    (found : (store.move index call next).calls other = some (call', phase)) :
    other = index ∧ call = call' ∧ next = phase ∨
      other ≠ index ∧ store.calls other = some (call', phase) := by
  by_cases same : other = index
  · subst same
    simpa [Store.move] using found
  · simpa [Store.move, same] using found

theorem stays_of_active (current : store.calls index = some (call, phase))
    (active : phase.finished = false) {phase' : Phase ports}
    (found : store.calls index = some (call', phase')) (finished : phase'.finished) :
    call' = call ∧ next.finished = true := by
  cases current.symm.trans found
  simp [active] at finished

namespace Sound
variable (sound : Sound codec owner store)
include sound

theorem move (stays : ∀ {call' phase}, store.calls index = some (call', phase) →
      phase.finished → call' = call ∧ next.finished)
    (permitted : ∀ {normalization}, next = .permitted normalization →
      Entitled codec call normalization)
    (approved : ∀ {stage normalization decision}, next = .approved stage normalization decision →
      Approved codec call normalization decision index store.history ∧
        (stage ≠ .unclaimed → Owns codec owner store index call (stage == .synced))) :
    Sound codec owner (store.move index call next) where
  __ := sound
  permitted found := by
    rcases calls_of_move found with ⟨rfl, rfl, reached⟩ | ⟨_, found⟩
    · exact permitted reached
    · exact sound.permitted found
  approved found := by
    rcases calls_of_move found with ⟨rfl, rfl, reached⟩ | ⟨_, found⟩
    · exact approved reached
    · exact sound.approved found
  spent {other _} member := by
    obtain ⟨owns, phase, found, finished⟩ := sound.spent member
    refine ⟨owns, ?_⟩
    by_cases same : other = index
    · subst same
      obtain ⟨rfl, ended⟩ := stays found finished
      exact ⟨next, update_self .., ended⟩
    · exact ⟨phase, (update_of_ne same ..).trans found, finished⟩

theorem retire (current : ∀ {call' phase}, store.calls index = some (call', phase) → call' = call)
    (finished : next.finished) : Sound codec owner (store.move index call next) := by
  apply sound.move (fun found _ => ⟨current found, finished⟩)
  · rintro _ rfl
    cases finished
  · rintro _ _ _ rfl
    cases finished

theorem unspent (current : store.calls index = some (call, .approved stage normalization decision))
    {other : Nat} (member : .executed other call' ∈ store.history) : other ≠ index := by
  rintro rfl
  obtain ⟨_, _, found, finished⟩ := sound.spent member
  cases current.symm.trans found
  cases finished

variable {file : ReceiptFile}

/-- A file is written that no call relies on but the one that writes it. -/
theorem put {owner' : String → Nat} {name : String}
    (keeps : ∀ other ≠ name, owner' other = owner other)
    (own : ∀ {index call stage normalization decision},
      store.calls index = some (call, .approved stage normalization decision) →
        stage ≠ .unclaimed → claimFile codec call = name → owner' name = index ∧ stage ≠ .synced)
    (unspent : ∀ {index call}, .executed index call ∈ store.history →
      claimFile codec call ≠ name) : Sound codec owner' (store.put name file) where
  __ := sound
  approved {_ call _ _ _} found := by
    refine ⟨(sound.approved found).1, fun claims => ?_⟩
    by_cases same : claimFile codec call = name
    · obtain ⟨owns, early⟩ := own found claims same
      exact ⟨same ▸ owns, file, by simp [Store.put, same], by simp [early]⟩
    · simpa [Owns, Store.put, same, keeps] using (sound.approved found).2 claims
  spent member := by
    have other := unspent member
    simpa [Owns, Store.put, other, keeps] using sound.spent member

theorem execute {result : Except (ActionGatewayError ports) (ExecutedAction ports)}
    (current : store.calls index = some (call, .approved .synced normalization decision)) :
    Sound codec owner ((store.note (.executed index call)).move index call (.returned result)) := by
  obtain ⟨approved, claimed⟩ := sound.approved current
  have owns := claimed (by simp)
  constructor
  · intro _ _ _ found
    rcases calls_of_move found with ⟨_, _, reached⟩ | ⟨_, found⟩
    · cases reached
    · exact sound.permitted found
  · intro _ _ _ _ _ found
    rcases calls_of_move found with ⟨_, _, reached⟩ | ⟨_, found⟩
    · cases reached
    · obtain ⟨⟨entitled, authorizes, recorded⟩, claims⟩ := sound.approved found
      exact ⟨⟨entitled, authorizes, mem_cons_of_mem _ recorded⟩, claims⟩
  · intro late _ _ _ split
    cases late with
    | nil =>
      cases split
      exact ⟨normalization, decision, approved⟩
    | cons _ _ => exact sound.executed (List.cons.inj split).2
  · intro _ _ member
    rcases mem_cons.mp member with new | old
    · cases new
      exact ⟨owns, _, update_self .., rfl⟩
    · obtain ⟨kept, phase, found, finished⟩ := sound.spent old
      exact ⟨kept, phase, (update_of_ne (sound.unspent current old) ..).trans found, finished⟩
  · refine nodup_cons.mpr ⟨fun repeated => ?_, sound.once⟩
    obtain ⟨_, among, same⟩ := mem_map.mp repeated
    obtain ⟨_, member⟩ := mem_executions.mp among
    exact sound.unspent current member (by rw [← (sound.spent member).1.1, same, owns.1])

theorem record {input : GateInput ports} :
    Sound codec owner (store.note (.recorded index input decision)) where
  __ := sound
  approved found :=
    have ⟨⟨entitled, authorizes, recorded⟩, claims⟩ := sound.approved found
    ⟨⟨entitled, authorizes, mem_cons_of_mem _ recorded⟩, claims⟩
  executed {late _ _ _} split := by
    cases late with
    | nil => cases split
    | cons _ _ => exact sound.executed (List.cons.inj split).2
  spent member := sound.spent (by simpa [Store.note] using member)

omit sound in
/-- A call goes on with its claim once it has written the file. -/
theorem onward (put : Sound codec owner (store.put (claimFile codec call) file))
    (current : store.calls index = some (call, .approved stage normalization decision))
    (owns : owner (claimFile codec call) = index) (synced : later = .synced → file.synced) :
    Sound codec owner ((store.put (claimFile codec call) file).move index call
      (.approved later normalization decision)) := by
  apply put.move (stays_of_active current rfl)
  · rintro _ ⟨⟩
  · rintro _ _ _ ⟨⟩
    exact ⟨(put.approved current).1,
      fun _ => ⟨owns, file, update_self .., fun late => synced (by simpa using late)⟩⟩

theorem create
    (current : store.calls index = some (call, .approved .unclaimed normalization decision))
    (absent : store.files (claimFile codec call) = none) :
    Sound codec (update owner (claimFile codec call) index)
      ((store.put (claimFile codec call) file).move index call
        (.approved .created normalization decision)) := by
  -- whoever relies on a file finds it, and this one is not there
  have unused {index' call' synced} (owns : Owns codec owner store index' call' synced) :
      claimFile codec call' ≠ claimFile codec call := by
    obtain ⟨_, _, found, _⟩ := owns
    intro same
    rw [same, absent] at found
    cases found
  refine onward (sound.put (fun _ other => update_of_ne other ..) ?_ ?_) current
    (update_self ..) (by rintro ⟨⟩)
  · intro _ _ _ _ _ found claims same
    exact absurd same (unused ((sound.approved found).2 claims))
  · intro _ _ member
    exact unused (sound.spent member).1

theorem write (current : store.calls index = some (call, .approved stage normalization decision))
    (claims : stage ≠ .unclaimed) (early : stage ≠ .synced)
    (synced : later = .synced → file.synced) :
    Sound codec owner ((store.put (claimFile codec call) file).move index call
      (.approved later normalization decision)) := by
  have owns := ((sound.approved current).2 claims).1
  -- another call with this file would have created it too
  refine onward (sound.put (fun _ _ => rfl) ?_ ?_) current owns synced
  · intro other _ _ _ _ found claimed same
    have index_eq : other = index := by
      rw [← ((sound.approved found).2 claimed).1, same, owns]
    subst index_eq
    cases current.symm.trans found
    exact ⟨owns, early⟩
  · intro _ _ member same
    exact sound.unspent current member (by rw [← (sound.spent member).1.1, same, owns])

theorem proceed (current : store.calls index = some (call, phase)) (answers : Answers ports) :
    ∃ owner, Sound codec owner (proceed codec store index call answers phase) := by
  have only {call' phase'} (found : store.calls index = some (call', phase')) : call' = call := by
    cases current.symm.trans found
    rfl
  have finish result : Sound codec owner (store.move index call (.returned result)) :=
    sound.retire only rfl
  cases phase with
  | entered =>
    simp only [proceed]
    split
    · exact ⟨owner, finish _⟩
    · rename_i admitted
      refine ⟨owner, sound.move (stays_of_active current rfl) ?_ (by rintro _ _ _ ⟨⟩)⟩
      rintro _ ⟨⟩
      exact entitled_of_precheck admitted
  | permitted _ =>
    simp only [proceed]
    split
    · exact ⟨owner, finish _⟩
    · refine ⟨owner, sound.record.move (stays_of_active current rfl) ?_ ?_⟩
      · intro _ reached
        split at reached <;> cases reached
      · intro _ _ _ reached
        split at reached
        · rename_i authorizes
          cases reached
          exact ⟨⟨sound.permitted current, authorizes, mem_cons_self⟩,
            fun claims => absurd rfl claims⟩
        · cases reached
  | approved stage _ _ =>
    cases stage with
    | unclaimed =>
      simp only [proceed]
      split
      · exact ⟨owner, finish _⟩
      split
      · exact ⟨owner, finish _⟩
      split
      · exact ⟨owner, sound.move (stays_of_active current rfl) (by rintro _ ⟨⟩)
          (by rintro _ _ _ ⟨⟩)⟩
      -- No claim stands yet: the call creates it and becomes its owner.
      · rename_i absent
        exact ⟨_, sound.create current absent⟩
    | created =>
      simp only [proceed]
      split
      · exact ⟨owner, finish _⟩
      · exact ⟨owner, sound.write current (by simp) (by simp) (by rintro ⟨⟩)⟩
    | written =>
      simp only [proceed]
      split
      · exact ⟨owner, finish _⟩
      · exact ⟨owner, sound.write current (by simp) (by simp) fun _ => rfl⟩
    | synced => exact ⟨owner, sound.execute current⟩
  | reading => exact ⟨owner, finish _⟩
  | returned | _ => exact ⟨owner, sound⟩

theorem step (event : GatewayEvent ports) :
    ∃ owner, Sound codec owner (step codec store event) := by
  cases event with
  | call index call =>
    cases found : store.calls index with
    | some _ => exact ⟨owner, by simpa only [ActionGateway.step, found] using sound⟩
    | none =>
      simp only [ActionGateway.step, found]
      exact ⟨owner, sound.move (by simp [found]) (by rintro _ ⟨⟩) (by rintro _ _ _ ⟨⟩)⟩
  | step index answers =>
    cases found : store.calls index with
    | some _ => simpa only [ActionGateway.step, found] using sound.proceed found answers
    | none => exact ⟨owner, by simpa only [ActionGateway.step, found] using sound⟩
  | crash index =>
    cases found : store.calls index with
    | some _ =>
      simp only [ActionGateway.step, found]
      refine ⟨owner, sound.retire ?_ rfl⟩
      intro _ _ current
      cases found.symm.trans current
      rfl
    | none => exact ⟨owner, by simpa only [ActionGateway.step, found] using sound⟩
  | powerLoss leaves =>
    -- no call goes on, and the files of executed calls were synced
    refine ⟨owner, by simp [ActionGateway.step], by simp [ActionGateway.step], sound.executed,
      fun member => ?_, sound.once⟩
    obtain ⟨⟨owns, file, kept, synced⟩, phase, found, _⟩ := sound.spent member
    exact ⟨⟨owns, file, by simp [ActionGateway.step, kept, synced], synced⟩, .crashed,
      by simp [ActionGateway.step, found], rfl⟩

end Sound

end Steps

def opened (files : String → Option ReceiptFile) : Store ports :=
  ⟨files, fun _ => none, []⟩

/-- Over any run, each request id is executed at most once, and only in a call that was
entitled to it and whose approval was recorded before. -/
theorem executions_once_and_entitled (codec : GatewayCodec) (files : String → Option ReceiptFile)
    (events : List (GatewayEvent ports)) :
    let history := (Runs.after (step codec) (opened files) events).history
    ((executions history).map (·.action.invocationRequestId)).Nodup ∧
    ∀ late index call early, history = late ++ .executed index call :: early →
      ∃ normalization decision, Entitled codec call normalization ∧
        decision.authorizesExecution = true ∧
        .recorded index (gateInput call normalization) decision ∈ early := by
  intro _
  have start : ∃ owner, Sound codec owner (opened files : Store ports) :=
    ⟨fun _ => 0, nofun, nofun, fun split => by simp [opened] at split, nofun, nodup_nil⟩
  have ⟨owner, sound⟩ : ∃ owner,
      Sound codec owner (Runs.after (step codec) (opened files) events) :=
    @Runs.after_invariant _ _ _ (∃ owner, Sound codec owner ·) _
      (fun _ event ⟨_, sound⟩ => sound.step event) start events
  refine ⟨?_, fun _ _ _ _ => sound.executed⟩
  -- the receipt of an execution names the request id of its action, and the file its own
  apply List.Nodup.of_map codec.fileName
  rw [map_map, map_congr_left fun call among => ?_]
  · exact sound.once
  · obtain ⟨_, member⟩ := mem_executions.mp among
    obtain ⟨_, _, split⟩ := append_of_mem member
    obtain ⟨_, _, entitled, _⟩ := sound.executed split
    exact congrArg codec.fileName entitled.permits.binds.1.symm

def sampleAuthority : WorkerActionAuthority where
  lease :=
    { jobId := "job", leaseId := "lease", workerId := "worker", workerInstanceId := "instance"
      attempt := 1, fencingToken := "1", issuedAt := "2026-01-01T00:00:00.000Z"
      expiresAt := "2026-01-01T01:00:00.000Z" }
  workerSessionId := "session"
  sessionIdentity := ⟨"thread", "product", "session", none⟩

def sampleCodec : GatewayCodec :=
  { argv := String.join, subjectSha256 := fun _ => "", conditionSha256 := fun _ => ""
    resource := fun _ _ => "", fileName := id }

abbrev samplePorts : Ports := ⟨Unit, Unit, Empty, Empty, Unit⟩

def sampleCall : GatewayCall samplePorts where
  active := sampleAuthority
  policy := ()
  now := "2026-01-01T00:45:00.000Z"
  action :=
    { invocationRequestId := "req_00000000000000000000000000"
      authority := sampleAuthority
      request := .file ⟨.write, ["src/main.rs"], {}⟩
      intent :=
        { object := .productionCode, operation := .modify, intent := .implement
          scope := .repository, targets := ["src"], requirementRefs := [], planRefs := []
          expectedEffect := "change", scopeDelta := none, rollback := none
          executorRisk := .medium } }
  receipt :=
    { actorId := "usr_00000000000000000000000000", decision := .permit
      evaluatedAt := "2026-01-01T00:30:00.000Z", sentAt := "2026-01-01T00:30:00.000Z"
      evaluationSha256 := "sha256:" ++ String.ofList (List.replicate 64 '0')
      jobId := "job", lease := sampleAuthority.lease, matchedConditionSha256 := [""]
      messageId := "xmsg_00000000000000000000000000", policyKind := .repository
      policyMode := none, policyVersion := none, requestId := "req_00000000000000000000000000"
      resource := "", subjectSha256 := "", workerSessionId := "session"
      sessionIdentity := sampleAuthority.sessionIdentity
      scope := ⟨"org_00000000000000000000000000", "prj_00000000000000000000000000",
        "rep_00000000000000000000000000", "wsp_00000000000000000000000000"⟩ }

def sampleRun : List (GatewayEvent samplePorts) :=
  let answers : Answers samplePorts := ⟨.allow, none, false, .ok ()⟩
  .call 0 sampleCall :: List.replicate 6 (.step 0 answers) ++
    .powerLoss (fun _ => none) :: .call 1 sampleCall :: List.replicate 6 (.step 1 answers)

theorem executions_once_and_entitled_sample :
    let history := (Runs.after (step sampleCodec) (opened fun _ => none) sampleRun).history
    ((executions history).map (·.action.invocationRequestId)).Nodup ∧
    ∃ late index call early, history = late ++ .executed index call :: early ∧
      ∃ normalization decision, Entitled sampleCodec call normalization ∧
        decision.authorizesExecution = true ∧
        .recorded index (gateInput call normalization) decision ∈ early := by
  intro history
  have executes : (executions history).length = 1 := by decide +kernel
  obtain ⟨call, only⟩ := length_eq_one_iff.mp executes
  obtain ⟨index, member⟩ := mem_executions.mp (only ▸ mem_cons_self)
  obtain ⟨late, early, split⟩ := append_of_mem member
  have holds := executions_once_and_entitled sampleCodec (fun _ => none) sampleRun
  exact ⟨holds.1, late, index, call, early, split, holds.2 late index call early split⟩

end WinWinCode.ExecutionPort.ActionGateway
