import WinWinCode.Foundation.Runs
import WinWinCode.Session.RequestFingerprints

/-!
Runs of the interaction router. Every interaction and every session is decided by one
request; the request that decided it stands in the run, and it alone is answered as a
duplicate when it is repeated.
-/

namespace WinWinCode.Session

open Fallible Programs Text Function Runs

inductive InteractionCall where
  | respond (response : InteractionResponse)
  | expire (expiry : InteractionExpiry)

namespace InteractionCall

def subject : InteractionCall → InteractionSubject
  | .respond response => response.subject
  | .expire expiry => expiry.subject

def requestId : InteractionCall → String
  | .respond response => response.requestId
  | .expire expiry => expiry.requestId

def fingerprint (printable : Char → Bool) : InteractionCall → List Char
  | .respond response => responseFingerprint printable response
  | .expire expiry => expiryFingerprint printable expiry

def validate : InteractionCall → Checked Unit
  | .respond response => validateResponse response
  | .expire expiry => validateExpiry expiry

def authority (registration : InteractionRegistration) : InteractionCall → Checked Unit
  | .respond response => requireResponseAuthority registration response
  | .expire expiry => requireExpiryAuthority registration expiry

def outcome (registration : InteractionRegistration) : InteractionCall → Checked InteractionOutcome
  | .respond response => responseOutcome registration response
  | .expire _ => .ok .expired

def run (printable : Char → Bool) : InteractionCall → Routing InteractionRouteReceipt
  | .respond response => Session.respond printable response
  | .expire expiry => Session.expire printable expiry

theorem run_eq (printable : Char → Bool) (call : InteractionCall) : call.run printable = (do
      Program.lift call.validate let record ← findInteraction call.subject
      Program.lift (call.authority record.registration)
      settleInteraction call.subject record call.requestId (call.fingerprint printable)
        (call.outcome record.registration)) := by
  cases call <;> rfl

end InteractionCall

def InteractionRouter.setInteraction (router : InteractionRouter) (subject : InteractionSubject)
    (record : InteractionRecord) : InteractionRouter :=
  { router with interactions := Function.update router.interactions subject (some record) }

def InteractionRouter.setSession (router : InteractionRouter) (productSessionId : String)
    (record : SessionCancellationRecord) : InteractionRouter :=
  { router with sessions := Function.update router.sessions productSessionId (some record) }

variable {productSessionId : String} {subject : InteractionSubject}

structure Admitted (call : InteractionCall) (registration : InteractionRegistration) : Prop where
  valid : call.validate = .ok ()
  authorized : call.authority registration = .ok ()

/-- What the call writes, and with which receipt, when it decides an interaction. -/
structure Decides (call : InteractionCall) (registration : InteractionRegistration)
    (outcome : InteractionOutcome) (revision : Nat) : Prop extends Admitted call registration where
  outcome_eq : call.outcome registration = .ok outcome
  revision_eq : nextRevision registration.binding.decisionRevision = .ok revision

inductive RouterCall where
  | registerInteraction (registration : InteractionRegistration)
  | interaction (call : InteractionCall)
  | registerCancellationScope (snapshot : SessionCancellationSnapshot)
  | cancelSession (request : SessionCancellationRequest)

inductive RouterAnswer where
  | registered
  | interaction (receipt : InteractionRouteReceipt)
  | cancellation (receipt : SessionCancellationReceipt)

def RouterAnswer.status? : RouterAnswer → Option RouteWriteStatus
  | .registered => none
  | .interaction receipt => some receipt.status
  | .cancellation receipt => some receipt.status

def RouterAnswer.asDuplicate : RouterAnswer → RouterAnswer
  | .registered => .registered
  | .interaction receipt => .interaction { receipt with status := .duplicate }
  | .cancellation receipt => .cancellation { receipt with status := .duplicate }

def answering {Answer : Type} (wrap : Answer → RouterAnswer)
    (result : InteractionRouter × Checked Answer) : InteractionRouter × Checked RouterAnswer :=
  (result.1, result.2.map wrap)

def performCall (printable : Char → Bool) (router : InteractionRouter) :
    RouterCall → InteractionRouter × Checked RouterAnswer
  | .registerInteraction registration =>
    answering (fun _ => .registered) (registerInteraction registration router)
  | .interaction call => answering .interaction (call.run printable router)
  | .registerCancellationScope snapshot =>
    answering (fun _ => .registered) (registerCancellationScope snapshot router)
  | .cancelSession request => answering .cancellation (cancelSession printable request router)

def routerAfter (printable : Char → Bool) (router : InteractionRouter) (call : RouterCall) :
    InteractionRouter :=
  (performCall printable router call).1

inductive RouterStep (printable : Char → Bool) (router : InteractionRouter) :
    RouterCall → InteractionRouter × Checked RouterAnswer → Prop where
  | refused (call : RouterCall) (error : InteractionRoutingError) :
      RouterStep printable router call (router, .error error)
  | registered (registration : InteractionRegistration)
      (fresh : router.interactions registration.subject = none) :
      RouterStep printable router (.registerInteraction registration)
        (router.setInteraction registration.subject ⟨sealDecisions registration, none⟩,
          .ok .registered)
  | scopeRegistered (snapshot : SessionCancellationSnapshot)
      (fresh : router.sessions snapshot.productSessionId = none) :
      RouterStep printable router (.registerCancellationScope snapshot)
        (router.setSession snapshot.productSessionId ⟨sortExecutions snapshot, none⟩,
          .ok .registered)
  | repeated {call : InteractionCall} {registration : InteractionRegistration}
      {resolved : ResolvedInteraction}
      (found : router.interactions call.subject = some ⟨registration, some resolved⟩)
      (admitted : Admitted call registration) (sameId : resolved.requestId = call.requestId)
      (sameFingerprint : resolved.requestFingerprint = call.fingerprint printable) :
      RouterStep printable router (.interaction call)
        (router, .ok (.interaction (interactionReceipt registration call.requestId .duplicate
          resolved.outcome resolved.currentRevision)))
  | decided {call : InteractionCall} {registration : InteractionRegistration}
      {outcome : InteractionOutcome} {revision : Nat}
      (found : router.interactions call.subject = some ⟨registration, none⟩)
      (decides : Decides call registration outcome revision) :
      RouterStep printable router (.interaction call)
        (router.setInteraction call.subject ⟨registration,
          some ⟨call.requestId, call.fingerprint printable, outcome, revision⟩⟩,
        .ok (.interaction (interactionReceipt registration call.requestId .applied outcome
          revision)))
  | repeatedCancellation {request : SessionCancellationRequest}
      {snapshot : SessionCancellationSnapshot} {cancelled : CancelledSession}
      (valid : validateCancellationRequest request = .ok ())
      (found : router.sessions request.productSessionId = some ⟨snapshot, some cancelled⟩)
      (sameId : cancelled.request.requestId = request.requestId)
      (sameFingerprint : cancelled.requestFingerprint = cancellationFingerprint printable request) :
      RouterStep printable router (.cancelSession request)
        (router, .ok (.cancellation { cancelled.receipt with status := .duplicate }))
  | cancelled {request : SessionCancellationRequest} {snapshot : SessionCancellationSnapshot}
      {revision : Nat} (valid : validateCancellationRequest request = .ok ())
      (found : router.sessions request.productSessionId = some ⟨snapshot, none⟩) :
      RouterStep printable router (.cancelSession request)
        (router.setSession request.productSessionId ⟨snapshot, some ⟨request,
          cancellationFingerprint printable request,
          cancellationReceipt snapshot request revision⟩⟩,
        .ok (.cancellation (cancellationReceipt snapshot request revision)))

section
variable {printable : Char → Bool} {router : InteractionRouter} {call : RouterCall}
  {Answer Value : Type} {kind : Answer → RouterAnswer}
  {next : Value → Program InteractionRouter InteractionRoutingError Answer}

/-- A failed check or reading refuses the call and leaves the router as it was. -/
theorem checked_step {check : Checked Value}
    {read : Program InteractionRouter InteractionRoutingError Value}
    (reads : read router = (router, check)) (passes : ∀ value, check = .ok value →
      RouterStep printable router call (answering kind (next value router))) :
    RouterStep printable router call (answering kind ((read >>= next) router)) := by
  cases check with
  | error error =>
    rw [Program.bind_error reads]
    exact .refused _ error
  | ok value =>
    rw [Program.bind_ok reads]
    exact passes value rfl

end

variable {router : InteractionRouter}

structure Later (early late : InteractionRouter) : Prop where
  interaction : ∀ subject registration resolved,
    early.interactions subject = some ⟨registration, resolved⟩ →
    ∃ resolved', late.interactions subject = some ⟨registration, resolved'⟩ ∧
      (resolved ≠ none → resolved' = resolved)
  session : ∀ productSessionId snapshot cancelled,
    early.sessions productSessionId = some ⟨snapshot, cancelled⟩ →
    ∃ cancelled', late.sessions productSessionId = some ⟨snapshot, cancelled'⟩ ∧
      (cancelled ≠ none → cancelled' = cancelled)

theorem Later.refl (router : InteractionRouter) : Later router router where
  interaction _ _ resolved found := ⟨resolved, found, fun _ => rfl⟩
  session _ _ cancelled found := ⟨cancelled, found, fun _ => rfl⟩

theorem Later.trans {early middle late : InteractionRouter} (first : Later early middle)
    (second : Later middle late) : Later early late where
  interaction subject registration resolved found := by
    obtain ⟨between, there, kept⟩ := first.interaction subject registration resolved found
    obtain ⟨final, here, stays⟩ := second.interaction subject registration between there
    refine ⟨final, here, fun decided => ?_⟩
    rw [stays (kept decided ▸ decided), kept decided]
  session productSessionId snapshot cancelled found := by
    obtain ⟨between, there, kept⟩ := first.session productSessionId snapshot cancelled found
    obtain ⟨final, here, stays⟩ := second.session productSessionId snapshot between there
    refine ⟨final, here, fun decided => ?_⟩
    rw [stays (kept decided ▸ decided), kept decided]

theorem later_setInteraction {record : InteractionRecord} (undecided : ∀ registration resolved,
      router.interactions subject = some ⟨registration, resolved⟩ →
        registration = record.registration ∧ resolved = none) :
    Later router (router.setInteraction subject record) where
  interaction other registration resolved found := by
    by_cases same : other = subject
    · subst same
      obtain ⟨rfl, rfl⟩ := undecided registration resolved found
      exact ⟨record.resolved, update_self _ _ _, fun decided => absurd rfl decided⟩
    · exact ⟨resolved, (update_of_ne same _ _).trans found, fun _ => rfl⟩
  session _ _ cancelled found := ⟨cancelled, found, fun _ => rfl⟩

variable {record : SessionCancellationRecord}

theorem later_setSession (undecided : ∀ snapshot cancelled,
      router.sessions productSessionId = some ⟨snapshot, cancelled⟩ →
        snapshot = record.snapshot ∧ cancelled = none) :
    Later router (router.setSession productSessionId record) where
  interaction _ _ resolved found := ⟨resolved, found, fun _ => rfl⟩
  session other snapshot cancelled found := by
    by_cases same : other = productSessionId
    · subst same
      obtain ⟨rfl, rfl⟩ := undecided snapshot cancelled found
      exact ⟨record.cancelled, update_self _ _ _, fun decided => absurd rfl decided⟩
    · exact ⟨cancelled, (update_of_ne same _ _).trans found, fun _ => rfl⟩

theorem later_of_step {printable : Char → Bool} {call : RouterCall}
    {result : InteractionRouter × Checked RouterAnswer}
    (step : RouterStep printable router call result) : Later router result.1 := by
  cases step with
  | refused _ _ | repeated _ _ _ _ | repeatedCancellation _ _ _ _ => exact Later.refl router
  | registered _ fresh =>
    apply later_setInteraction
    exact fun _ _ found => absurd (found.symm.trans fresh) nofun
  | scopeRegistered _ fresh =>
    apply later_setSession
    exact fun _ _ found => absurd (found.symm.trans fresh) nofun
  | decided found _ =>
    apply later_setInteraction
    intro _ _ there
    cases found.symm.trans there
    exact ⟨rfl, rfl⟩
  | cancelled _ found =>
    apply later_setSession
    intro _ _ there
    cases found.symm.trans there
    exact ⟨rfl, rfl⟩

section
variable (printable : Char → Bool)
include printable

theorem interaction_step (router : InteractionRouter) (call : InteractionCall) :
    RouterStep printable router (.interaction call)
      (answering .interaction (call.run printable router)) := by
  rw [call.run_eq printable]
  refine checked_step rfl fun _ valid => ?_
  refine checked_step rfl fun ⟨registration, state⟩ read => ?_
  have found := okOr_eq_ok.mp read
  refine checked_step rfl fun _ authorized => ?_
  have admitted : Admitted call registration := ⟨valid, authorized⟩
  cases state with
  | some resolved =>
    change RouterStep printable router _
      (answering .interaction (router, replayInteraction _ _ _ _))
    cases replayed : replayInteraction registration call.requestId (call.fingerprint printable)
      resolved with
    | error error => exact .refused _ error
    | ok _ =>
      simp only [replayInteraction, refuse_bind_eq_ok, not_not, pure_eq_ok] at replayed
      obtain ⟨id, text, rfl⟩ := replayed
      exact .repeated found admitted id text
  | none =>
    refine checked_step rfl fun outcome judged => ?_
    refine checked_step rfl fun revision counted => ?_
    exact .decided found ⟨admitted, judged, counted⟩

theorem session_step (router : InteractionRouter) (request : SessionCancellationRequest) :
    RouterStep printable router (.cancelSession request)
      (answering .cancellation (cancelSession printable request router)) := by
  unfold cancelSession
  refine checked_step rfl fun _ valid => ?_
  refine checked_step rfl fun ⟨_, state⟩ read => ?_
  have found := okOr_eq_ok.mp read
  cases state with
  | some cancelled =>
    change RouterStep printable router _
      (answering .cancellation (router, replayCancellation _ _ _))
    cases replayed : replayCancellation request (cancellationFingerprint printable request)
      cancelled with
    | error error => exact .refused _ error
    | ok _ =>
      simp only [replayCancellation, refuse_bind_eq_ok, not_not, pure_eq_ok] at replayed
      obtain ⟨id, text, rfl⟩ := replayed
      exact .repeatedCancellation valid found id text
  | none =>
    refine checked_step rfl fun _ _ => ?_
    refine checked_step rfl fun revision _ => ?_
    exact .cancelled valid found

theorem router_step (router : InteractionRouter) (call : RouterCall) :
    RouterStep printable router call (performCall printable router call) := by
  cases call with
  | registerInteraction registration =>
    simp only [performCall, registerInteraction]
    refine checked_step rfl fun _ _ => ?_
    refine checked_step rfl fun _ fresh => ?_
    exact .registered registration (not_not.mp (refuse_eq_ok.mp fresh))
  | interaction call => exact interaction_step printable router call
  | registerCancellationScope snapshot =>
    simp only [performCall, registerCancellationScope]
    -- the actor, the session id, the revision, the executions and their distinctness
    iterate 5 refine checked_step rfl fun _ _ => ?_
    refine checked_step rfl fun _ fresh => ?_
    exact .scopeRegistered snapshot (not_not.mp (refuse_eq_ok.mp fresh))
  | cancelSession request => exact session_step printable router request

theorem later_after (router : InteractionRouter) (calls : List RouterCall) :
    Later router (after (routerAfter printable) router calls) := by
  induction calls generalizing router with
  | nil => exact Later.refl router
  | cons call _ ih => exact (later_of_step (router_step printable router call)).trans (ih _)

end

variable {request : SessionCancellationRequest}

section

variable (printable : Char → Bool)

abbrev routed (calls : List RouterCall) : InteractionRouter :=
  after (routerAfter printable) InteractionRouter.default calls

def AnsweredIn (calls : List RouterCall) (call : RouterCall) (answer : RouterAnswer) : Prop :=
  ∃ before after, calls = before ++ call :: after ∧
    (performCall printable (routed printable before) call).2 = .ok answer

variable {printable} {calls : List RouterCall} {call : RouterCall}
  {registration : InteractionRegistration} {answer : RouterAnswer}

theorem AnsweredIn.append
    (answered : AnsweredIn printable calls call answer) (more : List RouterCall) :
    AnsweredIn printable (calls ++ more) call answer := by
  obtain ⟨before, after, rfl, same⟩ := answered
  exact ⟨before, after ++ more, by simp, same⟩

theorem AnsweredIn.last
    (same : (performCall printable (routed printable calls) call).2 = .ok answer) :
    AnsweredIn printable (calls ++ [call]) call answer :=
  ⟨calls, [], rfl, same⟩

structure ResolvedBy (printable : Char → Bool) (calls : List RouterCall)
    (registration : InteractionRegistration) (resolved : ResolvedInteraction)
    (call : InteractionCall) : Prop where
  decides : Decides call registration resolved.outcome resolved.currentRevision
  sameId : resolved.requestId = call.requestId
  sameFingerprint : resolved.requestFingerprint = call.fingerprint printable
  answered : AnsweredIn printable calls (.interaction call) (.interaction (interactionReceipt
    registration call.requestId .applied resolved.outcome resolved.currentRevision))

structure CancelledIn (printable : Char → Bool) (calls : List RouterCall)
    (productSessionId : String) (cancelled : CancelledSession) : Prop where
  sameSession : cancelled.request.productSessionId = productSessionId
  valid : validateCancellationRequest cancelled.request = .ok ()
  sameFingerprint : cancelled.requestFingerprint =
    cancellationFingerprint printable cancelled.request
  applied : cancelled.receipt.status = .applied
  answered : AnsweredIn printable calls (.cancelSession cancelled.request)
    (.cancellation cancelled.receipt)

/-- A decided record names the call of the run that decided it. -/
structure Recorded (printable : Char → Bool) (calls : List RouterCall)
    (router : InteractionRouter) : Prop where
  interaction : ∀ subject registration resolved,
    router.interactions subject = some ⟨registration, some resolved⟩ →
    ∃ call : InteractionCall, call.subject = subject ∧
      ResolvedBy printable calls registration resolved call
  session : ∀ productSessionId snapshot cancelled,
    router.sessions productSessionId = some ⟨snapshot, some cancelled⟩ →
    CancelledIn printable calls productSessionId cancelled

section
variable (recorded : Recorded printable calls router)
include recorded

theorem Recorded.append (more : List RouterCall) : Recorded printable (calls ++ more) router where
  interaction subject registration resolved found := by
    obtain ⟨call, key, origin⟩ := recorded.interaction subject registration resolved found
    exact ⟨call, key, { origin with answered := origin.answered.append more }⟩
  session productSessionId snapshot cancelled found := by
    have origin := recorded.session productSessionId snapshot cancelled found
    exact { origin with answered := origin.answered.append more }

theorem Recorded.setInteraction {record : InteractionRecord}
    (here : ∀ resolved, record.resolved = some resolved →
      ∃ call : InteractionCall, call.subject = subject ∧
        ResolvedBy printable calls record.registration resolved call) :
    Recorded printable calls (router.setInteraction subject record) where
  interaction other registration resolved found := by
    by_cases same : other = subject
    · subst same
      cases (update_self _ _ _).symm.trans found
      exact here resolved rfl
    · have old := (update_of_ne same _ _).symm.trans found
      exact recorded.interaction other registration resolved old
  session := recorded.session

theorem Recorded.setSession (here : ∀ cancelled, record.cancelled = some cancelled →
      CancelledIn printable calls productSessionId cancelled) :
    Recorded printable calls (router.setSession productSessionId record) where
  interaction := recorded.interaction
  session other snapshot cancelled found := by
    by_cases same : other = productSessionId
    · subst same
      cases (update_self _ _ _).symm.trans found
      exact here cancelled rfl
    · have old := (update_of_ne same _ _).symm.trans found
      exact recorded.session other snapshot cancelled old

end

theorem Recorded.step (recorded : Recorded printable calls (routed printable calls)) :
    Recorded printable (calls ++ [call]) (routerAfter printable (routed printable calls) call) := by
  have kept := recorded.append [call]
  have step := router_step printable (routed printable calls) call
  have last (answer : RouterAnswer) :
      (performCall printable (routed printable calls) call).2 = .ok answer →
        AnsweredIn printable (calls ++ [call]) call answer := AnsweredIn.last
  unfold routerAfter
  generalize performCall printable (routed printable calls) call = result at step last
  cases step with
  | refused _ _ | repeated _ _ _ _ | repeatedCancellation _ _ _ _ => exact kept
  | registered _ _ => exact kept.setInteraction nofun
  | scopeRegistered _ _ => exact kept.setSession nofun
  | @decided call _ _ _ _ decides =>
    apply kept.setInteraction
    intro _ same
    cases same
    exact ⟨call, rfl, decides, rfl, rfl, last _ rfl⟩
  | @cancelled _ _ _ valid _ =>
    apply kept.setSession
    intro _ same
    cases same
    exact ⟨rfl, valid, rfl, rfl, last _ rfl⟩

theorem recorded_run (calls : List RouterCall) :
    Recorded printable calls (routed printable calls) := by
  apply after_history (routerAfter printable)
  · exact ⟨fun _ _ _ found => (nomatch found), fun _ _ _ found => nomatch found⟩
  · exact fun past call recorded => Recorded.step recorded

/-- The checks against one registration leave two responses of one fingerprint no room
to differ. -/
theorem call_eq_of_fingerprint {left right : InteractionCall}
    (left_admitted : Admitted left registration) (right_admitted : Admitted right registration)
    (same : left.fingerprint printable = right.fingerprint printable) : left = right := by
  have left_checks := left_admitted.authorized
  have right_checks := right_admitted.authorized
  cases left with
  | respond response =>
    cases right with
    | respond other =>
      simp only [InteractionCall.authority, requireResponseAuthority, eq_ok, not_not,
        exists_const] at left_checks right_checks
      obtain ⟨subject, actor, _, binding⟩ := left_checks
      obtain ⟨subject', actor', _, binding'⟩ := right_checks
      rw [responseFingerprint_injective printable (actor.symm.trans actor')
        (subject.symm.trans subject') (binding.symm.trans binding') same]
    | expire other =>
      exact absurd same (responseFingerprint_ne_expiryFingerprint printable response other)
  | expire expiry =>
    cases right with
    | respond other =>
      exact absurd same.symm (responseFingerprint_ne_expiryFingerprint printable other expiry)
    | expire _ =>
      simp only [InteractionCall.authority, requireExpiryAuthority, eq_ok, not_not,
        exists_const] at left_checks right_checks
      obtain ⟨subject, binding, _⟩ := left_checks
      obtain ⟨subject', binding', _⟩ := right_checks
      rw [expiryFingerprint_injective printable (subject.symm.trans subject')
        (binding.symm.trans binding') same]

theorem canonical_of_valid (valid : validateCancellationRequest request = .ok ()) :
    isCanonicalInstant request.requestedAt = true := by
  simp only [validateCancellationRequest, eq_ok] at valid
  obtain ⟨_, _, _, _, _, _, _, _, _, _, instant⟩ := valid
  simpa [validateInstant, refuse_eq_ok] using instant

theorem answered_of_duplicate
    (answered : (performCall printable (routed printable calls) call).2 = .ok answer)
    (duplicate : answer.status? = some .duplicate) : ∃ original, original.status? = some .applied ∧
      AnsweredIn printable calls call original ∧ answer = original.asDuplicate := by
  have recorded : Recorded printable calls (routed printable calls) := recorded_run calls
  have step := router_step printable (routed printable calls) call
  generalize performCall printable (routed printable calls) call = result at step answered
  cases step with
  | refused _ _ => cases answered
  | registered _ _ | scopeRegistered _ _ | decided _ _ | cancelled _ _ =>
    cases answered
    cases duplicate
  | repeated found admitted sameId sameFingerprint =>
    cases answered
    obtain ⟨_, _, origin⟩ := recorded.interaction _ _ _ found
    obtain rfl := call_eq_of_fingerprint admitted origin.decides.toAdmitted
      (sameFingerprint.symm.trans origin.sameFingerprint)
    exact ⟨_, rfl, origin.answered, rfl⟩
  | repeatedCancellation valid found sameId sameFingerprint =>
    cases answered
    have origin := recorded.session _ _ _ found
    have same := cancellationFingerprint_injective printable origin.sameSession sameId
      (canonical_of_valid origin.valid) (canonical_of_valid valid)
      (origin.sameFingerprint.symm.trans sameFingerprint)
    exact ⟨.cancellation _, congrArg some origin.applied, same ▸ origin.answered, rfl⟩

variable {outcome : InteractionOutcome}

theorem repeat_interaction {call : InteractionCall} {revision : Nat}
    (found : router.interactions call.subject = some ⟨registration,
      some ⟨call.requestId, call.fingerprint printable, outcome, revision⟩⟩)
    (admitted : Admitted call registration) : (performCall printable router (.interaction call)).2 =
      .ok (.interaction (interactionReceipt registration call.requestId .duplicate outcome
        revision)) := by
  have present : findInteraction call.subject router = _ :=
    congrArg (fun stored => (router, okOr stored _)) found
  simp only [performCall, answering]
  rw [call.run_eq printable, Program.bind_lift_ok admitted.valid, Program.bind_ok present,
    Program.bind_lift_ok admitted.authorized]
  simp [settleInteraction, replayInteraction, Program.lift, refuse_bind_of_not]
  rfl

theorem repeat_cancellation {snapshot : SessionCancellationSnapshot}
    {receipt : SessionCancellationReceipt}
    (found : router.sessions request.productSessionId = some ⟨snapshot,
      some ⟨request, cancellationFingerprint printable request, receipt⟩⟩)
    (valid : validateCancellationRequest request = .ok ()) :
    (performCall printable router (.cancelSession request)).2 =
      .ok (.cancellation { receipt with status := .duplicate }) := by
  have present : findSession request.productSessionId router = _ :=
    congrArg (fun stored => (router, okOr stored _)) found
  simp only [performCall, answering, cancelSession]
  rw [Program.bind_lift_ok valid, Program.bind_ok present]
  simp [settleSession, replayCancellation, Program.lift, refuse_bind_of_not]
  rfl

theorem duplicate_of_answered {original : RouterAnswer} (applied : original.status? = some .applied)
    (answered : AnsweredIn printable calls call original) :
    (performCall printable (routed printable calls) call).2 = .ok original.asDuplicate := by
  obtain ⟨before, after, rfl, same⟩ := answered
  have step := router_step printable (routed printable before) call
  have later : Later (performCall printable (routed printable before) call).1
      (routed printable (before ++ call :: after)) := by
    have whole : routed printable (before ++ call :: after) = Runs.after (routerAfter printable)
          (performCall printable (routed printable before) call).1 after := by
      simp only [routed, Runs.after_append, Runs.after_cons]
      rfl
    rw [whole]
    exact later_after printable _ after
  generalize performCall printable (routed printable before) call = result at step later same
  cases step with
  | refused _ _ => cases same
  | registered _ _ | scopeRegistered _ _ | repeated _ _ _ _ | repeatedCancellation _ _ _ _ =>
    cases same
    cases applied
  | decided _ decides =>
    cases same
    obtain ⟨_, here, kept⟩ := later.interaction _ _ _ (update_self _ _ _)
    obtain rfl := kept nofun
    exact repeat_interaction here decides.toAdmitted
  | cancelled valid _ =>
    cases same
    obtain ⟨_, here, kept⟩ := later.session _ _ _ (update_self _ _ _)
    obtain rfl := kept nofun
    exact repeat_cancellation here valid

/-- An approval or an input is resolved by a response of the registered actor under the
registered binding, in time. -/
theorem response_of_outcome {call : InteractionCall} {revision : Nat}
    (decides : Decides call registration outcome revision) (timely : outcome ≠ .expired) :
    ∃ response, call = .respond response ∧ response.actor = registration.authorizedActor ∧
      response.binding = registration.binding ∧
      response.respondedAt ≤ registration.expiresAt := by
  have checks := decides.authorized
  have answer := decides.outcome_eq
  cases call with
  | expire _ => exact absurd (Except.ok.inj answer).symm timely
  | respond response =>
    simp only [InteractionCall.authority, requireResponseAuthority, eq_ok, not_not,
      exists_const] at checks
    obtain ⟨_, actor, _, binding⟩ := checks
    refine ⟨response, rfl, actor.symm, binding.symm, ?_⟩
    by_contra late
    simp only [InteractionCall.outcome, responseOutcome, if_pos (not_le.mp late)] at answer
    exact timely (Except.ok.inj answer).symm

/-- Interactions and sessions are decided at most once: in every run, what is decided
stays; a call is answered as a duplicate exactly when it is the call of the run that
decided, and then with its receipt; an interaction that did not expire was resolved by
the registered actor under the registered binding in time; and a refused call leaves the
router as it was. -/
theorem decided_at_most_once (printable : Char → Bool) (calls : List RouterCall) :
    let router := routed printable calls
    (∀ later, Later router (after (routerAfter printable) router later)) ∧
    (∀ call answer,
      (performCall printable router call).2 = .ok answer ∧ answer.status? = some .duplicate ↔
        ∃ original, original.status? = some .applied ∧
          AnsweredIn printable calls call original ∧ answer = original.asDuplicate) ∧
    (∀ subject registration resolved,
      router.interactions subject = some ⟨registration, some resolved⟩ →
        resolved.outcome ≠ .expired →
        ∃ response, AnsweredIn printable calls (.interaction (.respond response))
            (.interaction (interactionReceipt registration resolved.requestId .applied
              resolved.outcome resolved.currentRevision)) ∧
          response.subject = subject ∧ response.actor = registration.authorizedActor ∧
          response.binding = registration.binding ∧
          response.respondedAt ≤ registration.expiresAt) ∧
    (∀ call error, (performCall printable router call).2 = .error error →
      (performCall printable router call).1 = router) := by
  intro router
  refine ⟨later_after printable router, ?_, ?_, ?_⟩
  · intro call _
    constructor
    · rintro ⟨answered, duplicate⟩
      exact answered_of_duplicate answered duplicate
    · rintro ⟨original, applied, answered, rfl⟩
      refine ⟨duplicate_of_answered applied answered, ?_⟩
      cases original with
      | registered => cases applied
      | interaction _ | cancellation _ => rfl
  · intro subject registration resolved found timely
    -- The recorded call is a response, as only an expiry is decided without one.
    obtain ⟨call, rfl, origin⟩ := (recorded_run calls).interaction subject registration resolved found
    obtain ⟨response, rfl, actor, binding, inTime⟩ := response_of_outcome origin.decides timely
    refine ⟨response, ?_, rfl, actor, binding, inTime⟩
    rw [origin.sameId]
    exact origin.answered
  · intro call _ failed
    have step := router_step printable router call
    generalize performCall printable router call = result at step failed
    cases step with
    | refused _ _ | repeated _ _ _ _ | repeatedCancellation _ _ _ _ => rfl
    | registered _ _ | scopeRegistered _ _ | decided _ _ | cancelled _ _ => cases failed

end

end WinWinCode.Session
