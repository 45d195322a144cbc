import WinWinCode.Foundation.Doubles
import WinWinCode.Network.RetryPolicy

/-!
The retry policy of the JavaScript request package, and that it decides as the Rust
policy does. The package computes in doubles, so every product, power, difference and
sum is rounded; the Rust policy computes in saturating integers and durations.
-/

namespace WinWinCode.NetworkRequest

open Counting Doubles Network

inductive Action where
  | stop
  | reconcile
  | retryAfter
  | deferredUntil

/-- What the package's `decide` returns; `delayMs` is absent where nothing is sent again. -/
structure Decision where
  action : Action
  delayMs : Option Nat := none

/-- `policy.initialDelayMs * 2 ** Math.min(ordinal - 1, 52)`. -/
def exponential (ordinal : Nat) : Nat :=
  roundDouble (defaults.initialDelayMs *
    roundDouble (2 ^ min (roundDouble (ordinal - 1)) 52))

def base (capped : Bool) (ordinal : Nat) : Nat :=
  if capped then min (exponential ordinal) defaults.maxConnectionDelayMs
  else exponential ordinal

def decide (failure : NetworkFailure) (replay : Replay)
    (attempt connectionAttempt maxAttempts jitterMs : Nat) : Decision :=
  if ¬ defaults.transientKinds.contains failure.kind then { action := .stop }
  else if replay = .reconcileFirst ∧ failure.acceptance ≠ .notSent then
    { action := .reconcile }
  else
    let disconnected := failure.acceptance == .notSent &&
      [.connectionUnavailable, .timeout].contains failure.kind
    let durableControl := replay == .replayExact
    if ¬ disconnected ∧ ¬ durableControl ∧ max 1 maxAttempts ≤ attempt then
      { action := .stop }
    else
      let ordinal := max 1 (if disconnected then connectionAttempt else attempt)
      let delayMs := roundDouble
        (max (base (disconnected || durableControl) ordinal) (failure.retryAfterMs.getD 0) +
          min (max jitterMs 0) defaults.jitterMs)
      { action := if defaults.maxImmediateWaitMs < delayMs then .deferredUntil else .retryAfter
        delayMs := some delayMs }

end WinWinCode.NetworkRequest

namespace WinWinCode.Network

open Counting Doubles

def RetryDecision.action : RetryDecision → NetworkRequest.Action
  | .retryAfter _ => .retryAfter
  | .deferredUntil _ => .deferredUntil
  | .reconcile => .reconcile
  | .stop => .stop

/-- The exponential delay of both policies, in milliseconds and without rounding. -/
def baseMillis (capped : Bool) (ordinal : Nat) : Nat :=
  if capped then min (5000 * 2 ^ (ordinal - 1)) 60000 else 5000 * 2 ^ (ordinal - 1)

theorem cap_reached {doublings : Nat} (many : 4 ≤ doublings) : 60000 ≤ 5000 * 2 ^ doublings := by
  have power : 2 ^ 4 ≤ 2 ^ doublings := Nat.pow_le_pow_right (by omega) many
  omega

variable {ordinal : Nat}

theorem exponential_eq (counted : ordinal ≤ 2 ^ 53) :
    NetworkRequest.exponential ordinal = 5000 * 2 ^ min (ordinal - 1) 52 := by
  have less : ordinal - 1 ≤ 2 ^ 53 := by omega
  have power (k : Nat) : roundDouble (2 ^ k) = 2 ^ k := by
    simpa using roundDouble_scaled (m := 1) (by norm_num) k
  rw [NetworkRequest.exponential, roundDouble_of_le less, power]
  exact roundDouble_scaled (by norm_num [defaults]) _

variable {capped : Bool}

theorem base_eq (counted : ordinal ≤ 2 ^ 53) (within : capped = false → ordinal ≤ 32) :
    NetworkRequest.base capped ordinal = baseMillis capped ordinal := by
  rw [NetworkRequest.base, baseMillis, exponential_eq counted]
  cases capped with
  | false =>
    have short : ordinal - 1 ≤ 52 := by
      have := within rfl
      omega
    simp [min_eq_left short]
  | true =>
    simp only [if_true]
    change min _ 60000 = _
    rcases Nat.lt_or_ge (ordinal - 1) 4 with _ | many
    · rw [min_eq_left (by omega : ordinal - 1 ≤ 52)]
    · rw [min_eq_right (cap_reached many),
        min_eq_right (cap_reached (by omega : 4 ≤ min (ordinal - 1) 52))]

theorem baseMillis_le (within : capped = false → ordinal ≤ 32) :
    baseMillis capped ordinal ≤ 5000 * 2 ^ 31 := by
  cases capped with
  | false =>
    have power : 2 ^ (ordinal - 1) ≤ 2 ^ 31 :=
      Nat.pow_le_pow_right (by omega) (by have := within rfl; omega)
    exact Nat.mul_le_mul_left 5000 power
  | true => exact (Nat.min_le_right _ _).trans (by norm_num)

theorem fromMillis_le_durationMax {millis : Nat} (small : millis ≤ 2 ^ 54) :
    fromMillis millis ≤ durationMax := by
  have scaled : fromMillis millis ≤ fromMillis (2 ^ 54) := Nat.mul_le_mul_right _ small
  exact scaled.trans (by decide +kernel)

theorem exponentialDelay_eq (within : capped = false → ordinal ≤ 32) :
    exponentialDelay ordinal (fromMillis defaults.initialDelayMs)
        (if capped then fromMillis defaults.maxConnectionDelayMs else durationMax) =
      fromMillis (baseMillis capped ordinal) := by
  have scaled (power : Nat) :
      fromMillis defaults.initialDelayMs * power = fromMillis (5000 * power) :=
    Nat.mul_right_comm 5000 1000000 power
  have longest : fromMillis defaults.maxConnectionDelayMs = fromMillis 60000 := rfl
  have fits := fromMillis_le_durationMax (baseMillis_le within |>.trans (by norm_num))
  rw [exponentialDelay, scaled, longest]
  revert fits
  cases capped with
  | false =>
    intro fits
    have power : 2 ^ (ordinal - 1) ≤ 2 ^ 31 :=
      Nat.pow_le_pow_right (by omega) (by have := within rfl; omega)
    simp only [baseMillis, Bool.false_eq_true, if_false] at fits ⊢
    rw [min_eq_left (power.trans (by norm_num)), min_eq_left fits, min_eq_left fits]
  | true =>
    intro _
    simp only [baseMillis, if_true]
    have order : fromMillis 60000 ≤ durationMax := fromMillis_le_durationMax (by norm_num)
    rw [Nat.min_assoc, min_eq_right order]
    -- the power saturates far above the cap
    simp only [fromMillis]
    rcases Nat.lt_or_ge (ordinal - 1) 4 with _ | many
    · have power : 2 ^ (ordinal - 1) ≤ 2 ^ 3 := Nat.pow_le_pow_right (by omega) (by omega)
      omega
    · have capped := cap_reached many
      omega

/-- What both policies wait before a request is sent again, in milliseconds. -/
def waitMillis (capped : Bool) (ordinal : Nat) (retryAfterMs : Option Nat) (jitterMs : Nat) : Nat :=
  max (baseMillis capped ordinal) (retryAfterMs.getD 0) + min jitterMs defaults.jitterMs

theorem jittered_eq {retryAfterMs : Option Nat} (jitterMs : Nat)
    (within : capped = false → ordinal ≤ 32)
    (bounded : ∀ floor, retryAfterMs = some floor → floor < 2 ^ 53) :
    min (fromMillis (max (baseMillis capped ordinal) (retryAfterMs.getD 0)) +
        fromMillis (min jitterMs defaults.jitterMs)) durationMax =
      fromMillis (waitMillis capped ordinal retryAfterMs jitterMs) := by
  have small := baseMillis_le within
  have jitter : defaults.jitterMs = 255 := rfl
  have floor : retryAfterMs.getD 0 < 2 ^ 53 := by
    cases retryAfterMs with
    | none => norm_num
    | some floor => exact bounded floor rfl
  have fits : fromMillis (waitMillis capped ordinal retryAfterMs jitterMs) ≤ durationMax := by
    apply fromMillis_le_durationMax
    simp only [waitMillis, jitter]
    omega
  rw [fromMillis, fromMillis, ← add_mul]
  exact min_eq_left fits

/-- The immediate wait is held exactly, so both policies defer the same waits. -/
theorem defers_iff (millis : Nat) : defaults.maxImmediateWaitMs < roundDouble millis ↔
      fromMillis defaults.maxImmediateWaitMs < fromMillis millis := by
  rw [lt_roundDouble_iff (by norm_num [defaults])]
  exact (Nat.mul_lt_mul_right (by norm_num)).symm

theorem disconnected_eq (failure : NetworkFailure) : (failure.acceptance == .notSent &&
      [ErrorKind.connectionUnavailable, .timeout].contains failure.kind) =
      failure.disconnected := by
  cases failure with
  | mk kind _ _ _ _ => cases kind <;> rfl

def ordinalOf (failure : NetworkFailure) (attempt connectionAttempt : Nat) : Nat :=
  max (if failure.disconnected = true then connectionAttempt else attempt) 1

/-- Delays are capped where a request is sent again without end. -/
def cappedFor (failure : NetworkFailure) (replay : Replay) : Bool :=
  failure.disconnected || replay == .replayExact

/-- The attempts of a request whose delays are not capped are counted. -/
def Spent (failure : NetworkFailure) (replay : Replay) (attempt maxAttempts : Nat) : Prop :=
  failure.disconnected = false ∧ ¬ replay = .replayExact ∧ max maxAttempts 1 ≤ attempt

theorem ordinalOf_le {failure : NetworkFailure} {replay : Replay}
    {attempt connectionAttempt maxAttempts : Nat} (few : maxAttempts ≤ 32)
    (left : ¬ Spent failure replay attempt maxAttempts)
    (uncapped : cappedFor failure replay = false) :
    ordinalOf failure attempt connectionAttempt ≤ 32 := by
  obtain ⟨connected, inference⟩ := Bool.or_eq_false_iff.mp uncapped
  have within : attempt < max maxAttempts 1 := by
    by_contra exhausted
    exact left ⟨connected, by simpa using inference, Nat.le_of_not_lt exhausted⟩
  simp only [ordinalOf, connected, Bool.false_eq_true, if_false]
  omega

section

variable {failure : NetworkFailure} {replay : Replay} {attempt connectionAttempt : Nat}
  {maxAttempts : UInt32} (jitterMs : Nat)
  (transient : failure.retryable = true)
  (sent : ¬ (replay = .reconcileFirst ∧ failure.acceptance ≠ .notSent))
  (left : ¬ Spent failure replay attempt maxAttempts.toNat)
  (few : maxAttempts.toNat ≤ 32)

include transient sent left few

theorem rust_sends_again (bounded : ∀ floor, failure.retryAfterMs = some floor → floor < 2 ^ 53) :
    let millis := waitMillis (cappedFor failure replay)
      (ordinalOf failure attempt connectionAttempt) failure.retryAfterMs jitterMs
    decide failure replay attempt connectionAttempt maxAttempts jitterMs =
      if fromMillis defaults.maxImmediateWaitMs < fromMillis millis then
        .deferredUntil (fromMillis millis)
      else .retryAfter (fromMillis millis) := by
  have within : cappedFor failure replay = false →
      ordinalOf failure attempt connectionAttempt ≤ 32 := ordinalOf_le few left
  have ordinal : (if failure.disconnected = true then max connectionAttempt 1
      else max attempt 1) = ordinalOf failure attempt connectionAttempt := by
    unfold ordinalOf
    split <;> rfl
  have cap : (if failure.disconnected = true ∨ replay = .replayExact then
      fromMillis defaults.maxConnectionDelayMs else durationMax) =
      if cappedFor failure replay = true then
        fromMillis defaults.maxConnectionDelayMs else durationMax := by
    simp [cappedFor]
  have jittered := jittered_eq jitterMs within bounded
  unfold Spent at left
  simp only [decide, transient, sent, left, Bool.true_eq_false, if_false, ordinal, cap,
    exponentialDelay_eq within]
  cases floor : failure.retryAfterMs with
  | none =>
    rw [floor, Option.getD_none, Nat.max_zero] at jittered
    rw [jittered]
  | some millis =>
    have scaled (base : Nat) :
        fromMillis (max base millis) = max (fromMillis base) (fromMillis millis) :=
      (Nat.mul_max_mul_right base millis 1000000).symm
    rw [floor, Option.getD_some, scaled] at jittered
    dsimp only
    rw [jittered]

theorem package_sends_again (counted : ordinalOf failure attempt connectionAttempt ≤ 2 ^ 53) :
    let millis := waitMillis (cappedFor failure replay)
      (ordinalOf failure attempt connectionAttempt) failure.retryAfterMs jitterMs
    NetworkRequest.decide failure replay attempt connectionAttempt maxAttempts.toNat jitterMs =
      { action := if defaults.maxImmediateWaitMs < roundDouble millis then .deferredUntil
          else .retryAfter
        delayMs := some (roundDouble millis) } := by
  have within : cappedFor failure replay = false →
      ordinalOf failure attempt connectionAttempt ≤ 32 := ordinalOf_le few left
  have listed : defaults.transientKinds.contains failure.kind := transient
  have ordinal : max 1 (if failure.disconnected = true then connectionAttempt else attempt) =
      ordinalOf failure attempt connectionAttempt := max_comm _ _
  have spent : ¬ (¬ failure.disconnected = true ∧ ¬ (replay == .replayExact) = true ∧
      max 1 maxAttempts.toNat ≤ attempt) := by
    simpa [Spent, max_comm 1] using left
  simp only [NetworkRequest.decide, listed, sent, disconnected_eq, spent, ordinal, if_false,
    not_true_eq_false]
  rw [← cappedFor, base_eq counted within, Nat.max_eq_left (Nat.zero_le jitterMs), ← waitMillis]

end

/-- The two policies take the same action, and the package waits for the Rust policy's
delay as a double holds it: for the same delay up to `2 ^ 53` milliseconds. -/
theorem policies_agree (failure : NetworkFailure) (replay : Replay)
    (attempt connectionAttempt maxAttempts : UInt32) (jitterMs : Nat)
    (bounded : ∀ floor, failure.retryAfterMs = some floor → floor < 2 ^ 53)
    (few : maxAttempts.toNat ≤ 32) :
    let package := NetworkRequest.decide failure replay attempt.toNat connectionAttempt.toNat
      maxAttempts.toNat jitterMs
    let rust := decide failure replay attempt.toNat connectionAttempt.toNat maxAttempts jitterMs
    package.action = rust.action ∧ ∀ delay, rust.delay? = some delay →
        ∃ millis, delay = fromMillis millis ∧ package.delayMs = some (roundDouble millis) ∧
          (millis ≤ 2 ^ 53 → package.delayMs = some millis) := by
  have listed : defaults.transientKinds.contains failure.kind = failure.retryable := rfl
  by_cases refused : failure.retryable = false
  · simp only [NetworkRequest.decide, decide, listed, refused]
    simp [RetryDecision.action, RetryDecision.delay?]
  have transient : failure.retryable := by simpa using refused
  by_cases sent : replay = .reconcileFirst ∧ failure.acceptance ≠ .notSent
  · simp only [NetworkRequest.decide, decide, listed, transient]
    simp [sent, RetryDecision.action, RetryDecision.delay?]
  by_cases left : Spent failure replay attempt.toNat maxAttempts.toNat
  · obtain ⟨connected, inference, exhausted⟩ := left
    simp only [NetworkRequest.decide, decide, listed, transient, sent, disconnected_eq, connected,
      inference, exhausted, max_comm 1]
    simp [inference, RetryDecision.action, RetryDecision.delay?]
  have counted : ordinalOf failure attempt.toNat connectionAttempt.toNat ≤ 2 ^ 53 := by
    have first := attempt.toNat_lt
    have second := connectionAttempt.toNat_lt
    unfold ordinalOf
    split <;> omega
  rw [rust_sends_again jitterMs transient sent left few bounded,
    package_sends_again jitterMs transient sent left few counted]
  simp only [defers_iff]
  constructor
  · split <;> rfl
  · intro _ answered
    refine ⟨_, ?_, rfl, fun small => congrArg some (roundDouble_of_le small)⟩
    split at answered <;> exact (Option.some.inj answered).symm

def rateLimitedFor (millis : Nat) : NetworkFailure where
  kind := .rateLimited
  acceptance := .responseReceived
  phase := .responseHeaders
  httpStatus := some 429
  retryAfterMs := some millis

theorem policies_agree_rate_limited :
    let package := NetworkRequest.decide (rateLimitedFor 7000) .retryInference 1 1 4 100
    let rust := decide (rateLimitedFor 7000) .retryInference 1 1 4 100
    package.action = rust.action ∧ ∀ delay, rust.delay? = some delay →
        ∃ millis, delay = fromMillis millis ∧ package.delayMs = some (roundDouble millis) ∧
          (millis ≤ 2 ^ 53 → package.delayMs = some millis) :=
  policies_agree (rateLimitedFor 7000) .retryInference 1 1 4 100
    (fun _ same => Option.some.inj same ▸ by norm_num) (by decide)

/-- At the largest safe integer the package's sum with the jitter is a tie, and is
rounded down to the even double. -/
theorem largest_retry_after_loses_jitter :
    (decide (rateLimitedFor (2 ^ 53 - 1)) .retryInference 1 1 4 2).delay? =
        some (fromMillis (2 ^ 53 + 1)) ∧
      (NetworkRequest.decide (rateLimitedFor (2 ^ 53 - 1)) .retryInference 1 1 4 2).delayMs =
        some (2 ^ 53) := by
  decide +kernel

end WinWinCode.Network
