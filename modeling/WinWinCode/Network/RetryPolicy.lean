import WinWinCode.Foundation.Counting

/-!
The retry policy of network requests. A failure is classified by its kind and by
what is known of the request's acceptance; `decide` says whether the request may be
sent again, and after which delay. Durations are numbers of nanoseconds.
-/

namespace WinWinCode.Network

open Counting

inductive ErrorKind where
  | connectionUnavailable
  | transportInterrupted
  | timeout
  | rateLimited
  | serverTransient
  | authentication
  | authorization
  | requestInvalid
  | protocolInvalid
  | integrityInvalid
  | tlsInvalid
  | streamIncomplete
  | emptyResponse
  | cancelled
  | authorityExpired
  | storageUnavailable
deriving DecidableEq

inductive Acceptance where
  | notSent
  | unknown
  | responseReceived
deriving DecidableEq

inductive Replay where
  | retryInference
  | replayExact
  | reconcileFirst
deriving DecidableEq

inductive Phase where
  | connect
  | responseHeaders
  | responseBody
  | stream
  | decode
  | persist
deriving DecidableEq

structure NetworkFailure where
  kind : ErrorKind
  acceptance : Acceptance
  phase : Phase
  httpStatus : Option Nat := none
  retryAfterMs : Option Nat := none
deriving DecidableEq

/-- The policy file that the crate includes. -/
structure Defaults where
  (initialDelayMs maxConnectionDelayMs maxImmediateWaitMs jitterMs : Nat)
  transientKinds : List ErrorKind

def defaults : Defaults where
  initialDelayMs := 5000
  maxConnectionDelayMs := 60000
  maxImmediateWaitMs := 300000
  jitterMs := 255
  transientKinds := [.connectionUnavailable, .transportInterrupted, .timeout, .rateLimited,
    .serverTransient, .streamIncomplete, .protocolInvalid, .emptyResponse]

def NetworkFailure.retryable (failure : NetworkFailure) : Bool :=
  defaults.transientKinds.contains failure.kind

/-- The request did not leave, for want of a connection. -/
def NetworkFailure.disconnected (failure : NetworkFailure) : Bool :=
  failure.acceptance == .notSent &&
    (failure.kind == .connectionUnavailable || failure.kind == .timeout)

def durationMax : Nat := wordLimit * 1000000000 - 1

def fromMillis (millis : Nat) : Nat := millis * 1000000

def durationMillis (duration : Nat) : Nat := min (duration / 1000000) (wordLimit - 1)

def saturatingAdd32 (left right : Nat) : Nat := min (left + right) (2 ^ 32 - 1)

def exponentialDelay (ordinal initial cap : Nat) : Nat :=
  min (min (initial * min (2 ^ (ordinal - 1)) (2 ^ 32 - 1)) durationMax) cap

inductive RetryDecision where
  | retryAfter (delay : Nat)
  | deferredUntil (delay : Nat)
  | reconcile
  | stop

def decide (failure : NetworkFailure) (replay : Replay) (attempt connectionAttempt : Nat)
    (maxAttempts : UInt32) (jitterMs : Nat) : RetryDecision :=
  if failure.retryable = false then .stop
  else if replay = .reconcileFirst ∧ failure.acceptance ≠ .notSent then .reconcile
  else
    let durableControl := replay = .replayExact
    if failure.disconnected = false ∧ ¬ durableControl ∧ max maxAttempts.toNat 1 ≤ attempt then
      .stop
    else
      let ordinal := if failure.disconnected then max connectionAttempt 1 else max attempt 1
      let cap := if failure.disconnected = true ∨ durableControl then
        fromMillis defaults.maxConnectionDelayMs else durationMax
      let delay := exponentialDelay ordinal (fromMillis defaults.initialDelayMs) cap
      let floored := match failure.retryAfterMs with
        | some floor => max delay (fromMillis floor)
        | none => delay
      let jittered := min (floored + fromMillis (min jitterMs defaults.jitterMs)) durationMax
      if fromMillis defaults.maxImmediateWaitMs < jittered then .deferredUntil jittered
      else .retryAfter jittered

def RetryDecision.delay? : RetryDecision → Option Nat
  | .retryAfter delay => some delay
  | .deferredUntil delay => some delay
  | .reconcile => none
  | .stop => none

theorem decide_retries {failure : NetworkFailure} {replay : Replay}
    {attempt connectionAttempt jitterMs : Nat} {maxAttempts : UInt32} {delay : Nat}
    (retries : (decide failure replay attempt connectionAttempt maxAttempts jitterMs).delay? =
      some delay) : (replay = .reconcileFirst → failure.acceptance = .notSent) ∧
      (failure.disconnected = false → replay ≠ .replayExact →
        attempt < max maxAttempts.toNat 1) := by
  unfold decide at retries
  split at retries
  · cases retries
  split at retries
  · cases retries
  rename_i accepted
  dsimp only at retries
  split at retries
  · cases retries
  rename_i within
  constructor
  · intro mode
    by_contra sent
    exact accepted ⟨mode, sent⟩
  · intro connected other
    by_contra exhausted
    exact within ⟨connected, other, Nat.le_of_not_lt exhausted⟩

end WinWinCode.Network
