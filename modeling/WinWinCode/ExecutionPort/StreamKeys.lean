import WinWinCode.ExecutionPort.RuntimeReplay
import WinWinCode.Foundation.Formats

/-!
The keys of the replay streams. A key writes the parts of an identity one after the other, each
with its length in bytes before it, so that it can be taken apart again.
-/

namespace WinWinCode.ExecutionPort

open Formats List
open Storage (ExecutionLeaseStamp SessionIdentity)

def scopedStreamKey (head : String) (components : List String) : ReplayStreamKey :=
  ⟨components.foldl (fun value component =>
    value ++ "/" ++ toString component.utf8ByteSize ++ ":" ++ component) head⟩

section Keys
variable (lease : ExecutionLeaseStamp) (workerSessionId : String) (session : SessionIdentity)
  (resource : String)

def leaseComponents : List String :=
  [lease.jobId, lease.leaseId, lease.workerId, lease.workerInstanceId, toString lease.attempt,
    lease.fencingToken, workerSessionId, session.productSessionId, session.workRunId.getD "",
    session.codexThreadId, resource]

def artifactStreamKey : ReplayStreamKey :=
  scopedStreamKey "artifact-worker-replay:v1"
    (leaseComponents lease workerSessionId session resource)

def modelStreamKey : ReplayStreamKey :=
  scopedStreamKey "model-worker-replay:v1" (leaseComponents lease workerSessionId session resource)

end Keys

/-- A component with its length before it. -/
def framed (component : String) : List Char :=
  '/' :: (Nat.toDigits 10 component.utf8ByteSize ++ [':']) ++ component.toList

theorem eq_of_utf8ByteSize {left right : String} {rest more : List Char}
    (same : left.toList ++ rest = right.toList ++ more)
    (sizes : left.utf8ByteSize = right.utf8ByteSize) : left = right ∧ rest = more := by
  have empty (front back : String) (extra : List Char)
      (longer : back.toList = front.toList ++ extra)
      (sizes : front.utf8ByteSize = back.utf8ByteSize) : extra = [] := by
    have spelled : back = front ++ String.ofList extra := by
      apply String.toList_injective
      simp [longer]
    rw [spelled, String.utf8ByteSize_append] at sizes
    have none : (String.ofList extra).utf8ByteSize = 0 := by omega
    simpa using String.utf8ByteSize_eq_zero_iff.mp none
  rcases append_eq_append_iff.mp same with ⟨extra, longer, tail⟩ | ⟨extra, longer, tail⟩
  · cases empty left right extra longer sizes
    exact ⟨String.toList_injective (by simpa using longer.symm), tail⟩
  · cases empty right left extra longer sizes.symm
    exact ⟨String.toList_injective (by simpa using longer), tail.symm⟩

theorem framed_splits : Splits framed := by
  intro left right rest more same
  have numbers : Splits fun number => Nat.toDigits 10 number ++ [':'] :=
    digits_split (by decide) (by decide) (by decide)
  obtain ⟨sizes, texts⟩ := @numbers left.utf8ByteSize right.utf8ByteSize (left.toList ++ rest)
    (right.toList ++ more) (by simpa [framed] using same)
  exact eq_of_utf8ByteSize texts sizes

theorem framed_injective {left right : List String} (sizes : left.length = right.length)
    (same : left.flatMap framed = right.flatMap framed) : left = right := by
  induction left generalizing right with
  | nil => exact (length_eq_zero_iff.mp sizes.symm).symm
  | cons first rest ih =>
    cases right with
    | nil => cases sizes
    | cons other more =>
      obtain ⟨rfl, rests⟩ := framed_splits same
      rw [ih (Nat.succ.inj sizes) rests]

theorem scopedStreamKey_text (head : String) (components : List String) :
    (scopedStreamKey head components).value.toList = head.toList ++ components.flatMap framed := by
  induction components generalizing head with
  | nil => simp [scopedStreamKey]
  | cons first rest ih =>
    have step : scopedStreamKey head (first :: rest) = scopedStreamKey
        (head ++ "/" ++ toString first.utf8ByteSize ++ ":" ++ first) rest := rfl
    rw [step, ih]
    simp [framed]

theorem scopedStreamKey_inj {head : String} {left right : List String}
    (sizes : left.length = right.length) :
    scopedStreamKey head left = scopedStreamKey head right ↔ left = right := by
  refine ⟨fun same => framed_injective sizes ?_, fun same => same ▸ rfl⟩
  have texts := congrArg (·.value.toList) same
  simpa only [scopedStreamKey_text, append_cancel_left_eq] using texts

inductive StreamKind where
  | artifact
  | model
  | runtime
deriving DecidableEq

def StreamKind.head : StreamKind → String
  | artifact => "artifact-worker-replay:v1"
  | model => "model-worker-replay:v1"
  | runtime => "runtime-worker-replay:v1"

/-- A stream of one of the kinds. A work run that there is has an id. -/
structure StreamIdentity extends RuntimeReplayIdentity where
  named : sessionIdentity.workRunId ≠ some ""

namespace StreamIdentity
variable (stream : StreamIdentity)

def components : List String :=
  leaseComponents stream.lease stream.workerSessionId stream.sessionIdentity stream.codexThreadId

/-- What a key is to tell apart; the last is the artifact, the model exchange or the thread. -/
def parts :=
  (stream.lease.jobId, stream.lease.leaseId, stream.lease.workerId, stream.lease.workerInstanceId,
    stream.lease.attempt, stream.lease.fencingToken, stream.workerSessionId,
    stream.sessionIdentity.productSessionId, stream.sessionIdentity.workRunId,
    stream.sessionIdentity.codexThreadId, stream.codexThreadId)

theorem components_inj {left right : StreamIdentity} :
    left.components = right.components ↔ left.parts = right.parts := by
  have runs : left.sessionIdentity.workRunId.getD "" = right.sessionIdentity.workRunId.getD "" ↔
      left.sessionIdentity.workRunId = right.sessionIdentity.workRunId := by
    have leftNamed := left.named
    have rightNamed := right.named
    revert leftNamed rightNamed
    cases left.sessionIdentity.workRunId <;> cases right.sessionIdentity.workRunId <;>
      simp +contextual [eq_comm]
  simp [components, leaseComponents, parts, runs, Int.toString_eq_repr, Int.repr_inj]

def key : StreamKind → ReplayStreamKey
  | .artifact => artifactStreamKey stream.lease stream.workerSessionId stream.sessionIdentity
    stream.codexThreadId
  | .model => modelStreamKey stream.lease stream.workerSessionId stream.sessionIdentity
    stream.codexThreadId
  | .runtime => runtimeStreamKey stream.toRuntimeReplayIdentity

end StreamIdentity

theorem stream_keys_injective (left right : StreamIdentity) (kind other : StreamKind) :
    left.key kind = right.key other ↔ kind = other ∧ left.parts = right.parts := by
  have texts (stream : StreamIdentity) (kind : StreamKind) :
      stream.key kind = scopedStreamKey kind.head stream.components := by
    cases kind <;> rfl
  rw [texts, texts, ← StreamIdentity.components_inj]
  constructor
  · intro same
    have starts := congrArg (·.value.toList.head?) same
    have headed (kind : StreamKind) : kind.head.toList ≠ [] := by cases kind <;> decide
    simp only [scopedStreamKey_text, head?_append_of_ne_nil _ (headed _)] at starts
    have kinds : kind = other := by
      revert starts
      cases kind <;> cases other <;> decide
    have sizes : left.components.length = right.components.length := rfl
    subst kinds
    exact ⟨rfl, (scopedStreamKey_inj sizes).mp same⟩
  · rintro ⟨rfl, same⟩
    rw [same]

example : ∃ stream : StreamIdentity, stream.key .artifact ≠ stream.key .model :=
  ⟨⟨⟨firstLease, "wsn_00000000000000000000000001", ⟨"cdx_00000000000000000000000001",
    "psn_00000000000000000000000001", "wsn_00000000000000000000000001",
    some "wrn_00000000000000000000000001"⟩, "cdx_00000000000000000000000001"⟩, by decide⟩,
    by decide +kernel⟩

end WinWinCode.ExecutionPort
