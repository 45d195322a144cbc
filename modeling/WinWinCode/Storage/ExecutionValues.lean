import WinWinCode.Foundation.Text

/-!
Values that the execution tables share: the scope of a job, from
`execution_queue.rs`, the lease it is executed under, from
`execution_registry.rs`, its stamp on the wire, the sessions it runs in, and the
usage an execution reports, from `usage.rs` of the execution port.
-/

namespace WinWinCode.Storage

open Text

structure ExecutionQueueScope where
  (organizationId workspaceId projectId repositoryId productSessionId : String)
  deliveryId : Option String
deriving DecidableEq

structure ExecutionLeaseRecord where
  (jobId leaseId payloadDigest workerId workerInstanceId : String)
  attempt : Nat
  (fencingToken issuedAt expiresAt : String)
deriving DecidableEq

structure ExecutionLeaseStamp where
  (jobId leaseId workerId workerInstanceId : String)
  attempt : Int
  (fencingToken issuedAt expiresAt : String)
deriving DecidableEq

structure SessionIdentity where
  (codexThreadId productSessionId workerSessionId : String)
  workRunId : Option String
deriving DecidableEq

inductive ExecutionOutcomeUsageAccountingStatus where
  | known
  | unknown
deriving DecidableEq

structure ExecutionOutcomeUsage where
  accountingStatus : ExecutionOutcomeUsageAccountingStatus
  costMicrounits : Option Int
  (knownTokens runtimeMillis : Int)
  tokens : Option Int
deriving DecidableEq

namespace ExecutionOutcomeUsage

/-- The integers `0..=9_007_199_254_740_991`. -/
def inRange (value : Int) : Bool := decide (0 ≤ value) && decide (value ≤ maxSafeInteger)

def validUsage (usage : ExecutionOutcomeUsage) : Bool :=
  inRange usage.runtimeMillis && inRange usage.knownTokens &&
    usage.costMicrounits.all inRange &&
    match usage.accountingStatus with
    | .known => usage.tokens == some usage.knownTokens
    | .unknown => usage.tokens.isNone

def resolved (usage : ExecutionOutcomeUsage) : Bool :=
  usage.tokens.isSome && usage.costMicrounits.isSome

end ExecutionOutcomeUsage

def toUnsigned (value : Int) : Option Nat := if 0 ≤ value then some value.toNat else none

end WinWinCode.Storage
