import WinWinCode.Foundation.Decimals
import WinWinCode.Foundation.Runs
import WinWinCode.Storage.ExecutionRegistry

/-!
Fencing of execution leases. Beside the tables runs the list of tenures: every
lease that a claim was granted, as it was last extended, and how it ended. A call
advances that list in one of three ways, and the tables follow it.
-/

namespace WinWinCode.Storage

open Fallible Tables Text Decimals ExecutionRegistry List Table Option Runs

/-- A granted lease as it was last extended, and how and when it ended. -/
structure LeaseTenure where
  lease : ExecutionLeaseRecord
  terminal : Option (ExecutionLeaseTerminalOutcome × String)

namespace LeaseTenure

variable (tenure : LeaseTenure)

def token : Nat := decimalValue tenure.lease.fencingToken.toList

def validUntil : String :=
  match tenure.terminal with
  | some (_, moment) => min tenure.lease.expiresAt moment
  | none => tenure.lease.expiresAt

/-- A completed or cancelled lease is the last of its job. -/
def isFinal : Bool :=
  tenure.terminal.any fun ending => ending.1 != .failed

/-- The lease may be followed from this moment on: it has expired, or it failed before. -/
def EndedBy (moment : String) : Prop :=
  match tenure.terminal with
  | some (outcome, ended) => outcome = .failed ∧ ended ≤ moment
  | none => tenure.lease.expiresAt ≤ moment

structure Precedes (earlier later : LeaseTenure) : Prop where
  attempt : earlier.lease.attempt < later.lease.attempt
  token : earlier.token < later.token
  ended : earlier.EndedBy later.lease.issuedAt

variable {tenure : LeaseTenure} {moment : String}

section
variable (ended : tenure.EndedBy moment)
include ended

theorem EndedBy.validUntil_le : tenure.validUntil ≤ moment := by
  unfold EndedBy at ended
  unfold validUntil
  split at ended
  · exact le_trans (min_le_right _ _) ended.2
  · exact ended

theorem EndedBy.isFinal : tenure.isFinal = false := by
  unfold EndedBy at ended
  unfold LeaseTenure.isFinal
  split at ended <;> simp_all

theorem EndedBy.later {other : String} (after : moment ≤ other) : tenure.EndedBy other := by
  unfold EndedBy at ended ⊢
  split at ended
  · exact ⟨ended.1, le_trans ended.2 after⟩
  · exact le_trans ended after

end

end LeaseTenure

def currentTenure (tenures : List LeaseTenure) (job : String) : Option LeaseTenure :=
  tenures.reverse.find? fun tenure => tenure.lease.jobId == job

/-- What one call may do to the tenures: grant a lease that follows the current one of its
job, extend the current lease of a job while it runs, or end it. -/
inductive Advances (tenures : List LeaseTenure) : List LeaseTenure → Prop
  | still : Advances tenures tenures
  | granted (lease : ExecutionLeaseRecord)
      (fresh : ∀ tenure ∈ tenures, tenure.lease.leaseId ≠ lease.leaseId)
      (window : lease.issuedAt < lease.expiresAt)
      (follows : ∀ previous, currentTenure tenures lease.jobId = some previous →
        previous.Precedes ⟨lease, none⟩) :
      Advances tenures (tenures ++ [⟨lease, none⟩])
  | extended (before later : List LeaseTenure) (lease : ExecutionLeaseRecord) (expiresAt : String)
      (place : tenures = before ++ ⟨lease, none⟩ :: later)
      (newest : ∀ tenure ∈ later, tenure.lease.jobId ≠ lease.jobId)
      (grows : lease.expiresAt < expiresAt) :
      Advances tenures (before ++ ⟨{ lease with expiresAt := expiresAt }, none⟩ :: later)
  | finished (before later : List LeaseTenure) (lease : ExecutionLeaseRecord)
      (outcome : ExecutionLeaseTerminalOutcome) (moment : String)
      (place : tenures = before ++ ⟨lease, none⟩ :: later)
      (newest : ∀ tenure ∈ later, tenure.lease.jobId ≠ lease.jobId)
      (after : lease.issuedAt ≤ moment) :
      Advances tenures (before ++ ⟨lease, some (outcome, moment)⟩ :: later)

/-- The tables, and the tenures that the calls so far were answered with. -/
structure LeaseRegistry where
  store : RegistryStore
  tenures : List LeaseTenure

inductive RegistryEvent where
  | claim (workers : WorkerDirectory) (request : ExecutionLeaseClaim)
      (requireAuthenticatedPlacement : Bool)
  | renew (workers : WorkerDirectory) (request : ExecutionLeaseRenewal)
  | finish (request : ExecutionLeaseTerminalRequest)
  | dispatch (workers : WorkerDirectory) (request : DispatchResultRequest)

namespace LeaseRegistry

def empty : LeaseRegistry := ⟨.empty, []⟩

def current (registry : LeaseRegistry) (job : String) : Option LeaseTenure :=
  currentTenure registry.tenures job

variable (tenures : List LeaseTenure)

def amend (leaseId : String) (change : LeaseTenure → LeaseTenure) : List LeaseTenure :=
  tenures.map fun tenure => if tenure.lease.leaseId = leaseId then change tenure else tenure

def observeClaim (receipt : ExecutionLeaseReceipt) : List LeaseTenure :=
  match receipt.status, receipt.lease with
  | .accepted, some lease => tenures ++ [⟨lease, none⟩]
  | _, _ => tenures

def observeRenewal (receipt : ExecutionLeaseReceipt) : List LeaseTenure :=
  match receipt.status, receipt.lease with
  | .accepted, some lease => amend tenures lease.leaseId fun tenure => { tenure with lease := lease }
  | _, _ => tenures

/-- The tenures after a terminal was answered; `true` says that it was stored. -/
def observeFinish (request : ExecutionLeaseTerminalRequest) (inserted : Bool) : List LeaseTenure :=
  if inserted then amend tenures request.leaseId fun tenure =>
    { tenure with terminal := some (request.outcome, request.terminalAt) }
  else tenures

def step (digest : Digest) (registry : LeaseRegistry) : RegistryEvent → LeaseRegistry
  | .claim workers request required =>
    match claimExecutionJob digest workers registry.store request required with
    | .ok (store, receipt) => ⟨store, observeClaim registry.tenures receipt⟩
    | .error _ => registry
  | .renew workers request =>
    match renewExecutionLease digest workers registry.store request with
    | .ok (store, receipt) => ⟨store, observeRenewal registry.tenures receipt⟩
    | .error _ => registry
  | .finish request =>
    match finishExecutionLease digest registry.store request with
    | .ok (store, inserted) => ⟨store, observeFinish registry.tenures request inserted⟩
    | .error _ => registry
  | .dispatch workers request =>
    match recordDispatchResult digest workers registry.store request with
    | .ok (store, _) => ⟨store, registry.tenures⟩
    | .error _ => registry

end LeaseRegistry

/-- A claim that is not a replay asks for a lease id that no granted lease has. -/
def RegistryEvent.Fresh (registry : LeaseRegistry) : RegistryEvent → Prop
  | .claim _ request _ =>
    registry.store.receiptRow .claim request.jobId request.requestId = none →
      ∀ tenure ∈ registry.tenures, tenure.lease.leaseId ≠ request.leaseId
  | _ => True

instance (registry : LeaseRegistry) (event : RegistryEvent) : Decidable (event.Fresh registry) :=
  match event with
  | .claim _ _ _ => inferInstanceAs (Decidable (_ → _))
  | .renew _ _ => isTrue trivial
  | .finish _ => isTrue trivial
  | .dispatch _ _ => isTrue trivial

/-! Tokens. -/

variable {lease : ExecutionLeaseRecord} {job : String} {requestDigest : String}
  {row : LeaseReceiptRow}

namespace ExecutionRegistry

theorem isFencingToken_cons {token : String} (canonical : isFencingToken token) :
    isDigits token.toList ∧ ∃ first rest, token.toList = first :: rest ∧
      first.isDigit ∧ first ≠ '0' := by
  simp only [isFencingToken, Bool.and_eq_true] at canonical
  obtain ⟨⟨⟨nonempty, _⟩, nonzero⟩, digits⟩ := canonical
  cases symbols : token.toList with
  | nil => simp [symbols] at nonempty
  | cons first rest =>
    rw [symbols] at digits nonzero
    refine ⟨digits, first, rest, rfl, ?_, ?_⟩
    · simp only [isDigits, all_cons, Bool.and_eq_true] at digits
      exact digits.1
    · simpa using nonzero

theorem decimalValue_lt_of_not_less {token previous : String}
    (canonical : isFencingToken token) (known : isFencingToken previous)
    (less : lessDecimal token previous = false) (different : token ≠ previous) :
    decimalValue previous.toList < decimalValue token.toList := by
  obtain ⟨digits, _, rest, symbols, digit, nonzero⟩ := isFencingToken_cons canonical
  obtain ⟨knownDigits, _⟩ := isFencingToken_cons known
  simp only [lessDecimal, Bool.or_eq_false_iff, decide_eq_false_iff_not, not_lt] at less
  rcases Nat.lt_or_eq_of_le less.1 with shorter | same
  · calc decimalValue previous.toList < 10 ^ previous.toList.length := decimalValue_lt knownDigits
      _ ≤ 10 ^ rest.length := by
          apply Nat.pow_le_pow_right (by decide)
          rw [symbols, length_cons] at shorter
          omega
      _ ≤ decimalValue token.toList := symbols ▸ le_decimalValue digit nonzero
  · have order : ¬ token < previous := by simpa [same] using less.2
    have above : previous < token := lt_of_le_of_ne (not_lt.mp order) (Ne.symm different)
    exact (lt_iff_decimalValue_lt same knownDigits digits).mp (String.lt_iff_toList_lt.mp above)

/-! What each operation does. -/

variable {store next : RegistryStore} {request : ExecutionLeaseClaim}
  {current : ExecutionLeaseRecord} {digest : Digest} {receipt : ExecutionLeaseReceipt}

theorem loadLease_eq_ok {found : Option ExecutionLeaseRecord}
    (done : loadLease store job = .ok found) : found = store.leaseRow job ∧
      ∀ lease, found = some lease → validateLeaseRecord lease = .ok () := by
  unfold loadLease at done
  cases row : store.leaseRow job with
  | none =>
    rw [row] at done
    cases done
    exact ⟨rfl, fun _ none_ => nomatch none_⟩
  | some lease =>
    rw [row, validateFound] at done
    cases checked : validateStoredLease lease with
    | error _ => rw [checked] at done; cases done
    | ok _ =>
      rw [checked] at done
      cases done
      refine ⟨rfl, fun other same => ?_⟩
      rw [← some.inj same]
      exact mapError_eq_ok.mp checked

theorem validateLeaseRecord_eq_ok (valid : validateLeaseRecord lease = .ok ()) :
    isFencingToken lease.fencingToken = true := by
  simp only [validateLeaseRecord, eq_ok] at valid
  obtain ⟨_, _, _, _, _, _, _, _, _, _, _, token, _⟩ := valid
  simpa using refuse_eq_ok.mp token

theorem validateClaim_eq_ok {done : Unit} (valid : validateClaim request = .ok done) :
    isFencingToken request.fencingToken ∧ request.issuedAt < request.expiresAt := by
  simp only [validateClaim, bind_eq_ok] at valid
  obtain ⟨_, _, _, _, _, _, _, _, _, _, _, _, _, _, _, token, _, _, window⟩ := valid
  simp only [validateLeaseWindow, bind_eq_ok] at window
  obtain ⟨_, _, _, _, ordered⟩ := window
  exact ⟨by simpa using refuse_eq_ok.mp token, not_le.mp (refuse_eq_ok.mp ordered)⟩

/-- The current lease gives way to the claimed one. -/
structure GivesWay (request : ExecutionLeaseClaim) (current : ExecutionLeaseRecord)
    (terminal : Option LeaseTerminalRow) : Prop where
  ended : ∀ row, terminal = some row →
    row.request.outcome = .failed ∧ row.request.terminalAt ≤ request.issuedAt
  expired : terminal = none → current.expiresAt ≤ request.issuedAt
  attempt : current.attempt < request.attempt
  token : lessDecimal request.fencingToken current.fencingToken = false
  another : request.fencingToken ≠ current.fencingToken

variable {terminal : Option LeaseTerminalRow}

theorem claimRefusal_eq_none (granted : claimRefusal request current terminal = none) :
    GivesWay request current terminal := by
  simp only [claimRefusal, ite_some_eq_none] at granted
  obtain ⟨ended, token, expired, attempt, another, _⟩ := granted
  refine ⟨fun row found => ?_, fun absent => ?_, not_le.mp attempt, ?_, (not_or.mp another).2⟩
  · simp only [found, any_some, Bool.or_eq_true, bne_iff_ne, decide_eq_true_eq, not_or,
      not_not, not_lt] at ended
    exact ended
  · simp only [absent, isNone_none, true_and, not_lt] at expired
    exact expired
  · exact Bool.not_eq_true _ ▸ token

structure Granted (store : RegistryStore) (request : ExecutionLeaseClaim) (next : RegistryStore)
    (receipt : ExecutionLeaseReceipt) : Prop where
  valid : validateClaim request = .ok ()
  fresh : store.receiptRow .claim request.jobId request.requestId = none
  answer : receipt = ⟨.accepted, some (claimedLease request), false⟩
  leases : store.leases.upsert (fun row => row.jobId == request.jobId) (claimedLease request) =
    some next.leases
  terminals : next.terminals = store.terminals
  clear : ∀ lease, store.leaseRow request.jobId = some lease → validateLeaseRecord lease = .ok () ∧
    GivesWay request lease (store.terminalRow lease.leaseId)

theorem grantLease_eq_ok {current : Option ExecutionLeaseRecord}
    {placement : Option WorkerPlacement}
    (done : grantLease digest store request current placement = .ok (next, receipt)) :
    receipt = ⟨.accepted, some (claimedLease request), false⟩ ∧
      store.leases.upsert (·.jobId == request.jobId) (claimedLease request) =
        some next.leases ∧ next.terminals = store.terminals := by
  simp only [grantLease, bind_eq_ok] at done
  obtain ⟨_, upserted, _, _, _, _, same⟩ := done
  cases same
  exact ⟨rfl, okOr_eq_ok.mp upserted, rfl⟩

theorem replayLease_status (done : replayLease row requestDigest = .ok receipt) :
    receipt.status ≠ .accepted := by
  unfold replayLease at done
  split at done
  · split at done
    · rw [bind_eq_ok] at done
      obtain ⟨_, _, same⟩ := done
      cases same
      exact nofun
    · cases done
  · cases done
    exact nofun

theorem replayClaim_status {required : Bool}
    (done : replayClaim digest store row requestDigest required = .ok receipt) :
    receipt.status ≠ .accepted := by
  rw [replayClaim, bind_eq_ok] at done
  obtain ⟨replayed, answer, done⟩ := done
  have status := replayLease_status answer
  split at done
  · cases checked : requireLeasePlacementForReceipt digest store replayed with
    | error _ => rw [checked] at done; cases done
    | ok _ =>
      rw [checked] at done
      exact Except.ok.inj done ▸ status
  · exact Except.ok.inj done ▸ status

variable {status : LeaseWriteStatus}

theorem claimRefusal_status
    (refused : claimRefusal request current terminal = some status) : status ≠ .accepted := by
  rintro rfl
  unfold claimRefusal at refused
  repeat' split at refused
  all_goals cases refused

theorem refused_of_answered {lease : Option ExecutionLeaseRecord}
    (same : answered store ⟨status, lease, false⟩ = .ok (next, receipt))
    (refused : status ≠ .accepted) : next = store ∧ receipt.status ≠ .accepted := by
  cases same
  exact ⟨rfl, refused⟩

variable {workers : WorkerDirectory}

theorem claimExecutionJob_eq_ok {required : Bool}
    (done : claimExecutionJob digest workers store request required = .ok (next, receipt)) :
    (next = store ∧ receipt.status ≠ .accepted) ∨ Granted store request next receipt := by
  rw [claimExecutionJob, bind_eq_ok] at done
  obtain ⟨_, valid, done⟩ := done
  split at done
  · obtain ⟨answer, replayed, same⟩ := map_eq_ok.mp done
    cases same
    exact .inl ⟨rfl, replayClaim_status replayed⟩
  · rename_i fresh
    unfold claimNew at done
    split at done
    · exact .inl (refused_of_answered done nofun)
    rw [bind_eq_ok] at done
    obtain ⟨_, _, done⟩ := done
    split at done
    · exact .inl (refused_of_answered done nofun)
    rw [bind_eq_ok] at done
    obtain ⟨_, _, done⟩ := done
    split at done
    · exact .inl (refused_of_answered done nofun)
    rw [bind_eq_ok] at done
    obtain ⟨_, loaded, done⟩ := done
    obtain ⟨rfl, checked⟩ := loadLease_eq_ok loaded
    cases row : store.leaseRow request.jobId with
    | none =>
      rw [row, claimAgainst] at done
      obtain ⟨answer, leases, terminals⟩ := grantLease_eq_ok done
      exact .inr ⟨valid, fresh, answer, leases, terminals, fun _ some_ => nomatch
        row.symm.trans some_⟩
    | some _ =>
      rw [row, claimAgainst] at done
      split at done
      · rename_i status refused
        exact .inl (refused_of_answered done (claimRefusal_status refused))
      · rename_i granted
        obtain ⟨answer, leases, terminals⟩ := grantLease_eq_ok done
        refine .inr ⟨valid, fresh, answer, leases, terminals, fun lease same => ?_⟩
        rw [some.inj (row.symm.trans same)] at granted
        exact ⟨checked lease same, claimRefusal_eq_none granted⟩

/-- A call names a lease by everything that fences it. -/
structure Names (lease : ExecutionLeaseRecord) (leaseId workerId workerInstanceId : String)
    (attempt : Nat) (fencingToken : String) : Prop where
  leaseId : leaseId = lease.leaseId
  workerId : workerId = lease.workerId
  workerInstanceId : workerInstanceId = lease.workerInstanceId
  attempt : attempt = lease.attempt
  fencingToken : fencingToken = lease.fencingToken

structure Extended (store : RegistryStore) (request : ExecutionLeaseRenewal)
    (next : RegistryStore) (receipt : ExecutionLeaseReceipt) (current : ExecutionLeaseRecord) :
    Prop where
  found : store.leaseRow request.jobId = some current
  running : store.terminalRow current.leaseId = none
  names : Names current request.leaseId request.workerId request.workerInstanceId request.attempt
    request.fencingToken
  prior : request.priorExpiresAt = current.expiresAt
  grows : current.expiresAt < request.expiresAt
  answer : receipt = ⟨.accepted, some { current with expiresAt := request.expiresAt }, false⟩
  leases : next.leases = store.leases.updateWhere (isRenewed request)
    (fun row => { row with expiresAt := request.expiresAt }) fun _ _ _ => ⟨id, id⟩
  terminals : next.terminals = store.terminals

variable {request : ExecutionLeaseRenewal}

theorem renewalRefusal_eq_none (granted : renewalRefusal store request current = none) :
    store.terminalRow current.leaseId = none ∧
      Names current request.leaseId request.workerId request.workerInstanceId request.attempt
        request.fencingToken ∧
      request.priorExpiresAt = current.expiresAt ∧ current.expiresAt < request.expiresAt := by
  simp only [renewalRefusal, ite_some_eq_none] at granted
  obtain ⟨running, _, named, _, prior, grows, _⟩ := granted
  simp only [not_or, not_not] at named
  obtain ⟨worker, workerInstance, lease, attempt, token⟩ := named
  exact ⟨not_isSome_iff_eq_none.mp running, ⟨lease, worker, workerInstance, attempt, token⟩,
    not_not.mp prior, not_le.mp grows⟩

theorem renewalRefusal_status (refused : renewalRefusal store request current = some status) :
    status ≠ .accepted := by
  rintro rfl
  unfold renewalRefusal at refused
  repeat' split at refused
  all_goals cases refused

theorem renewExecutionLease_eq_ok
    (done : renewExecutionLease digest workers store request = .ok (next, receipt)) :
    (next = store ∧ receipt.status ≠ .accepted) ∨
      ∃ current, Extended store request next receipt current := by
  rw [renewExecutionLease, bind_eq_ok] at done
  obtain ⟨_, _, done⟩ := done
  split at done
  · obtain ⟨_, replayed, same⟩ := map_eq_ok.mp done
    cases same
    exact .inl ⟨rfl, replayLease_status replayed⟩
  unfold renewNew at done
  split at done
  · exact .inl (refused_of_answered done nofun)
  rw [bind_eq_ok] at done
  obtain ⟨_, loaded, done⟩ := done
  obtain ⟨rfl, _⟩ := loadLease_eq_ok loaded
  cases row : store.leaseRow request.jobId with
  | none =>
    rw [row, renewAgainst] at done
    exact .inl (refused_of_answered done nofun)
  | some current =>
    rw [row, renewAgainst] at done
    split at done
    · rename_i status refused
      exact .inl (refused_of_answered done (renewalRefusal_status refused))
    · rename_i granted
      obtain ⟨running, names, prior, grows⟩ := renewalRefusal_eq_none granted
      rw [extendLease, okOr_bind_eq_ok] at done
      obtain ⟨_, _, same⟩ := done
      cases same
      exact .inr ⟨current, row, running, names, prior, grows, rfl, rfl, rfl⟩

structure Finished (digest : Digest) (store : RegistryStore)
    (request : ExecutionLeaseTerminalRequest) (next : RegistryStore)
    (current : ExecutionLeaseRecord) : Prop where
  found : store.leaseRow request.jobId = some current
  running : store.terminalRow request.leaseId = none
  names : Names current request.leaseId request.workerId request.workerInstanceId request.attempt
    request.fencingToken
  after : current.issuedAt ≤ request.terminalAt
  leases : next.leases = store.leases
  terminals : store.terminals.insert ⟨request, digest (.terminal request)⟩ = some next.terminals

theorem finishExecutionLease_eq_ok {request : ExecutionLeaseTerminalRequest} {inserted : Bool}
    (done : finishExecutionLease digest store request = .ok (next, inserted)) :
    (next = store ∧ inserted = false) ∨
      (inserted ∧ ∃ current, Finished digest store request next current) := by
  rw [finishExecutionLease, bind_eq_ok] at done
  obtain ⟨_, _, done⟩ := done
  split at done
  · rw [refuse_bind_eq_ok] at done
    cases done.2
    exact .inl ⟨rfl, rfl⟩
  · rename_i running
    simp only [finishNew, bind_eq_ok] at done
    obtain ⟨_, loaded, current, held, _, named, _, timely, _, stored, same⟩ := done
    obtain ⟨rfl, _⟩ := loadLease_eq_ok loaded
    cases same
    have fields := refuse_eq_ok.mp named
    simp only [not_or, not_not] at fields
    obtain ⟨lease, worker, workerInstance, attempt, token⟩ := fields
    exact .inr ⟨rfl, current, okOr_eq_ok.mp held, running, ⟨lease.symm, worker.symm,
      workerInstance.symm, attempt.symm, token.symm⟩, not_lt.mp (refuse_eq_ok.mp timely), rfl,
      okOr_eq_ok.mp stored⟩

structure Dispatched (store : RegistryStore) (request : DispatchResultRequest)
    (next : RegistryStore) (current : ExecutionLeaseRecord) : Prop where
  found : store.leaseRow request.jobId = some current
  names : Names current request.leaseId request.workerId request.workerInstanceId request.attempt
    request.fencingToken
  payloadDigest : request.payloadDigest = current.payloadDigest
  issuedAt : request.issuedAt = current.issuedAt
  leases : next.leases = store.leases
  terminals : next.terminals = store.terminals

variable {request : DispatchResultRequest}

theorem dispatchRefusal_eq_none (granted : dispatchRefusal store request current = none) :
    request.payloadDigest = current.payloadDigest ∧ request.issuedAt = current.issuedAt ∧
      Names current request.leaseId request.workerId request.workerInstanceId request.attempt
        request.fencingToken := by
  simp only [dispatchRefusal, ite_some_eq_none] at granted
  obtain ⟨_, _, _, payload, named, _⟩ := granted
  simp only [not_or, not_not] at named
  obtain ⟨lease, worker, workerInstance, attempt, token, issued⟩ := named
  exact ⟨not_not.mp payload, issued, lease, worker, workerInstance, attempt, token⟩

variable {receipt : DispatchResultReceipt}

theorem storeDispatchResult_eq_ok
    (done : storeDispatchResult digest store request current = .ok (next, receipt)) :
    next.leases = store.leases ∧ next.terminals = store.terminals := by
  simp only [storeDispatchResult, eq_ok] at done
  obtain ⟨_, authorizing, _, _, same⟩ := done
  cases same
  unfold authorizeDispatch at authorizing
  split at authorizing
  · simp only [eq_ok, insertDispatchAuthority] at authorizing
    obtain ⟨_, _, _, _, authorizing⟩ := authorizing
    split at authorizing
    · rw [refuse_bind_eq_ok] at authorizing
      cases authorizing.2
      exact ⟨rfl, rfl⟩
    · rw [okOr_bind_eq_ok] at authorizing
      obtain ⟨_, _, same⟩ := authorizing
      cases same
      exact ⟨rfl, rfl⟩
  · cases authorizing
    exact ⟨rfl, rfl⟩

theorem recordDispatchResult_eq_ok
    (done : recordDispatchResult digest workers store request = .ok (next, receipt)) :
    next = store ∨ ∃ current, Dispatched store request next current := by
  have still : ∀ {answer : DispatchResultReceipt},
      answered store answer = .ok (next, receipt) → next = store := by
    intro _ same
    exact (Prod.mk.inj (Except.ok.inj same)).1.symm
  unfold recordDispatchResult at done
  split at done
  · obtain ⟨_, _, same⟩ := map_eq_ok.mp done
    exact .inl (Prod.mk.inj same).1.symm
  simp only [eq_ok] at done
  obtain ⟨_, _, _, _, done⟩ := done
  unfold dispatchBy at done
  split at done
  · exact .inl (still done)
  split at done
  · exact .inl (still done)
  rw [bind_eq_ok] at done
  obtain ⟨_, loaded, done⟩ := done
  obtain ⟨rfl, _⟩ := loadLease_eq_ok loaded
  cases row : store.leaseRow request.jobId with
  | none =>
    rw [row, dispatchAgainst] at done
    exact .inl (still done)
  | some current =>
    rw [row, dispatchAgainst] at done
    split at done
    · exact .inl (still done)
    rename_i granted
    rw [bind_eq_ok] at done
    obtain ⟨_, _, done⟩ := done
    split at done
    · obtain ⟨payload, issued, names⟩ := dispatchRefusal_eq_none granted
      obtain ⟨leases, terminals⟩ := storeDispatchResult_eq_ok done
      exact .inr ⟨current, row, names, payload, issued, leases, terminals⟩
    · exact .inl (still done)

end ExecutionRegistry

/-! The tenures on their own. -/

theorem LeaseTenure.Precedes.trans {earlier middle later : LeaseTenure}
    (first : earlier.Precedes middle) (second : middle.Precedes later)
    (window : middle.lease.issuedAt ≤ middle.validUntil) : earlier.Precedes later where
  attempt := lt_trans first.attempt second.attempt
  token := lt_trans first.token second.token
  ended := first.ended.later (le_trans window second.ended.validUntil_le)

/-- Lease ids are used once, and the leases of one job follow each other. -/
structure Lined (tenures : List LeaseTenure) : Prop where
  distinct : tenures.Pairwise fun earlier later => earlier.lease.leaseId ≠ later.lease.leaseId
  ordered : tenures.Pairwise fun earlier later =>
    earlier.lease.jobId = later.lease.jobId → earlier.Precedes later
  windows : ∀ tenure ∈ tenures, tenure.lease.issuedAt ≤ tenure.validUntil

theorem currentTenure_concat (tenures : List LeaseTenure) (tenure : LeaseTenure) (job : String) :
    currentTenure (tenures ++ [tenure]) job =
      if tenure.lease.jobId = job then some tenure else currentTenure tenures job := by
  unfold currentTenure
  by_cases here : tenure.lease.jobId = job <;> simp [here]

variable {tenure : LeaseTenure} {tenures : List LeaseTenure}

theorem currentTenure_eq_some (found : currentTenure tenures job = some tenure) :
    ∃ before later, tenures = before ++ tenure :: later ∧ tenure.lease.jobId = job ∧
      ∀ other ∈ later, other.lease.jobId ≠ job := by
  obtain ⟨hit, front, back, split, misses⟩ := find?_eq_some_iff_append.mp found
  refine ⟨back.reverse, front.reverse, ?_, beq_iff_eq.mp hit, fun other member => ?_⟩
  · rw [← reverse_reverse tenures, split]
    simp
  · simpa using misses other (mem_reverse.mp member)

variable {before later : List LeaseTenure} {changed : LeaseTenure}

theorem currentTenure_replaced (same : changed.lease.jobId = tenure.lease.jobId)
    (newest : ∀ other ∈ later, other.lease.jobId ≠ tenure.lease.jobId) (job : String) :
    currentTenure (before ++ changed :: later) job = if tenure.lease.jobId = job then some changed
      else currentTenure (before ++ tenure :: later) job := by
  unfold currentTenure
  rw [reverse_append, reverse_append, reverse_cons, reverse_cons]
  by_cases here : tenure.lease.jobId = job
  · have misses : later.reverse.find? (·.lease.jobId == job) = none := by
      rw [find?_eq_none]
      intro other member hit
      exact newest other (mem_reverse.mp member) ((beq_iff_eq.mp hit).trans here.symm)
    simp [find?_append, misses, here, same]
  · simp [find?_append, here, same]

theorem pairwise_replaced {Item : Type} {Rel : Item → Item → Prop} {before later : List Item}
    {item other : Item} (ordered : (before ++ item :: later).Pairwise Rel)
    (left : ∀ early ∈ before, Rel early item → Rel early other)
    (right : ∀ late ∈ later, Rel item late → Rel other late) :
    (before ++ other :: later).Pairwise Rel := by
  simp only [pairwise_append, pairwise_cons, forall_mem_cons] at ordered ⊢
  obtain ⟨early, ⟨late, rest⟩, across⟩ := ordered
  exact ⟨early, ⟨fun next among => right next among (late next among), rest⟩, fun prior among =>
    ⟨left prior among (across prior among).1, (across prior among).2⟩⟩

namespace Lined

theorem nil : Lined [] := ⟨.nil, .nil, forall_mem_nil _⟩

theorem precedes_current (lined : Lined tenures) {current : LeaseTenure}
    (found : currentTenure tenures job = some current) (member : tenure ∈ tenures)
    (here : tenure.lease.jobId = job) : tenure = current ∨ tenure.Precedes current := by
  obtain ⟨_, _, rfl, same, newest⟩ := currentTenure_eq_some found
  rcases mem_append.mp member with early | late
  · have order := (pairwise_append.mp lined.ordered).2.2 tenure early current
      mem_cons_self
    exact .inr (order (here.trans same.symm))
  · rcases mem_cons.mp late with same | after
    · exact .inl same
    · exact absurd here (newest tenure after)

theorem granted (lined : Lined tenures)
    (fresh : ∀ tenure ∈ tenures, tenure.lease.leaseId ≠ lease.leaseId)
    (window : lease.issuedAt < lease.expiresAt)
    (follows : ∀ previous, currentTenure tenures lease.jobId = some previous →
      previous.Precedes ⟨lease, none⟩) : Lined (tenures ++ [⟨lease, none⟩]) := by
  constructor
  · exact pairwise_concat lined.distinct fresh
  · apply pairwise_concat lined.ordered
    intro tenure member here
    have hit : ∃ previous, currentTenure tenures lease.jobId = some previous := by
      apply isSome_iff_exists.mp
      rw [currentTenure, find?_isSome]
      exact ⟨tenure, mem_reverse.mpr member, beq_iff_eq.mpr here⟩
    obtain ⟨previous, found⟩ := hit
    rcases lined.precedes_current found member here with rfl | before
    · exact follows tenure found
    · obtain ⟨_, _, split, _⟩ := currentTenure_eq_some found
      exact before.trans (follows previous found)
        (lined.windows previous (split ▸ mem_append_cons_self))
  · exact forall_mem_concat lined.windows (le_of_lt window)

/-- A change of the newest tenure of a job that keeps what it is compared by. -/
theorem replaced (lined : Lined (before ++ tenure :: later))
    (newest : ∀ other ∈ later, other.lease.jobId ≠ tenure.lease.jobId)
    (same : { changed.lease with expiresAt := tenure.lease.expiresAt } = tenure.lease)
    (window : changed.lease.issuedAt ≤ changed.validUntil) :
    Lined (before ++ changed :: later) := by
  have job : changed.lease.jobId = tenure.lease.jobId := congrArg (·.jobId) same
  have id : changed.lease.leaseId = tenure.lease.leaseId := congrArg (·.leaseId) same
  have attempt : changed.lease.attempt = tenure.lease.attempt := congrArg (·.attempt) same
  have token : changed.lease.fencingToken = tenure.lease.fencingToken :=
    congrArg (·.fencingToken) same
  have issued : changed.lease.issuedAt = tenure.lease.issuedAt := congrArg (·.issuedAt) same
  refine ⟨pairwise_replaced lined.distinct ?_ ?_, pairwise_replaced lined.ordered ?_ ?_, ?_⟩
  · exact fun _ _ apart => id ▸ apart
  · exact fun _ _ apart => id ▸ apart
  · intro early _ order here
    have before := order (here.trans job)
    refine ⟨attempt ▸ before.attempt, ?_, issued ▸ before.ended⟩
    rw [LeaseTenure.token, LeaseTenure.token, token]
    exact before.token
  · intro other member _ here
    exact absurd (here.symm.trans job) (newest other member)
  · intro other member
    have kept := lined.windows other
    rw [mem_append, mem_cons] at member kept
    rcases member with early | rfl | late
    · exact kept (.inl early)
    · exact window
    · exact kept (.inr (.inr late))

end Lined

theorem Advances.lined {next : List LeaseTenure} (advances : Advances tenures next)
    (lined : Lined tenures) : Lined next := by
  cases advances with
  | still => exact lined
  | granted lease fresh window follows => exact lined.granted fresh window follows
  | extended _ _ lease expiresAt place newest grows =>
    subst place
    have window : lease.issuedAt ≤ lease.expiresAt :=
      lined.windows ⟨lease, none⟩ mem_append_cons_self
    exact lined.replaced newest rfl (le_trans window (le_of_lt grows))
  | finished _ _ lease _ _ place newest after =>
    subst place
    have window : lease.issuedAt ≤ lease.expiresAt :=
      lined.windows ⟨lease, none⟩ mem_append_cons_self
    exact lined.replaced newest rfl (le_min window after)

variable {next : RegistryStore} {digest : Digest}

namespace LeaseRegistry

def ending (row : LeaseTerminalRow) : ExecutionLeaseTerminalOutcome × String :=
  (row.request.outcome, row.request.terminalAt)

structure Fenced (registry : LeaseRegistry) : Prop where
  lined : Lined registry.tenures
  current : ∀ job, registry.store.leaseRow job = (registry.current job).map (·.lease)
  ended : ∀ tenure ∈ registry.tenures,
    tenure.terminal = (registry.store.terminalRow tenure.lease.leaseId).map ending
  known : ∀ row ∈ registry.store.terminals.rows,
    ∃ tenure ∈ registry.tenures, tenure.lease.leaseId = row.request.leaseId

theorem fenced_empty : empty.Fenced := ⟨.nil, fun _ => rfl, forall_mem_nil _, forall_mem_nil _⟩

variable {registry : LeaseRegistry} {receipt : ExecutionLeaseReceipt}

theorem Fenced.current_of_row (fenced : registry.Fenced)
    (found : registry.store.leaseRow job = some lease) :
    ∃ terminal, registry.current job = some ⟨lease, terminal⟩ ∧ lease.jobId = job ∧
      terminal = (registry.store.terminalRow lease.leaseId).map ending := by
  rw [fenced.current] at found
  obtain ⟨⟨held, terminal⟩, newest, rfl⟩ := map_eq_some_iff.mp found
  obtain ⟨_, _, split, here, _⟩ := currentTenure_eq_some newest
  exact ⟨terminal, newest, here, fenced.ended ⟨held, terminal⟩ (split ▸ mem_append_cons_self)⟩

/-- A lease without a terminal row is in its place among the tenures, and still runs. -/
theorem Fenced.place_of_row (fenced : registry.Fenced)
    (found : registry.store.leaseRow job = some lease)
    (running : registry.store.terminalRow lease.leaseId = none) :
    ∃ before later, registry.tenures = before ++ ⟨lease, none⟩ :: later ∧ lease.jobId = job ∧
      ∀ tenure ∈ later, tenure.lease.jobId ≠ lease.jobId := by
  obtain ⟨_, newest, here, stored⟩ := fenced.current_of_row found
  rw [running] at stored
  rw [stored] at newest
  obtain ⟨before, later, split, _, misses⟩ := currentTenure_eq_some newest
  exact ⟨before, later, split, here, fun tenure member => here ▸ misses tenure member⟩

theorem amend_place (distinct : (before ++ tenure :: later).Pairwise fun earlier later =>
      earlier.lease.leaseId ≠ later.lease.leaseId) (change : LeaseTenure → LeaseTenure) :
    amend (before ++ tenure :: later) tenure.lease.leaseId change =
      before ++ change tenure :: later := by
  rw [pairwise_append, pairwise_cons] at distinct
  have early : ∀ other ∈ before, other.lease.leaseId ≠ tenure.lease.leaseId :=
    fun other member => distinct.2.2 other member tenure mem_cons_self
  have late : ∀ other ∈ later, other.lease.leaseId ≠ tenure.lease.leaseId :=
    fun other member => Ne.symm (distinct.2.1.1 other member)
  have fixed : ∀ others : List LeaseTenure,
      (∀ other ∈ others, other.lease.leaseId ≠ tenure.lease.leaseId) →
      amend others tenure.lease.leaseId change = others := by
    intro others apart
    rw [amend]
    calc others.map _ = others.map id :=
          map_congr_left fun other member => if_neg (apart other member)
      _ = others := map_id others
  have beforeFixed := fixed before early
  have laterFixed := fixed later late
  rw [amend] at beforeFixed laterFixed ⊢
  rw [map_append, map_cons, beforeFixed, laterFixed, if_pos rfl]

variable {request : ExecutionLeaseClaim}

section
variable (fenced : registry.Fenced)
include fenced

theorem Fenced.gives_way (granted : Granted registry.store request next receipt)
    {previous : LeaseTenure} (newest : registry.current request.jobId = some previous) :
    validateLeaseRecord previous.lease = .ok () ∧
      GivesWay request previous.lease (registry.store.terminalRow previous.lease.leaseId) ∧
      previous.EndedBy request.issuedAt := by
  have row : registry.store.leaseRow request.jobId = some previous.lease := by
    rw [fenced.current, newest]
    rfl
  obtain ⟨valid, way⟩ := granted.clear previous.lease row
  obtain ⟨_, _, split, _⟩ := currentTenure_eq_some newest
  refine ⟨valid, way, ?_⟩
  rw [LeaseTenure.EndedBy, fenced.ended previous (split ▸ mem_append_cons_self)]
  cases terminal : registry.store.terminalRow previous.lease.leaseId with
  | none => exact way.expired terminal
  | some row => exact way.ended row terminal

theorem Fenced.claim_granted
    (fresh : ∀ tenure ∈ registry.tenures, tenure.lease.leaseId ≠ request.leaseId)
    (granted : Granted registry.store request next receipt) :
    Advances registry.tenures (registry.tenures ++ [⟨claimedLease request, none⟩]) ∧
      Fenced ⟨next, registry.tenures ++ [⟨claimedLease request, none⟩]⟩ := by
  obtain ⟨canonical, window⟩ := validateClaim_eq_ok granted.valid
  have follows : ∀ previous, currentTenure registry.tenures request.jobId = some previous →
      previous.Precedes ⟨claimedLease request, none⟩ := by
    intro _ newest
    obtain ⟨valid, way, ended⟩ := fenced.gives_way granted newest
    exact ⟨way.attempt, decimalValue_lt_of_not_less canonical (validateLeaseRecord_eq_ok valid)
      way.token way.another, ended⟩
  have advances : Advances registry.tenures (registry.tenures ++ [⟨claimedLease request, none⟩]) :=
    .granted (claimedLease request) fresh window follows
  refine ⟨advances, advances.lined fenced.lined, fun job => ?_, ?_, ?_⟩
  · have written : next.leaseRow job = if request.jobId = job then some (claimedLease request)
        else registry.store.leaseRow job :=
      find_upsert ExecutionLeaseRecord.jobId _ granted.leases rfl job
    rw [LeaseRegistry.current, currentTenure_concat, written]
    by_cases here : request.jobId = job
    · simp [claimedLease, here]
    · simpa [claimedLease, here, LeaseRegistry.current] using fenced.current job
  · intro tenure member
    have kept : next.terminalRow tenure.lease.leaseId =
        registry.store.terminalRow tenure.lease.leaseId := by
      rw [RegistryStore.terminalRow, RegistryStore.terminalRow, granted.terminals]
    rw [kept]
    rcases mem_append.mp member with old | new
    · exact fenced.ended tenure old
    · -- no terminal has the fresh lease id
      rw [mem_singleton.mp new]
      cases stored : registry.store.terminalRow (claimedLease request).leaseId with
      | none => rfl
      | some row =>
        obtain ⟨present, hit⟩ := find_eq_some stored
        obtain ⟨tenure, among, same⟩ := fenced.known row present
        exact absurd (same.trans (beq_iff_eq.mp hit)) (fresh tenure among)
  · rw [granted.terminals]
    intro row present
    obtain ⟨tenure, among, same⟩ := fenced.known row present
    exact ⟨tenure, mem_append_left _ among, same⟩

variable {held : ExecutionLeaseRecord}

theorem Fenced.amended (place : registry.tenures = before ++ ⟨held, none⟩ :: later)
    (newest : ∀ tenure ∈ later, tenure.lease.jobId ≠ held.jobId)
    (same : { changed.lease with expiresAt := held.expiresAt } = held)
    (lined : Lined (before ++ changed :: later)) {next : RegistryStore}
    (rows : ∀ job, next.leaseRow job =
      if held.jobId = job then some changed.lease else registry.store.leaseRow job)
    (ends : ∀ leaseId, (next.terminalRow leaseId).map ending =
      if held.leaseId = leaseId then changed.terminal
      else (registry.store.terminalRow leaseId).map ending)
    (known : ∀ row ∈ next.terminals.rows,
      row ∈ registry.store.terminals.rows ∨ row.request.leaseId = held.leaseId) :
    Fenced ⟨next, before ++ changed :: later⟩ := by
  have sameJob : changed.lease.jobId = held.jobId := congrArg (·.jobId) same
  have sameId : changed.lease.leaseId = held.leaseId := congrArg (·.leaseId) same
  have apart := fenced.lined.distinct
  rw [place, pairwise_append, pairwise_cons] at apart
  have among : ∀ tenure, tenure ∈ before ∨ tenure ∈ later → tenure ∈ registry.tenures := by
    intro tenure either
    rw [place, mem_append, mem_cons]
    exact either.imp_right Or.inr
  refine ⟨lined, fun job => ?_, fun tenure member => ?_, fun row present => ?_⟩
  · have replaced : currentTenure (before ++ changed :: later) job =
        if held.jobId = job then some changed else currentTenure registry.tenures job := by
      have later_ : ∀ other ∈ later, other.lease.jobId ≠ (LeaseTenure.mk held none).lease.jobId :=
        newest
      rw [place]
      exact currentTenure_replaced sameJob later_ job
    rw [LeaseRegistry.current, replaced, rows]
    by_cases here : held.jobId = job
    · simp [here]
    · simpa [here, LeaseRegistry.current] using fenced.current job
  · rw [ends]
    -- lease ids are distinct, so the ending of this lease is the only one that changed
    rw [mem_append, mem_cons] at member
    rcases member with early | rfl | late
    · rw [if_neg (Ne.symm (apart.2.2 tenure early _ mem_cons_self))]
      exact fenced.ended tenure (among tenure (.inl early))
    · rw [sameId, if_pos rfl]
    · rw [if_neg (apart.2.1.1 tenure late)]
      exact fenced.ended tenure (among tenure (.inr late))
  · rcases known row present with old | ended
    · obtain ⟨tenure, member, match_⟩ := fenced.known row old
      rw [place, mem_append, mem_cons] at member
      rcases member with early | rfl | late
      · exact ⟨tenure, mem_append_left _ early, match_⟩
      · exact ⟨changed, mem_append_cons_self, sameId.trans match_⟩
      · exact ⟨tenure, mem_append_right _ (mem_cons_of_mem _ late), match_⟩
    · exact ⟨changed, mem_append_cons_self, sameId.trans ended.symm⟩

theorem Fenced.renewed {request : ExecutionLeaseRenewal}
    (extended : Extended registry.store request next receipt held) :
    Advances registry.tenures (observeRenewal registry.tenures receipt) ∧
      Fenced ⟨next, observeRenewal registry.tenures receipt⟩ := by
  rcases fenced.place_of_row extended.found extended.running with
    ⟨before, later, place, here, newest⟩
  have distinct := fenced.lined.distinct
  rw [place] at distinct
  have observed : observeRenewal registry.tenures receipt =
      before ++ ⟨{ held with expiresAt := request.expiresAt }, none⟩ :: later := by
    rw [extended.answer, place]
    exact amend_place distinct
      fun tenure => { tenure with lease := { held with expiresAt := request.expiresAt } }
  have advances : Advances registry.tenures
      (before ++ ⟨{ held with expiresAt := request.expiresAt }, none⟩ :: later) :=
    .extended before later held request.expiresAt place newest extended.grows
  rw [observed]
  refine ⟨advances, fenced.amended place newest rfl (advances.lined fenced.lined)
    (fun job => ?_) (fun leaseId => ?_) fun row present => ?_⟩
  · have updated : next.leaseRow job = (registry.store.leaseRow job).map
        (Table.alter (isRenewed request) fun row => { row with expiresAt := request.expiresAt }) := by
      rw [RegistryStore.leaseRow, extended.leases]
      exact find_updateWhere _ _ _ _ _ fun _ => rfl
    rw [updated]
    by_cases own : held.jobId = job
    · have hit : isRenewed request held := by
        simp [isRenewed, here, extended.names.leaseId, extended.names.attempt,
          extended.names.fencingToken]
      have found : registry.store.leaseRow job = some held := here.symm.trans own ▸ extended.found
      rw [if_pos own, found, map_some, Table.alter, if_pos hit]
    · rw [if_neg own]
      cases other : registry.store.leaseRow job with
      | none => rfl
      | some row =>
        have job_ : row.jobId = job := beq_iff_eq.mp (find_eq_some other).2
        have miss : ¬ isRenewed request row := by
          simp [isRenewed, job_, ← here, Ne.symm own]
        rw [map_some, Table.alter, if_neg miss]
  · rw [RegistryStore.terminalRow, extended.terminals]
    by_cases own : held.leaseId = leaseId
    · rw [if_pos own, ← own]
      exact congrArg _ extended.running
    · rw [if_neg own]
      rfl
  · exact .inl (extended.terminals ▸ present)

theorem Fenced.finished {request : ExecutionLeaseTerminalRequest}
    (finished : Finished digest registry.store request next held) :
    Advances registry.tenures (observeFinish registry.tenures request true) ∧
      Fenced ⟨next, observeFinish registry.tenures request true⟩ := by
  have running : registry.store.terminalRow held.leaseId = none :=
    finished.names.leaseId ▸ finished.running
  obtain ⟨before, later, place, here, newest⟩ := fenced.place_of_row finished.found running
  have distinct := fenced.lined.distinct
  rw [place] at distinct
  have observed : observeFinish registry.tenures request true =
      before ++ ⟨held, some (request.outcome, request.terminalAt)⟩ :: later := by
    rw [observeFinish, if_pos rfl, place, finished.names.leaseId]
    exact amend_place distinct
      fun tenure => { tenure with terminal := some (request.outcome, request.terminalAt) }
  have advances : Advances registry.tenures
      (before ++ ⟨held, some (request.outcome, request.terminalAt)⟩ :: later) :=
    .finished before later held request.outcome request.terminalAt place newest finished.after
  rw [observed]
  refine ⟨advances, fenced.amended place newest rfl (advances.lined fenced.lined)
    (fun job => ?_) (fun leaseId => ?_) fun row present => ?_⟩
  · rw [RegistryStore.leaseRow, finished.leases]
    by_cases own : held.jobId = job
    · rw [if_pos own, ← own, here]
      exact finished.found
    · rw [if_neg own]
      rfl
  · rw [RegistryStore.terminalRow, find_insert finished.terminals]
    by_cases own : held.leaseId = leaseId
    · have before : (registry.store.terminals.find fun row => row.request.leaseId == leaseId) =
          none := own ▸ running
      rw [if_pos own, before, none_or, if_pos (by simp [finished.names.leaseId, own])]
      rfl
    · rw [if_neg own, if_neg (by simp [finished.names.leaseId, own]), or_none]
      rfl
  · rw [(insert_eq_some.mp finished.terminals).2, mem_append, mem_singleton]
      at present
    rcases present with old | rfl
    · exact .inl old
    · exact .inr finished.names.leaseId

end

theorem observe_refused (refused : receipt.status ≠ .accepted) :
    observeClaim tenures receipt = tenures ∧ observeRenewal tenures receipt = tenures := by
  unfold observeClaim observeRenewal
  constructor
  all_goals
    split
    · exact absurd ‹_› refused
    · rfl

theorem Fenced.step {event : RegistryEvent} (fresh : event.Fresh registry)
    (fenced : registry.Fenced) : Advances registry.tenures (registry.step digest event).tenures ∧
      (registry.step digest event).Fenced := by
  have still : Advances registry.tenures registry.tenures ∧ registry.Fenced := ⟨.still, fenced⟩
  -- What is refused or repeated leaves the registry; each grant has its own lemma.
  cases event with
  | claim _ _ _ =>
    simp only [LeaseRegistry.step]
    split
    · rename_i store receipt done
      rcases claimExecutionJob_eq_ok done with ⟨rfl, refused⟩ | granted
      · rw [(observe_refused refused).1]
        exact still
      · rw [granted.answer]
        exact fenced.claim_granted (fresh granted.fresh) granted
    · exact still
  | renew _ _ =>
    simp only [LeaseRegistry.step]
    split
    · rename_i store receipt done
      rcases renewExecutionLease_eq_ok done with ⟨rfl, refused⟩ | ⟨_, extended⟩
      · rw [(observe_refused refused).2]
        exact still
      · exact fenced.renewed extended
    · exact still
  | finish _ =>
    simp only [LeaseRegistry.step]
    split
    · rename_i store inserted done
      rcases finishExecutionLease_eq_ok done with ⟨rfl, rfl⟩ | ⟨rfl, _, finished⟩
      · exact still
      · exact fenced.finished finished
    · exact still
  | dispatch _ _ =>
    simp only [LeaseRegistry.step]
    split
    · rename_i store receipt done
      rcases recordDispatchResult_eq_ok done with rfl | ⟨_, dispatched⟩
      · exact still
      · refine ⟨.still, fenced.lined, fun job => ?_, fun tenure member => ?_, ?_⟩
        · rw [RegistryStore.leaseRow, dispatched.leases]
          exact fenced.current job
        · rw [RegistryStore.terminalRow, dispatched.terminals]
          exact fenced.ended tenure member
        · rw [dispatched.terminals]
          exact fenced.known
    · exact still

/-! What holds along a run. -/

/-- A later state of a tenure: the lease was at most extended, and an ending stays. -/
structure Continues (tenure later : LeaseTenure) : Prop where
  lease : { later.lease with expiresAt := tenure.lease.expiresAt } = tenure.lease
  expiresAt : tenure.lease.expiresAt ≤ later.lease.expiresAt
  terminal : ∀ ended, tenure.terminal = some ended → later.terminal = some ended

theorem Continues.refl (tenure : LeaseTenure) : Continues tenure tenure :=
  ⟨rfl, le_refl _, fun _ ended => ended⟩

theorem Continues.trans {first second third : LeaseTenure} (early : Continues first second)
    (late : Continues second third) : Continues first third where
  lease := by
    rw [← early.lease, ← late.lease]
  expiresAt := le_trans early.expiresAt late.expiresAt
  terminal ended known := late.terminal ended (early.terminal ended known)

variable {next : List LeaseTenure}

theorem continues_of_advances (advances : Advances tenures next) (member : tenure ∈ tenures) :
    ∃ later ∈ next, Continues tenure later := by
  have place : ∀ {before later : List LeaseTenure} {held changed : LeaseTenure},
      tenure ∈ before ++ held :: later → Continues held changed →
        ∃ kept ∈ before ++ changed :: later, Continues tenure kept := by
    intro _ _ _ changed among continues
    rw [mem_append, mem_cons] at among
    rcases among with early | rfl | late
    · exact ⟨tenure, mem_append_left _ early, .refl tenure⟩
    · exact ⟨changed, mem_append_cons_self, continues⟩
    · exact ⟨tenure, mem_append_right _ (mem_cons_of_mem _ late), .refl tenure⟩
  cases advances with
  | still => exact ⟨tenure, member, .refl tenure⟩
  | granted _ _ _ _ => exact ⟨tenure, mem_append_left _ member, .refl tenure⟩
  | extended _ _ _ _ split _ grows =>
    rw [split] at member
    exact place member ⟨rfl, le_of_lt grows, fun _ none_ => nomatch none_⟩
  | finished _ _ _ _ _ split _ _ =>
    rw [split] at member
    exact place member ⟨rfl, le_refl _, fun _ none_ => nomatch none_⟩

/-- A job whose newest lease was completed or cancelled gets no other one. -/
theorem final_of_advances (advances : Advances tenures next)
    (newest : currentTenure tenures job = some tenure) (final : tenure.isFinal) :
    currentTenure next job = some tenure := by
  have elsewhere : ∀ {before later : List LeaseTenure} {lease : ExecutionLeaseRecord}
      {changed : LeaseTenure}, tenures = before ++ ⟨lease, none⟩ :: later →
      (∀ other ∈ later, other.lease.jobId ≠ lease.jobId) → changed.lease.jobId = lease.jobId →
        currentTenure (before ++ changed :: later) job = some tenure := by
    intro before later lease _ split latest same
    have apart : ∀ other ∈ later, other.lease.jobId ≠ (LeaseTenure.mk lease none).lease.jobId :=
      latest
    have before_ : currentTenure (before ++ ⟨lease, none⟩ :: later) job =
        if lease.jobId = job then some ⟨lease, none⟩
        else currentTenure (before ++ ⟨lease, none⟩ :: later) job :=
      currentTenure_replaced rfl apart job
    rw [← split, newest] at before_
    by_cases here : lease.jobId = job
    · -- the running lease would be the final one
      rw [if_pos here] at before_
      rw [some.inj before_] at final
      cases final
    · rw [currentTenure_replaced same apart job, if_neg here, ← split]
      exact newest
  cases advances with
  | still => exact newest
  | granted lease _ _ follows =>
    rw [currentTenure_concat]
    by_cases here : lease.jobId = job
    · have ended := (follows tenure (here ▸ newest)).ended.isFinal
      exact nomatch final.symm.trans ended
    · rw [if_neg here]
      exact newest
  | extended _ _ _ _ split latest _ => exact elsewhere split latest rfl
  | finished _ _ _ _ _ split latest _ =>
    exact elsewhere split latest rfl

/-- Fencing in one state of the registry: of the leases granted so far, and of every call that
may come next. -/
structure Fencing (digest : Digest) (registry : LeaseRegistry) : Prop where
  increasing : registry.tenures.Pairwise fun earlier later =>
    earlier.lease.jobId = later.lease.jobId →
      earlier.lease.attempt < later.lease.attempt ∧ earlier.token < later.token
  apart : registry.tenures.Pairwise fun earlier later =>
    earlier.lease.jobId = later.lease.jobId → ∀ moment, moment < earlier.validUntil →
      moment < later.lease.issuedAt
  advances : ∀ event : RegistryEvent, event.Fresh registry →
    Advances registry.tenures (registry.step digest event).tenures
  claim : ∀ workers request required store lease replayed previous,
    claimExecutionJob digest workers registry.store request required =
      .ok (store, ⟨.accepted, lease, replayed⟩) →
    registry.current request.jobId = some previous →
      lease = some (claimedLease request) ∧ previous.EndedBy request.issuedAt
  renew : ∀ workers request, registry.step digest (.renew workers request) ≠ registry →
    ∃ tenure, registry.current request.jobId = some tenure ∧
      Names tenure.lease request.leaseId request.workerId request.workerInstanceId
        request.attempt request.fencingToken ∧ request.priorExpiresAt = tenure.lease.expiresAt
  finish : ∀ request, registry.step digest (.finish request) ≠ registry →
    ∃ tenure, registry.current request.jobId = some tenure ∧
      Names tenure.lease request.leaseId request.workerId request.workerInstanceId
        request.attempt request.fencingToken
  dispatch : ∀ workers request, registry.step digest (.dispatch workers request) ≠ registry →
    ∃ tenure, registry.current request.jobId = some tenure ∧
      Names tenure.lease request.leaseId request.workerId request.workerInstanceId
        request.attempt request.fencingToken ∧
      request.payloadDigest = tenure.lease.payloadDigest ∧
      request.issuedAt = tenure.lease.issuedAt

theorem Fenced.fencing (fenced : registry.Fenced) : Fencing digest registry where
  increasing := fenced.lined.ordered.imp fun order here => ⟨(order here).attempt, (order here).token⟩
  apart := fenced.lined.ordered.imp fun order here moment inside =>
    lt_of_lt_of_le inside (order here).ended.validUntil_le
  advances _ fresh := (fenced.step fresh).1
  claim workers request required store lease replayed previous done newest := by
    rcases claimExecutionJob_eq_ok done with ⟨_, refused⟩ | granted
    · exact absurd rfl refused
    · exact ⟨(ExecutionLeaseReceipt.mk.inj granted.answer).2.1,
        (fenced.gives_way granted newest).2.2⟩
  renew workers request changed := by
    simp only [LeaseRegistry.step] at changed
    split at changed
    · rename_i store receipt done
      rcases renewExecutionLease_eq_ok done with ⟨rfl, refused⟩ | ⟨_, extended⟩
      · rw [(observe_refused refused).2] at changed
        exact absurd rfl changed
      · obtain ⟨_, newest, _⟩ := fenced.current_of_row extended.found
        exact ⟨_, newest, extended.names, extended.prior⟩
    · exact absurd rfl changed
  finish request changed := by
    simp only [LeaseRegistry.step] at changed
    split at changed
    · rename_i store inserted done
      rcases finishExecutionLease_eq_ok done with ⟨rfl, rfl⟩ | ⟨rfl, _, finished⟩
      · exact absurd rfl changed
      · obtain ⟨_, newest, _⟩ := fenced.current_of_row finished.found
        exact ⟨_, newest, finished.names⟩
    · exact absurd rfl changed
  dispatch workers request changed := by
    simp only [LeaseRegistry.step] at changed
    split at changed
    · rename_i store receipt done
      rcases recordDispatchResult_eq_ok done with rfl | ⟨_, dispatched⟩
      · exact absurd rfl changed
      · obtain ⟨_, newest, _⟩ := fenced.current_of_row dispatched.found
        exact ⟨_, newest, dispatched.names, dispatched.payloadDigest, dispatched.issuedAt⟩
    · exact absurd rfl changed

/-- Every run in which claims ask for unused lease ids is fenced in the state it reaches, and
from there on: tenures only continue, and a completed or cancelled lease stays the last one
of its job. -/
theorem lease_fencing (digest : Digest) (events : List RegistryEvent)
    (fresh : Meets (step digest) (fun registry event => event.Fresh registry) empty events) :
    let registry := after (step digest) empty events
    Fencing digest registry ∧
    ∀ later, Meets (step digest) (fun registry event => event.Fresh registry) registry later →
      (∀ tenure ∈ registry.tenures,
        ∃ kept ∈ (after (step digest) registry later).tenures, Continues tenure kept) ∧
      ∀ job tenure, registry.current job = some tenure → tenure.isFinal = true →
        (after (step digest) registry later).current job = some tenure := by
  have fenced : (after (step digest) empty events).Fenced :=
    after_invariant_meets (step digest) (fun _ _ fresh fenced => (fenced.step fresh).2)
      fenced_empty events fresh
  refine ⟨fenced.fencing, fun later meets => ⟨fun tenure member => ?_,
    fun job tenure newest final => ?_⟩⟩
  · let Kept : LeaseRegistry → Prop := fun registry =>
      registry.Fenced ∧ ∃ kept ∈ registry.tenures, Continues tenure kept
    have kept : Kept (after (step digest) (after (step digest) empty events) later) := by
      apply after_invariant_meets (step digest) _ ⟨fenced, tenure, member, .refl tenure⟩ later
        meets
      rintro registry _ fresh ⟨fenced, kept, among, continues⟩
      obtain ⟨advances, next⟩ := fenced.step fresh
      obtain ⟨still, present, further⟩ := continues_of_advances advances among
      exact ⟨next, still, present, continues.trans further⟩
    exact kept.2
  · let Ended : LeaseRegistry → Prop := fun registry =>
      registry.Fenced ∧ registry.current job = some tenure
    have ended : Ended (after (step digest) (after (step digest) empty events) later) := by
      apply after_invariant_meets (step digest) _ ⟨fenced, newest⟩ later meets
      rintro _ _ fresh ⟨fenced, newest⟩
      obtain ⟨advances, next⟩ := fenced.step fresh
      exact ⟨next, final_of_advances advances newest final⟩
    exact ended.2

/-! A lease that is claimed, renewed and fails, and the lease that follows it. -/

def sampleWorkers : WorkerDirectory where
  loadWorker _ := .ok (some "wki_00000000000000000000000001")
  isCurrent _ _ := true
  placement _ _ := .ok none
  acceptsNewClaim _ := .ok true

def sampleClaim (last : Char) (attempt : Nat) (token issuedAt expiresAt : String) :
    ExecutionLeaseClaim where
  expiresAt := expiresAt
  fencingToken := token
  issuedAt := issuedAt
  jobId := "job_00000000000000000000000001"
  leaseId := "lse_0000000000000000000000000" ++ last.toString
  messageId := "xmsg_0000000000000000000000000" ++ last.toString
  payloadDigest := "sha256:aaaaaaaaaaaaaaaaaaaaaaaaaaaaaaaaaaaaaaaaaaaaaaaaaaaaaaaaaaaaaaaa"
  requestId := "req_0000000000000000000000000" ++ last.toString
  workerId := "wrk_00000000000000000000000001"
  workerInstanceId := "wki_00000000000000000000000001"
  attempt := attempt

def sampleEvents : List RegistryEvent :=
  [.claim sampleWorkers
      (sampleClaim '1' 1 "9" "2027-01-01T00:00:00.000Z" "2027-01-01T01:00:00.000Z") false,
    .renew sampleWorkers ⟨"2027-01-01T02:00:00.000Z", "9", "job_00000000000000000000000001",
      "lse_00000000000000000000000001", "xmsg_00000000000000000000000002",
      "2027-01-01T01:00:00.000Z", "req_00000000000000000000000002", "2027-01-01T00:30:00.000Z",
      "wrk_00000000000000000000000001", "wki_00000000000000000000000001", 1⟩,
    .finish ⟨"job_00000000000000000000000001", "lse_00000000000000000000000001",
      "wrk_00000000000000000000000001", "wki_00000000000000000000000001", 1, "9", .failed,
      "2027-01-01T00:40:00.000Z", "req_00000000000000000000000003"⟩,
    .claim sampleWorkers
      (sampleClaim '4' 2 "10" "2027-01-01T00:45:00.000Z" "2027-01-01T01:45:00.000Z") false]

/-- The failed lease is followed before it would have expired, and the windows stay apart. -/
theorem lease_fencing_failed_lease_followed :
    let registry := after (step fun _ => "digest") empty sampleEvents
    registry.tenures.map (fun tenure => (tenure.lease.attempt, tenure.token, tenure.validUntil)) =
      [(1, 9, "2027-01-01T00:40:00.000Z"), (2, 10, "2027-01-01T01:45:00.000Z")] ∧
    Fencing (fun _ => "digest") registry :=
  ⟨by decide +kernel, (lease_fencing (fun _ => "digest") sampleEvents (by decide +kernel)).1⟩

end LeaseRegistry

end WinWinCode.Storage
