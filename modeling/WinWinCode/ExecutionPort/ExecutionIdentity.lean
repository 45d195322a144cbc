import WinWinCode.Foundation.Decimals
import WinWinCode.Foundation.Fallible
import WinWinCode.Storage.ExecutionValues

/-!
The identity of an execution on the wire, from `execution_identity.rs`. A lease
stamp keeps its authority under renewal: only the expiry moves, and only forward.
Instants are texts of one format, so they compare as texts.
-/

namespace WinWinCode.ExecutionPort

open Text Decimals
open Storage (ExecutionLeaseStamp SessionIdentity)

def isLeapYear (year : Nat) : Bool :=
  (year % 4 == 0 && year % 100 != 0) || year % 400 == 0

def daysInMonth (year month : Nat) : Nat :=
  if month == 2 then (if isLeapYear year then 29 else 28)
  else if month == 4 || month == 6 || month == 9 || month == 11 then 30
  else 31

/-- `YYYY-MM-DDThh:mm:ss.mmmZ` on a day of the calendar. -/
def canonicalInstant (instant : String) : Bool :=
  let symbols := instant.toList
  let number := fun first last => decimalValue ((symbols.drop first).take (last - first))
  isCanonicalInstant instant &&
    decide (1 ≤ number 5 7 ∧ number 5 7 ≤ 12) &&
    decide (1 ≤ number 8 10 ∧ number 8 10 ≤ daysInMonth (number 0 4) (number 5 7)) &&
    decide (number 11 13 ≤ 23) && decide (number 14 16 ≤ 59) && decide (number 17 19 ≤ 59)

/-- Whether a frame retained under one stamp belongs to the lease as it is now. -/
def retainedLeaseMatchesCurrent (retained current : ExecutionLeaseStamp) : Bool :=
  canonicalInstant retained.issuedAt && canonicalInstant retained.expiresAt &&
    canonicalInstant current.expiresAt && decide (retained.issuedAt < retained.expiresAt) &&
    decide (retained.expiresAt ≤ current.expiresAt) &&
    { retained with expiresAt := current.expiresAt } == current

structure LeaseRenewMessage where
  lease : ExecutionLeaseStamp
  (messageId priorExpiresAt requestId sentAt : String)

def leaseRenewalRejection (current : ExecutionLeaseStamp) (renewal : LeaseRenewMessage)
    (now : String) : Option String :=
  if !([current.issuedAt, current.expiresAt, renewal.priorExpiresAt, renewal.lease.expiresAt,
      renewal.sentAt, now].all canonicalInstant) then some "noncanonical_time"
  else if { current with expiresAt := renewal.lease.expiresAt } ≠ renewal.lease then
    some "authority_mismatch"
  else if renewal.sentAt < current.issuedAt then some "sent_before_issued"
  else if now < renewal.sentAt then some "sent_in_future"
  else if renewal.priorExpiresAt ≤ renewal.sentAt then some "sent_after_prior_expiry"
  else if renewal.lease.expiresAt ≤ renewal.priorExpiresAt then some "nonextending_expiry"
  else if current.expiresAt ≤ now then some "consumed_after_expiry"
  else if current.expiresAt ≠ renewal.priorExpiresAt ∧ current ≠ renewal.lease then
    some "prior_expiry_mismatch"
  else none

def validLeaseRenewal (current : ExecutionLeaseStamp) (renewal : LeaseRenewMessage)
    (now : String) : Bool :=
  (leaseRenewalRejection current renewal now).isNone

abbrev expiring (lease : ExecutionLeaseStamp) (expiresAt : String) : ExecutionLeaseStamp :=
  { lease with expiresAt := expiresAt }

variable {current : ExecutionLeaseStamp} {renewal : LeaseRenewMessage}

/-- What a valid renewal does: it moves the expiry of the stamp, forward, and nothing else. -/
theorem lease_of_validLeaseRenewal {now : String} (valid : validLeaseRenewal current renewal now) :
    renewal.lease = expiring current renewal.lease.expiresAt ∧
      current.expiresAt ≤ renewal.lease.expiresAt := by
  simp only [validLeaseRenewal, leaseRenewalRejection, Option.isNone_iff_eq_none,
    Fallible.ite_some_eq_none, ne_eq, not_not, not_lt, not_le, and_true] at valid
  obtain ⟨_, authority, _, _, _, extending, _, prior⟩ := valid
  refine ⟨authority.symm, ?_⟩
  by_cases same : current.expiresAt = renewal.priorExpiresAt
  · rw [same]
    exact le_of_lt extending
  · rw [← not_not.mp fun different => prior ⟨same, different⟩]

theorem canonical_of_validLeaseRenewal {now : String}
    (valid : validLeaseRenewal current renewal now) :
    canonicalInstant renewal.lease.expiresAt ∧ now < current.expiresAt := by
  simp only [validLeaseRenewal, leaseRenewalRejection, Option.isNone_iff_eq_none,
    Fallible.ite_some_eq_none, Bool.not_eq_true', Bool.not_eq_false, List.all_eq_true,
    not_le] at valid
  obtain ⟨canonical, _, _, _, _, _, unexpired, _⟩ := valid
  exact ⟨canonical _ (by simp), unexpired⟩

variable {retained : ExecutionLeaseStamp}

theorem retainedLease_iff : retainedLeaseMatchesCurrent retained current ↔
      canonicalInstant retained.issuedAt ∧ canonicalInstant retained.expiresAt ∧
      canonicalInstant current.expiresAt ∧ retained.issuedAt < retained.expiresAt ∧
      retained.expiresAt ≤ current.expiresAt ∧ expiring retained current.expiresAt = current := by
  simp only [retainedLeaseMatchesCurrent, Bool.and_eq_true, decide_eq_true_eq, beq_iff_eq,
    and_assoc]

theorem retainedLease_expiry (matched : retainedLeaseMatchesCurrent retained current) :
    retained.expiresAt ≤ current.expiresAt :=
  (retainedLease_iff.mp matched).2.2.2.2.1

theorem retainedLease_of_renewals {first early late : ExecutionLeaseStamp}
    (early_renews : retainedLeaseMatchesCurrent first early)
    (late_renews : retainedLeaseMatchesCurrent first late)
    (order : early.expiresAt ≤ late.expiresAt) : retainedLeaseMatchesCurrent early late = true := by
  obtain ⟨issued, _, early_canonical, valid, extended, early_eq⟩ :=
    retainedLease_iff.mp early_renews
  obtain ⟨_, _, late_canonical, _, _, late_eq⟩ := retainedLease_iff.mp late_renews
  have early_issued : early.issuedAt = first.issuedAt := by rw [← early_eq]
  rw [retainedLease_iff, early_issued]
  refine ⟨issued, early_canonical, late_canonical, lt_of_lt_of_le valid extended, order, ?_⟩
  rw [← early_eq]
  exact late_eq

/-! A lease, its renewal and a session. -/

def firstLease : ExecutionLeaseStamp :=
  ⟨"job", "lease", "worker", "instance", 1, "1", "2026-01-01T00:00:00.000Z",
    "2026-01-01T00:10:00.000Z"⟩

def renewedLease : ExecutionLeaseStamp := expiring firstLease "2026-01-01T00:20:00.000Z"

def sampleRenewal : LeaseRenewMessage :=
  ⟨renewedLease, "renewal", firstLease.expiresAt, "request", "2026-01-01T00:05:00.000Z"⟩

def sampleSession : SessionIdentity := ⟨"thread", "product", "session", none⟩

end WinWinCode.ExecutionPort
