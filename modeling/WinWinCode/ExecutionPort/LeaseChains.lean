import WinWinCode.ExecutionPort.ExecutionIdentity
import WinWinCode.Foundation.Runs

/-!
Chains of lease renewals. A holder applies each renewal it is offered exactly when
`valid_lease_renewal` accepts it at that instant. Whatever is offered, every lease of
the chain matches the leases that follow it, and no lease of another authority does.
-/

namespace WinWinCode.ExecutionPort

open Storage (ExecutionLeaseStamp)

/-- The lease is issued before it expires, at canonical instants. -/
structure ValidWindow (lease : ExecutionLeaseStamp) : Prop where
  issued : canonicalInstant lease.issuedAt = true
  expires : canonicalInstant lease.expiresAt = true
  opens : lease.issuedAt < lease.expiresAt

structure RenewalOffer where
  renewal : LeaseRenewMessage
  now : String

def applyOffer (lease : ExecutionLeaseStamp) (offer : RenewalOffer) : ExecutionLeaseStamp :=
  if validLeaseRenewal lease offer.renewal offer.now then offer.renewal.lease else lease

/-- Everything a stamp says but its expiry. -/
def stampAuthority (lease : ExecutionLeaseStamp) :
    String × Int × String × String × String × String × String :=
  (lease.jobId, lease.attempt, lease.workerId, lease.workerInstanceId, lease.leaseId,
    lease.fencingToken, lease.issuedAt)

variable {first lease : ExecutionLeaseStamp}

theorem ValidWindow.matches_self (window : ValidWindow lease) :
    retainedLeaseMatchesCurrent lease lease = true :=
  retainedLease_iff.mpr
    ⟨window.issued, window.expires, window.expires, window.opens, le_refl _, rfl⟩

theorem stampAuthority_of_matches (matched : retainedLeaseMatchesCurrent first lease) :
    stampAuthority first = stampAuthority lease := by
  obtain ⟨_, _, _, _, _, same⟩ := retainedLease_iff.mp matched
  rw [← same]
  rfl

/-- An accepted renewal extends the lease, so what the lease matched it still matches. -/
theorem matches_applyOffer (matched : retainedLeaseMatchesCurrent first lease)
    (offer : RenewalOffer) : retainedLeaseMatchesCurrent first (applyOffer lease offer) = true := by
  unfold applyOffer
  split
  · rename_i valid
    obtain ⟨authority, extended⟩ := lease_of_validLeaseRenewal valid
    obtain ⟨issued, expires, _, opens, before, same⟩ := retainedLease_iff.mp matched
    rw [retainedLease_iff]
    refine ⟨issued, expires, (canonical_of_validLeaseRenewal valid).1, opens,
      le_trans before extended, ?_⟩
    rw [authority, ← same]
  · exact matched

theorem lease_chain (initial : ExecutionLeaseStamp) (window : ValidWindow initial)
    (early late : List RenewalOffer) : let earlier := Runs.after applyOffer initial early
    let current := Runs.after applyOffer initial (early ++ late)
    current = expiring earlier current.expiresAt ∧ earlier.expiresAt ≤ current.expiresAt ∧
    (∀ renewal now, current.expiresAt ≤ now → validLeaseRenewal current renewal now = false) ∧
    (∀ renewal now, renewal.lease = current → applyOffer current ⟨renewal, now⟩ = current) ∧
    retainedLeaseMatchesCurrent earlier current = true ∧
    ∀ other, stampAuthority other ≠ stampAuthority initial →
      retainedLeaseMatchesCurrent other current = false ∧
        retainedLeaseMatchesCurrent current other = false := by
  intro earlier current
  have keeps : ∀ from_ lease offer, retainedLeaseMatchesCurrent from_ lease = true →
      retainedLeaseMatchesCurrent from_ (applyOffer lease offer) = true :=
    fun _ _ offer matched => matches_applyOffer matched offer
  have begun : retainedLeaseMatchesCurrent initial earlier = true :=
    Runs.after_invariant applyOffer (keeps initial) window.matches_self early
  have stands : retainedLeaseMatchesCurrent earlier earlier = true :=
    retainedLease_of_renewals begun begun (le_refl _)
  -- The run is split where the earlier lease stands; later offers keep what matches it.
  have follows : retainedLeaseMatchesCurrent earlier current := by
    change retainedLeaseMatchesCurrent earlier (Runs.after applyOffer initial (early ++ late)) = true
    rw [Runs.after_append]
    exact Runs.after_invariant applyOffer (keeps earlier) stands late
  have chained : stampAuthority current = stampAuthority initial :=
    (stampAuthority_of_matches follows).symm.trans (stampAuthority_of_matches begun).symm
  obtain ⟨_, _, _, _, extended, same⟩ := retainedLease_iff.mp follows
  refine ⟨same.symm, extended, ?_, ?_, follows, ?_⟩
  · intro _ _ expired
    by_contra accepted
    rw [Bool.not_eq_false] at accepted
    exact absurd (canonical_of_validLeaseRenewal accepted).2 (not_lt_of_ge expired)
  · intro _ _ held
    unfold applyOffer
    split
    · exact held
    · rfl
  · intro _ apart
    constructor
    · by_contra matched
      rw [Bool.not_eq_false] at matched
      exact apart ((stampAuthority_of_matches matched).trans chained)
    · by_contra matched
      rw [Bool.not_eq_false] at matched
      exact apart ((stampAuthority_of_matches matched).symm.trans chained)

def sampleOffer : RenewalOffer := ⟨sampleRenewal, "2026-01-01T00:06:00.000Z"⟩

theorem lease_chain_one_renewal : Runs.after applyOffer firstLease [sampleOffer] = renewedLease ∧
      retainedLeaseMatchesCurrent firstLease
        (Runs.after applyOffer firstLease ([] ++ [sampleOffer])) = true := by
  have window : ValidWindow firstLease := ⟨by decide +kernel, by decide +kernel, by decide +kernel⟩
  exact ⟨by decide +kernel, (lease_chain firstLease window [] [sampleOffer]).2.2.2.2.1⟩

end WinWinCode.ExecutionPort
