import WinWinCode.Session.InteractionRouting

/-!
What the fingerprints of requests tell apart. Ids, decisions and instants are written
with their quotes escaped, so their texts split; the reason of a cancellation is written
bare, but what follows it has one length in all valid requests of one id.
-/

namespace WinWinCode.Session

open Fallible Text Formats List

variable (printable : Char → Bool)

theorem debugId_split (name : String) : Splits (debugId printable name) := by
  intro _ _ _ _ same
  simp only [debugId, append_assoc, cons_append, append_cancel_left_eq,
    List.cons.injEq, true_and, nil_append] at same
  obtain ⟨rfl, rests⟩ := quoted_split printable same
  exact ⟨rfl, (List.cons.inj rests).2⟩

theorem variant_split (variant name : String) :
    Splits fun id => debugVariant variant (debugId printable name id) := by
  intro _ _ _ _ same
  simp only [debugVariant, append_assoc, cons_append, append_cancel_left_eq,
    List.cons.injEq, true_and, nil_append] at same
  obtain ⟨rfl, rests⟩ := debugId_split printable name same
  exact ⟨rfl, (List.cons.inj rests).2⟩

theorem variant_ne {left right : String} {first second rest more : List Char} (length : Nat)
    (left_long : length ≤ left.toList.length) (right_long : length ≤ right.toList.length)
    (differ : left.toList.take length ≠ right.toList.take length) :
    debugVariant left first ++ rest ≠ debugVariant right second ++ more := by
  unfold debugVariant
  rw [append_assoc, append_assoc]
  exact append_ne length left_long right_long differ

theorem debugActor_split : Splits (debugActor printable) := by
  intro left right _ _ same
  cases left <;> cases right
  case user.user | serviceAccount.serviceAccount | system.system =>
      obtain ⟨rfl, rests⟩ := variant_split printable _ _ same
      exact ⟨rfl, rests⟩
  all_goals exact absurd same (variant_ne 2 (by decide) (by decide) (by decide))

theorem debugActor_ne_debugSubject (actor : AuthenticatedActor) (subject : InteractionSubject)
    (rest more : List Char) :
    debugActor printable actor ++ rest ≠ debugSubject printable subject ++ more := by
  cases actor <;> cases subject
  case user.userInput id input =>
      -- the names agree up to the bracket after the shorter one
      have apart (rest more : List Char) : "User(".toList ++ rest ≠ "UserI".toList ++ more :=
        append_ne 5 (by decide) (by decide) (by decide)
      intro same
      simp only [debugActor, debugSubject, debugVariant, append_assoc] at same
      exact apart _ _ same
  all_goals exact variant_ne 1 (by decide) (by decide) (by decide)

theorem digestStruct_split (name field : String) :
    Splits fun digest => debugStruct name [(field, debugId printable "Sha256Digest" digest)] := by
  intro _ _ _ _ same
  simp only [debugStruct, debugFields, append_assoc, append_cancel_left_eq] at same
  obtain ⟨rfl, rests⟩ := debugId_split printable _ same
  exact ⟨rfl, append_cancel_left rests⟩

theorem debugDecision_split : Splits (debugDecision printable) := by
  intro left right _ _ same
  cases left <;> cases right
  case userInput.userInput | approve.approve | reject.reject =>
      obtain ⟨rfl, rests⟩ := digestStruct_split printable _ _ same
      exact ⟨rfl, rests⟩
  case resolveAttention.resolveAttention =>
      simp only [debugDecision, debugStruct, debugFields, append_assoc,
        append_cancel_left_eq] at same
      obtain ⟨rfl, tails⟩ := quoted_split printable same
      simp only [append_cancel_left_eq] at tails
      obtain ⟨rfl, rests⟩ := debugId_split printable _ tails
      exact ⟨rfl, append_cancel_left rests⟩
  all_goals
    simp only [debugDecision, debugStruct, append_assoc] at same
    exact absurd same (append_ne 3 (by decide) (by decide) (by decide))

theorem responseFingerprint_injective {left right : InteractionResponse}
    (actor : left.actor = right.actor) (subject : left.subject = right.subject)
    (binding : left.binding = right.binding)
    (same : responseFingerprint printable left = responseFingerprint printable right) :
    left = right := by
  simp only [responseFingerprint, actor, subject, binding, append_cancel_left_eq,
    List.cons.injEq, true_and] at same
  obtain ⟨_, tails⟩ := debugDecision_split printable same
  obtain ⟨_, ends⟩ := debugId_split printable _ (List.cons.inj tails).2
  have requestId : left.requestId = right.requestId := String.toList_inj.mp (List.cons.inj ends).2
  cases left
  cases right
  simp_all

theorem responseFingerprint_ne_expiryFingerprint (response : InteractionResponse)
    (expiry : InteractionExpiry) :
    responseFingerprint printable response ≠ expiryFingerprint printable expiry :=
  debugActor_ne_debugSubject printable _ _ _ _

theorem expiryFingerprint_injective {left right : InteractionExpiry}
    (subject : left.subject = right.subject) (binding : left.binding = right.binding)
    (same : expiryFingerprint printable left = expiryFingerprint printable right) :
    left = right := by
  simp only [expiryFingerprint, subject, binding, append_cancel_left_eq, List.cons.injEq,
    true_and] at same
  obtain ⟨_, ends⟩ := debugId_split printable _ same
  have requestId : left.requestId = right.requestId := String.toList_inj.mp (List.cons.inj ends).2
  cases left
  cases right
  simp_all

variable {symbol : Char} {symbols shape : List Char}

theorem mem_hasShape (shaped : hasShape shape symbols) (member : symbol ∈ symbols) :
    symbol.isDigit ∨ symbol ∈ shape := by
  induction shape generalizing symbols with
  | nil =>
    cases symbols with
    | nil => cases member
    | cons _ _ => cases shaped
  | cons mark _ ih =>
    cases symbols with
    | nil => cases member
    | cons _ _ =>
      rw [hasShape, Bool.and_eq_true] at shaped
      rcases mem_cons.mp member with rfl | later
      · split at shaped
        · exact .inl shaped.1
        · exact .inr (mem_cons.mpr (.inl (eq_of_beq shaped.1)))
      · exact (ih shaped.2 later).imp_right (mem_cons_of_mem mark)

theorem length_hasShape (shaped : hasShape shape symbols) : symbols.length = shape.length := by
  induction shape generalizing symbols with
  | nil =>
    cases symbols with
    | nil => rfl
    | cons _ _ => cases shaped
  | cons _ _ ih =>
    cases symbols with
    | nil => cases shaped
    | cons _ _ =>
      rw [hasShape, Bool.and_eq_true] at shaped
      rw [length_cons, length_cons, ih shaped.2]

/-- A printed ASCII character that needs no escape. -/
def isBare (symbol : Char) : Bool :=
  decide (32 ≤ symbol.toNat ∧ symbol.toNat ≤ 126) && symbol != '\\' && symbol != '\x22'

theorem escape_of_isBare (bare : isBare symbol) : escape printable symbol = [symbol] := by
  simp only [isBare, Bool.and_eq_true, decide_eq_true_eq, bne_iff_ne] at bare
  obtain ⟨⟨range, backslash⟩, quote⟩ := bare
  have apart {other : Char} (low : other.toNat < 32) : symbol ≠ other := by
    rintro rfl
    omega
  have unlisted : shortEscapes.lookup symbol = none := by
    rw [lookup_eq_none_iff]
    intro _ member
    simp only [shortEscapes, mem_cons, not_mem_nil, or_false] at member
    rcases member with rfl | rfl | rfl | rfl | rfl | rfl
    · simpa using apart (by decide)
    · simpa using apart (by decide)
    · simpa using apart (by decide)
    · simpa using apart (by decide)
    · simpa using backslash
    · simpa using quote
  have plain : isPlain printable symbol := by
    have ascii : symbol.toNat < 128 := by omega
    simp [isPlain, ascii, range]
  rw [escape, unlisted]
  simp [plain]

theorem isBare_of_isDigit (digit : symbol.isDigit) : isBare symbol = true := by
  have bounds : 48 ≤ symbol.toNat ∧ symbol.toNat ≤ 57 := by
    simpa [Char.isDigit, UInt32.le_iff_toNat_le] using digit
  have backslash : symbol ≠ '\\' := by
    rintro rfl
    exact absurd digit (by decide)
  have quote : symbol ≠ '\x22' := by
    rintro rfl
    exact absurd digit (by decide)
  simp only [isBare, Bool.and_eq_true, decide_eq_true_eq, bne_iff_ne]
  exact ⟨⟨by omega, backslash⟩, quote⟩

theorem length_debugInstant {instant : String} (canonical : isCanonicalInstant instant) :
    (debugInstant printable instant).length = 35 := by
  have plain : ∀ symbol ∈ instant.toList, escape printable symbol = [symbol] := by
    intro symbol member
    apply escape_of_isBare
    rcases mem_hasShape canonical member with digit | mark
    · exact isBare_of_isDigit digit
    · have marks : "0000-00-00T00:00:00.000Z".toList.all isBare := by decide
      exact all_eq_true.mp marks symbol mark
  have length : instant.toList.length = 24 := length_hasShape canonical
  rw [debugInstant, debugId, quoted_of_plain printable plain]
  simp [length]

/-- Valid requests of one id to cancel one session are told apart by their fingerprints:
the reason is bare, but what follows it has one length. -/
theorem cancellationFingerprint_injective {left right : SessionCancellationRequest}
    (session : left.productSessionId = right.productSessionId)
    (requestId : left.requestId = right.requestId)
    (left_canonical : isCanonicalInstant left.requestedAt)
    (right_canonical : isCanonicalInstant right.requestedAt)
    (same : cancellationFingerprint printable left = cancellationFingerprint printable right) :
    left = right := by
  obtain ⟨_, afterActor⟩ := debugActor_split printable same
  rw [session] at afterActor
  have afterSession := (List.cons.inj (append_cancel_left (List.cons.inj afterActor).2)).2
  have numbers : Splits fun number => Nat.toDigits 10 number ++ ['|'] :=
    digits_split (by decide) (by decide) (by decide)
  obtain ⟨revision, afterRevision⟩ : left.expectedRevision = right.expectedRevision ∧ _ = _ :=
    numbers (by simpa [debugNat] using afterSession)
  have tail : (debugInstant printable left.requestedAt).length =
      (debugInstant printable right.requestedAt).length := by
    rw [length_debugInstant printable left_canonical, length_debugInstant printable right_canonical]
  obtain ⟨reason, ends⟩ := append_inj' afterRevision
    (by simp only [length_cons, length_append, tail, requestId])
  obtain ⟨_, _⟩ := debugId_split printable _ (List.cons.inj ends).2
  have reasons : left.reason = right.reason := String.toList_inj.mp reason
  cases left
  cases right
  simp_all

end WinWinCode.Session
