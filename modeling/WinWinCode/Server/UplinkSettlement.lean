import WinWinCode.Server.ExchangeRules

/-!
The uplink side of every sequence of device requests. The ledger of settled
frames has no gap between the cursor a node enrolled with and its stored cursor,
rows keep their identity for good, and the effect of a command is not invoked
again once a frame that carries its idempotency key was completed. The facts
hold whichever storage step or effect fails, since they are proved of the state
every answer and every failure leaves behind.
-/

namespace WinWinCode.Server

open Exchange Fallible Programs Storage Tables Text ClientRegistry List ExchangeTables Runs

variable {Body Rest : Type}

abbrev OnTables (keeps : ExchangeTables → List ExchangeFact → Prop) : Assertion Rest :=
  fun store facts => keeps store.toExchangeTables facts

theorem judged_supersede {keeps : ExchangeTables → List ExchangeFact → Prop} (node : String)
    (envelope : ClientToServerEnvelope Body) (now : String) :
    Preserves (OnTables keeps) (supersedeInstance node envelope now : Exchange Rest Unit) := by
  apply preserves_supersede
  intro _ _ _ _ _ _ start _ found _ done
  rw [(register_known (nodeRow_self found) done).2]
  exact start

/-- The invariant: `enrolled` gives each node's cursor at the start, `origin` the
tables whose rows must still be there. -/
structure Ledger (origin : ExchangeTables) (enrolled : String → Nat) (tables : ExchangeTables)
    (facts : List ExchangeFact) : Prop where
  grown : origin.Extends tables
  reached : ∀ node, enrolled node ≤ tables.uplinkCursor node
  complete : ∀ node sequence, enrolled node < sequence → sequence ≤ tables.uplinkCursor node →
    ∃ row ∈ tables.frames.rows, row.clientNodeId = node ∧ row.sequence = sequence ∧
      row.completed = true
  keyed : ∀ node key, .completed node (some key) ∈ facts →
    ∃ row ∈ tables.commands.rows, row.clientNodeId = node ∧ row.idempotencyKey = key ∧
      row.completed = true
  ordered : facts.Pairwise fun earlier later => ∀ node key,
    earlier = .completed node (some key) → later ≠ .effect node (some key)

def Positioned (node : String) (position : Nat) (tables : ExchangeTables) : Prop :=
  ∃ row, tables.cursorRow node = some row ∧ row.clientToServerAckSequence = position

def Keyed (node : String) (commandKey : Option String) (completed : Bool)
    (tables : ExchangeTables) : Prop :=
  ∀ key, commandKey = some key → ∃ row ∈ tables.commands.rows,
    row.clientNodeId = node ∧ row.idempotencyKey = key ∧ (row.completed = true → completed = true)

variable {node : String}

section Invariant
variable {origin tables settled : ExchangeTables} {enrolled : String → Nat}
  {facts : List ExchangeFact}

section
variable (ledger : Ledger origin enrolled tables facts)
include ledger

theorem Ledger.extend (grown : tables.Extends settled)
    (fresh : ∀ node sequence, tables.uplinkCursor node < sequence →
      sequence ≤ settled.uplinkCursor node → ∃ row ∈ settled.frames.rows,
        row.clientNodeId = node ∧ row.sequence = sequence ∧ row.completed = true) :
    Ledger origin enrolled settled facts := by
  constructor
  · exact ledger.grown.trans grown
  · intro node
    exact (ledger.reached node).trans (grown.cursor node)
  · intro node sequence above within
    by_cases new : tables.uplinkCursor node < sequence
    · exact fresh node sequence new within
    obtain ⟨row, member, owner, position, done⟩ :=
      ledger.complete node sequence above (Nat.not_lt.mp new)
    obtain ⟨later, laterIn, continues⟩ := grown.frames row member
    have identity := continues.identity
    exact ⟨later, laterIn, identity.1.trans owner, identity.2.1.trans position,
      continues.completed done⟩
  · intro node key noted
    obtain ⟨row, member, owner, named, done⟩ := ledger.keyed node key noted
    obtain ⟨later, laterIn, continues⟩ := grown.commands row member
    have identity := continues.identity
    exact ⟨later, laterIn, identity.1.trans owner, identity.2.trans named, continues.completed done⟩
  · exact ledger.ordered

theorem Ledger.rest (grown : tables.Extends settled)
    (still : ∀ node, settled.uplinkCursor node = tables.uplinkCursor node) :
    Ledger origin enrolled settled facts :=
  ledger.extend grown fun node _ above within =>
    absurd (within.trans_eq (still node)) (Nat.not_le.mpr above)

variable {commandKey : Option String}

theorem Ledger.settle {sequence position : Nat}
    (done : ClientRegistry.Completed tables settled node sequence commandKey)
    (standing : Positioned node position tables) (next : sequence ≤ position + 1) :
    Ledger origin enrolled settled facts := by
  obtain ⟨row, found, stands⟩ := standing
  have cursor : settled.uplinkCursor node = max position sequence := by
    rw [uplinkCursor_of_row (done.cursor row found), stands]
  have stored : tables.uplinkCursor node = position := by
    rw [uplinkCursor_of_row found, stands]
  apply ledger.extend done.extends_
  intro other wanted above within
  -- only the completed frame's own position is new
  have same : other = node := by
    by_contra different
    rw [done.others other different] at within
    exact Nat.not_lt.mpr within above
  subst other
  have equal : wanted = sequence := by omega
  rw [equal]
  exact done.frame

theorem Ledger.invoke (keyed : Keyed node commandKey false tables) :
    Ledger origin enrolled tables (facts ++ [.effect node commandKey]) := by
  refine ⟨ledger.grown, ledger.reached, ledger.complete, ?_, ?_⟩
  · intro other key noted
    apply ledger.keyed other key
    simpa using noted
  · apply pairwise_concat ledger.ordered
    rintro _ past _ key rfl effect
    obtain ⟨rfl, carried⟩ := ExchangeFact.effect.inj effect
    obtain ⟨row, member, owner, named, unsettled⟩ := keyed key carried
    obtain ⟨prior, priorIn, priorOwner, priorNamed, finished⟩ := ledger.keyed node key past
    have same : prior = row := tables.commands.eq_of_clash CommandRow.clash_symm priorIn member
      ⟨priorOwner.trans owner.symm, priorNamed.trans named.symm⟩
    rw [same] at finished
    exact Bool.noConfusion (unsettled finished)

theorem Ledger.record (finished : ∀ key, commandKey = some key → ∃ row ∈ tables.commands.rows,
      row.clientNodeId = node ∧ row.idempotencyKey = key ∧ row.completed) :
    Ledger origin enrolled tables (facts ++ [.completed node commandKey]) := by
  refine ⟨ledger.grown, ledger.reached, ledger.complete, ?_, ?_⟩
  · intro other key noted
    rcases mem_append.mp noted with past | last
    · exact ledger.keyed other key past
    · obtain ⟨rfl, rfl⟩ := ExchangeFact.completed.inj (mem_singleton.mp last)
      exact finished key rfl
  · apply pairwise_concat ledger.ordered
    rintro _ _ _ _ rfl effect
    exact ExchangeFact.noConfusion effect

end

end Invariant

variable {facts : List ExchangeFact} (keeps : ExchangeTables → List ExchangeFact → Prop)
  {key : Option String} {completed : Bool}

section Batch
variable {origin tables : ExchangeTables} {enrolled : String → Nat}

theorem Keyed.weaken (keyed : Keyed node key completed tables) : Keyed node key true tables := by
  intro wanted carried
  obtain ⟨row, member, owner, named, _⟩ := keyed wanted carried
  exact ⟨row, member, owner, named, fun _ => rfl⟩

/-- What stands between the reservation and the completion of a frame. -/
structure Reserving (origin : ExchangeTables) (enrolled : String → Nat) (node : String)
    (position sequence : Nat) (key : Option String) (completed : Bool) (tables : ExchangeTables)
    (facts : List ExchangeFact) : Prop where
  ledger : Ledger origin enrolled tables facts
  standing : Positioned node position tables
  safe : sequence ≤ maxSafeInteger
  keyed : Keyed node key completed tables

variable {position : Nat}

theorem reserve_judged {store : ClientStore Rest} {envelope : ClientToServerEnvelope Body}
    {digest : String} (ledger : Ledger origin enrolled store.toExchangeTables facts)
    (standing : Positioned node position store.toExchangeTables)
    (done : reserveExchangeFrame store.toExchangeTables node envelope.sequence
      envelope.messageId digest key = .ok (tables, completed)) :
    Reserving origin enrolled node position envelope.sequence key completed tables facts := by
  have reserved := reserveExchangeFrame_ok done
  have same : ∀ other, tables.cursorRow other = store.cursorRow other := by
    intro other
    simp only [ExchangeTables.cursorRow, reserved.cursors]
  refine ⟨ledger.rest reserved.extends_ fun other => ?_, ?_, reserved.safe, reserved.command⟩
  · simp only [ExchangeTables.uplinkCursor, same]
  · obtain ⟨row, found, stands⟩ := standing
    exact ⟨row, (same node).trans found, stands⟩

theorem judged_takeOver (node effectiveInstance : String) (envelope : ClientToServerEnvelope Body)
    (settler : BatchSettler) (now : String) : Judged (OnTables keeps)
      (takeOver node effectiveInstance envelope settler now : Exchange Rest BatchSettler)
      (fun taken store facts => taken.ackSequence = settler.ackSequence ∧
        keeps store.toExchangeTables facts) (OnTables keeps) := by
  unfold takeOver
  split
  · refine triple_bind (judged_supersede node envelope now) fun _ => ?_
    exact triple_pure fun _ start => ⟨rfl, start⟩
  · exact triple_pure fun _ start => ⟨rfl, start⟩

/-- The invariant of the batch loop, with the settler's cursor as the position. -/
def InStep (origin : ExchangeTables) (enrolled : String → Nat) (node : String)
    (position : Nat) (tables : ExchangeTables) (facts : List ExchangeFact) : Prop :=
  Ledger origin enrolled tables facts ∧ Positioned node position tables

/-- A part of the batch loop that keeps the cursor of the settler in step. -/
abbrev KeepsStep (origin : ExchangeTables) (enrolled : String → Nat) (node : String)
    (position : Nat) (program : Exchange Rest (BatchSettler × Option Nat)) : Prop :=
  Judged (OnTables (InStep origin enrolled node position)) program
    (fun answer => OnTables (InStep origin enrolled node answer.1.ackSequence))
    (OnTables (Ledger origin enrolled))

theorem safe_room (safe : position ≤ maxSafeInteger) : position + 1 < Counting.wordLimit := by
  unfold maxSafeInteger at safe
  unfold Counting.wordLimit
  omega

section
variable (host : ExchangeHost Body Rest)
include host

theorem judged_rejectionReply {before : Assertion Rest} (node : String)
    (envelope : ClientToServerEnvelope Body) (error : ClientExchangeError) (now : String) :
    Judged before (commandRejectionReply host node envelope error now) (fun _ => before)
      before := by
  apply triple_bind (judged_cursors node fun _ _ start => start)
  intro _
  apply triple_bind (judged_highWater node fun _ _ start => start.1)
  intro _
  exact triple_lift (fun _ _ _ start => start.1.1) fun _ start => start.1.1

theorem judged_runEffect (node : String) (envelope : ClientToServerEnvelope Body)
    (key : Option String) (now : String) :
    Judged (fun store facts => keeps store.toExchangeTables (facts ++ [.effect node key]))
      (runEffect host node envelope key now) (fun _ => OnTables keeps) (OnTables keeps) := by
  refine judged_bind (fun _ => OnTables keeps) ?_ fun _ => ?_
  · exact judged_note _ fun _ _ start => start
  refine judged_bind (fun _ => OnTables keeps) ?_ fun result => ?_
  · exact fun world start => start
  cases result with
  | ok _ => exact triple_pure fun _ start => start
  | error error =>
    dsimp only
    split
    · apply triple_bind (judged_rejectionReply host node envelope error now)
      intro _
      exact triple_pure fun _ start => start
    · exact triple_fail fun _ start => start

theorem judged_effectWhenDue (node : String) (start : Nat) (envelope : ClientToServerEnvelope Body)
    (completed : Bool) (key : Option String) (now : String) (position sequence : Nat) :
    Judged (fun store facts => Reserving origin enrolled node position sequence key completed
        store.toExchangeTables facts) (effectWhenDue host node start envelope completed key now)
      (fun _ store facts => Reserving origin enrolled node position sequence key true
        store.toExchangeTables facts) (OnTables (Ledger origin enrolled)) := by
  unfold effectWhenDue
  split
  · rename_i due
    have unsettled : completed = false := by
      cases completed <;> simp at due ⊢
    subst unsettled
    refine triple_mono (triple_pre (judged_runEffect
      (Reserving origin enrolled node position sequence key true) host node envelope key now) ?_)
      (fun _ _ reached => reached) fun _ reached => reached.ledger
    intro world before
    exact ⟨before.ledger.invoke before.keyed, before.standing, before.safe, before.keyed.weaken⟩
  · exact triple_pure fun world before =>
      ⟨before.ledger, before.standing, before.safe, before.keyed.weaken⟩

theorem judged_settleEnvelope (node : String) (start : Nat) (envelope : ClientToServerEnvelope Body)
    (identity : FrameIdentity) (key : Option String) (now : String) (position : Nat)
    (next : envelope.sequence ≤ position + 1) :
    Judged (fun store facts => Ledger origin enrolled store.toExchangeTables facts ∧
        Positioned node position store.toExchangeTables)
      (settleEnvelope host node start envelope identity key now)
      (fun _ store facts => Ledger origin enrolled store.toExchangeTables facts ∧
        Positioned node (max position envelope.sequence) store.toExchangeTables ∧
        envelope.sequence ≤ maxSafeInteger) (OnTables (Ledger origin enrolled)) := by
  refine judged_bind (fun completed store facts =>
    Reserving origin enrolled node position envelope.sequence key completed
      store.toExchangeTables facts) ?_ fun completed => ?_
  · apply judged_transaction
    · intro store facts _ _ before done
      obtain ⟨⟨_, settled⟩, reserved, done⟩ := bind_eq_ok.mp done
      cases done
      exact reserve_judged before.1 before.2 reserved
    · exact fun store facts before => before.1
  refine triple_bind (judged_effectWhenDue host node start envelope completed key now position
    envelope.sequence) fun reply => ?_
  refine judged_bind (fun _ store facts =>
    Ledger origin enrolled store.toExchangeTables (facts ++ [.completed node key]) ∧
      Positioned node (max position envelope.sequence) store.toExchangeTables ∧
      envelope.sequence ≤ maxSafeInteger) ?_ fun _ => ?_
  · apply judged_transaction
    · rintro store facts _ _ ⟨ledger, standing, safe, keyed⟩ done
      obtain ⟨settled, completes, done⟩ := bind_eq_ok.mp done
      cases done
      have completed := completeExchangeFrame_ok completes
      refine ⟨(ledger.settle completed standing next).record ?_, ?_, safe⟩
      · intro wanted carried
        obtain ⟨row, member, owner, named, _⟩ := keyed wanted carried
        exact ⟨row.settled, completed.command wanted carried row member owner named,
          owner, named, rfl⟩
      · obtain ⟨row, found, stands⟩ := standing
        exact ⟨_, completed.cursor row found, by rw [stands]⟩
    · exact fun store facts before => before.ledger
  · exact judged_note _ fun store facts before => before

/-- One frame after its outcome is known, for any continuation that keeps step. -/
theorem judged_settleIngested (node : String) (start : Nat) (now : String)
    (envelope : ClientToServerEnvelope Body) (taken : BatchSettler)
    (safe : taken.ackSequence ≤ maxSafeInteger)
    (rest : BatchSettler → Exchange Rest (BatchSettler × Option Nat))
    (continues : ∀ settled : BatchSettler, settled.ackSequence ≤ maxSafeInteger →
      KeepsStep origin enrolled node settled.ackSequence (rest settled)) :
    KeepsStep origin enrolled node taken.ackSequence
      (settleIngested host node start now envelope (ingestEnvelope host taken envelope) rest) := by
  have moves := ingest_advances taken envelope.clientInstanceId (envelopeIdentity host envelope)
    (commandIdentity envelope.message (envelopeIdentity host envelope).payloadDigest)
    (safe_room safe)
  change Advances taken _ (ingestEnvelope host taken envelope) at moves
  generalize ingestEnvelope host taken envelope = ingested at moves ⊢
  obtain ⟨settled, outcome⟩ := ingested
  -- a settled frame leaves the cursor at the larger of the two positions
  have settles (next : envelope.sequence ≤ taken.ackSequence + 1)
      (reached : settled.ackSequence = max taken.ackSequence envelope.sequence) :
      KeepsStep origin enrolled node taken.ackSequence
        (settleEnvelope host node start envelope (envelopeIdentity host envelope)
          envelope.message.idempotencyKey now >>= fun _ => rest settled) := by
    apply triple_bind (judged_settleEnvelope host node start envelope _ _ now
      taken.ackSequence next)
    rintro _ world ⟨ledger, standing, _⟩
    rw [← reached] at standing
    exact continues settled (by omega) world ⟨ledger, standing⟩
  cases outcome with
  | gap _ | refused =>
    have stays : settled.ackSequence = taken.ackSequence := moves.kept (by simp)
    rw [← stays]
    exact triple_pure fun _ before => before
  | accepted =>
    obtain ⟨next, reached⟩ := moves.accepted rfl
    change envelope.sequence = taken.ackSequence + 1 at next
    change settled.ackSequence = envelope.sequence at reached
    apply settles
    · omega
    · omega
  | duplicate =>
    have behind : envelope.sequence ≤ taken.ackSequence := moves.duplicate rfl
    have stays : settled.ackSequence = taken.ackSequence := moves.kept (by simp)
    apply settles
    · omega
    · omega

theorem judged_settleBatch (node effectiveInstance : String) (start : Nat) (now : String)
    (envelopes : List (ClientToServerEnvelope Body)) (settler : BatchSettler)
    (safe : settler.ackSequence ≤ maxSafeInteger) :
    KeepsStep origin enrolled node settler.ackSequence
      (settleBatch host node effectiveInstance start now envelopes settler) := by
  induction envelopes generalizing settler with
  | nil => exact triple_pure fun _ before => before
  | cons envelope _ ih =>
    unfold settleBatch
    split
    · exact triple_pure fun _ before => before
    refine judged_bind (fun taken store facts =>
      taken.ackSequence = settler.ackSequence ∧
        InStep origin enrolled node settler.ackSequence store.toExchangeTables facts) ?_
      fun taken => ?_
    · apply triple_mono (judged_takeOver (InStep origin enrolled node settler.ackSequence) node
        effectiveInstance envelope settler now)
      · exact fun _ _ reached => reached
      · exact fun _ reached => reached.1
    apply judged_assume
    intro kept
    rw [← kept] at safe ⊢
    exact judged_settleIngested host node start now envelope taken safe _ ih

end

theorem judged_introduce (node : String) (record : ClientNodeRecord)
    (envelopes : List (ClientToServerEnvelope Body)) (now : String) : Judged (OnTables keeps)
      (introduceInstance node record envelopes now : Exchange Rest Unit) (fun _ => OnTables keeps)
      (OnTables keeps) := by
  unfold introduceInstance
  split
  · split
    · exact triple_fail fun _ start => start
    · exact judged_supersede node _ now
  · exact triple_pure fun _ start => start

/-- The closing cursor update repeats what the completed frames already stored. -/
theorem InStep.close (inStep : InStep origin enrolled node position tables facts)
    (clientAck : Nat) :
    Ledger origin enrolled (raiseCursors tables node position clientAck) facts := by
  obtain ⟨ledger, _, found, stands⟩ := inStep
  apply ledger.rest (raise_extends tables node position clientAck)
  intro other
  by_cases same : other = node
  · subst other
    rw [uplinkCursor_raise_self found, uplinkCursor_of_row found,
      stands, max_self]
  · exact uplinkCursor_raise_other tables same _ _

section
variable (host : ExchangeHost Body Rest) (node : String)

theorem judged_deliver (position clientAck : Nat) : Judged
      (OnTables (InStep origin enrolled node position)) (deliverBatch host node position clientAck)
      (fun _ => OnTables (Ledger origin enrolled)) (OnTables (Ledger origin enrolled)) := by
  refine judged_bind (fun _ => OnTables (Ledger origin enrolled)) ?_ fun cursors => ?_
  · apply judged_transaction
    · intro store facts _ _ before done
      obtain ⟨⟨_, _⟩, advanced, done⟩ := bind_eq_ok.mp done
      cases done
      rw [advanceExchangeCursors_ok advanced]
      exact before.close clientAck
    · exact fun store facts before => before.1
  apply triple_bind (judged_query fun _ _ start => start)
  intro _
  refine triple_passed (fun _ start => start.1) fun _ _ => ?_
  refine judged_bind (fun _ => OnTables (Ledger origin enrolled)) ?_ fun _ => ?_
  · apply judged_transaction
    · intro store facts _ _ before done
      obtain ⟨_, _, done⟩ := bind_eq_ok.mp done
      obtain ⟨_, _, done⟩ := bind_eq_ok.mp done
      cases done
      exact before.1
    · exact fun store facts before => before.1
  · exact triple_pure fun _ start => start

theorem judged_settling (envelopes : List (ClientToServerEnvelope Body))
    (record : ClientNodeRecord) (cursors : ClientExchangeCursors) (clientAck : Nat) (now : String)
    (safe : cursors.clientToServerAckSequence ≤ maxSafeInteger) : Judged
      (OnTables (InStep origin enrolled node cursors.clientToServerAckSequence))
      (settleRequest host node envelopes record cursors clientAck now)
      (fun _ => OnTables (Ledger origin enrolled)) (OnTables (Ledger origin enrolled)) := by
  refine judged_bind (fun _ => OnTables (InStep origin enrolled node
    cursors.clientToServerAckSequence)) ?_ fun _ => ?_
  · exact triple_mono (judged_introduce (InStep origin enrolled node _) node record envelopes now)
      (fun _ _ reached => reached) fun _ reached => reached.1
  apply triple_bind (judged_nodeRecord node fun _ _ start => start.1)
  intro _
  refine judged_bind (fun _ => OnTables (InStep origin enrolled node
    cursors.clientToServerAckSequence)) ?_ fun effectiveInstance => ?_
  · exact triple_lift (fun _ _ _ start => start.1) fun _ start => start.1.1
  apply triple_bind (judged_settleBatch host node effectiveInstance _ now envelopes
    (.new effectiveInstance cursors.clientToServerAckSequence) safe)
  intro answer
  apply triple_bind (judged_deliver host node answer.1.ackSequence clientAck)
  intro _
  exact triple_pure fun _ start => start

theorem judged_clientExchange (envelopes : List (ClientToServerEnvelope Body)) (clientAck : Nat)
    (now : String) : Judged (OnTables (Ledger origin enrolled))
      (clientExchange host node envelopes clientAck now)
      (fun _ => OnTables (Ledger origin enrolled)) (OnTables (Ledger origin enrolled)) := by
  refine triple_passed (fun _ start => start) fun _ _ => ?_
  apply triple_bind (judged_nodeRecord node fun _ _ start => start)
  intro record
  refine triple_passed (fun _ start => start.1) fun _ _ => ?_
  apply triple_bind (judged_cursors node fun _ _ start => start.1)
  intro cursors
  apply triple_bind (judged_highWater node fun _ _ start => start.1.1)
  intro _
  refine judged_bind (fun _ store facts =>
    cursors.clientToServerAckSequence ≤ maxSafeInteger ∧
      InStep origin enrolled node cursors.clientToServerAckSequence
        store.toExchangeTables facts) ?_ fun _ => ?_
  · apply triple_lift
    · rintro _ _ _ ⟨⟨⟨ledger, _⟩, small, found⟩, _⟩
      exact ⟨small.1, ledger, _, found, rfl⟩
    · exact fun _ start => start.1.1.1
  apply judged_assume
  intro safe
  exact judged_settling host node envelopes record cursors clientAck now safe

end

end Batch

variable {tables : ExchangeTables}

section Runs
variable {origin : ExchangeTables} {enrolled : String → Nat}

theorem exchangeStep_ledger (world : World Rest) (event : ExchangeEvent Body Rest)
    (start : Ledger origin enrolled world.store.toExchangeTables world.facts) :
    Ledger origin enrolled (exchangeStep world event).store.toExchangeTables
      (exchangeStep world event).facts := by
  cases event with
  | elsewhere _ => exact start
  | request call =>
    exact Triple.reached (judged_clientExchange call.host call.node call.envelopes call.clientAck
      call.now) start

theorem run_ledger (world : World Rest) (events : List (ExchangeEvent Body Rest))
    (start : Ledger origin enrolled world.store.toExchangeTables world.facts) :
    Ledger origin enrolled (after exchangeStep world events).store.toExchangeTables
      (after exchangeStep world events).facts :=
  after_invariant exchangeStep exchangeStep_ledger start events

theorem ledger_start (tables : ExchangeTables) : Ledger tables tables.uplinkCursor tables [] := by
  refine ⟨ExchangeTables.Extends.refl tables, fun _ => le_refl _, ?_, ?_, List.Pairwise.nil⟩
  · intro _ _ above within
    exact absurd within (Nat.not_le.mpr above)
  · intro _ _ noted
    cases noted

/-- Each state of a run can stand as the origin of what follows. -/
theorem Ledger.rebase (ledger : Ledger origin enrolled tables facts) :
    Ledger tables enrolled tables facts :=
  ⟨ExchangeTables.Extends.refl tables, ledger.reached, ledger.complete, ledger.keyed,
    ledger.ordered⟩

end Runs

def uplinkRows (tables : ExchangeTables) (node : String) (sequence : Nat) : List FrameRow :=
  tables.frames.rows.filter fun row => row.clientNodeId == node && row.sequence == sequence

theorem uplinkRows_eq {row : FrameRow} (member : row ∈ tables.frames.rows) :
    uplinkRows tables row.clientNodeId row.sequence = [row] := by
  apply tables.frames.filter_eq_singleton member
  · simp
  · intro _ _ leftHere rightHere
    simp only [Bool.and_eq_true, beq_iff_eq] at leftHere rightHere
    exact ⟨leftHere.1.trans rightHere.1.symm, .inl (leftHere.2.trans rightHere.2.symm)⟩

/-- Settlement of the uplink over every run: `reached` is any state of the run and
`later` any state after it. -/
theorem uplink_gap_free (start : ClientStore Rest) (early late : List (ExchangeEvent Body Rest)) :
    let reached := after exchangeStep (World.of start) early
    let later := after exchangeStep reached late
    (∀ node sequence, start.uplinkCursor node < sequence →
      sequence ≤ reached.store.uplinkCursor node →
      ∃ row, uplinkRows reached.store.toExchangeTables node sequence = [row] ∧
        row.completed = true ∧
        ∃ kept, uplinkRows later.store.toExchangeTables node sequence = [kept] ∧
          kept.completed = true ∧ kept.messageId = row.messageId ∧
          kept.payloadDigest = row.payloadDigest) ∧
    (∀ node, start.uplinkCursor node ≤ reached.store.uplinkCursor node ∧
      reached.store.uplinkCursor node ≤ later.store.uplinkCursor node) ∧
    (∀ left ∈ reached.store.frames.rows, ∀ right ∈ reached.store.frames.rows,
      left.clientNodeId = right.clientNodeId → left.messageId = right.messageId →
      left.sequence = right.sequence) ∧
    reached.facts.Pairwise fun before after => ∀ node key,
      before = .completed node (some key) → after ≠ .effect node (some key) := by
  intro reached _
  have ledger := run_ledger (World.of start) early (ledger_start start.toExchangeTables)
  have grown := (run_ledger reached late ledger.rebase).grown
  refine ⟨?_, ?_, ?_, ledger.ordered⟩
  · intro node sequence above within
    obtain ⟨row, member, rfl, rfl, done⟩ := ledger.complete node sequence above within
    obtain ⟨kept, keptIn, continues⟩ := grown.frames row member
    obtain ⟨owner, position, message, digest⟩ := continues.identity
    refine ⟨row, uplinkRows_eq member, done, kept, ?_, continues.completed done, message, digest⟩
    rw [← owner, ← position]
    exact uplinkRows_eq keptIn
  · intro node
    exact ⟨ledger.reached node, grown.cursor node⟩
  · intro _ leftIn _ rightIn owner message
    rw [reached.store.frames.eq_of_clash FrameRow.clash_symm leftIn rightIn ⟨owner, .inr message⟩]

end WinWinCode.Server
