import WinWinCode.Server.DownlinkDelivery

/-!
What one downlink exchange does to the store: nothing, or the acknowledged frames
go and the next ones are delivered. A storage fault in the middle may leave the
acknowledgement raised with its frames still there; without faults that does not
happen.
-/

namespace WinWinCode.Server

open Counting Exchange Fallible Programs Storage Tables Text ClientRegistry List Program
open ClientDownlink

variable {Body Rest : Type}

structure Exchanged (host : ExchangeHost Body Rest) (store : ClientStore Rest) (node : String)
    (up down : Nat) (batch : List ClientDownlinkFrame) (reached : ClientStore Rest) : Prop where
  known : store.cursorRow node ≠ none
  small : up ≤ maxSafeInteger
  reached : reached = dropThrough (store.raised node up down) node
    ((store.raised node up down).downlinkAck node)
  batch : deliverable (store.raised node up down) node
    ((store.raised node up down).downlinkAck node) host.maxFramesPerExchange = .ok batch

def InRange (store : ClientStore Rest) (node : String) (down : Nat) : Prop :=
  down ≤ max (store.downlinkAck node) (store.highestDownlink node)

section Any
variable (host : ExchangeHost Body Rest) (store : ClientStore Rest) (node : String) (up down : Nat)

theorem judged_deliverBatch :
    Judged (fun reached _ => reached = store) (deliverBatch host node up down)
      (fun batch reached _ => Exchanged host store node up down batch reached)
      (fun reached _ => reached = store ∨
        (up ≤ maxSafeInteger ∧ reached = store.raised node up down)) := by
  refine triple_bind (?_ : Judged _ _ (fun cursors reached _ =>
    (up ≤ maxSafeInteger ∧ store.cursorRow node ≠ none ∧
      cursors.serverToClientAckSequence = (store.raised node up down).downlinkAck node) ∧
      reached = store.raised node up down) _) fun cursors => ?_
  · apply judged_transaction
    · rintro _ _ _ _ rfl done
      obtain ⟨⟨_, _⟩, advanced, success⟩ := bind_eq_ok.mp done
      cases success
      have moved := advanceExchangeCursors_ok advanced
      have answered := advanceExchangeCursors_ack advanced
      subst moved
      exact ⟨⟨answered.2.1, answered.2.2.1, answered.2.2.2.1⟩, rfl⟩
    · exact fun _ _ kept => Or.inl kept
  apply judged_assume
  rintro ⟨small, known, position⟩
  rw [position]
  refine triple_bind (judged_query fun _ _ kept => Or.inr ⟨small, kept⟩) fun batch => ?_
  apply judged_here
  intro read
  refine triple_passed (fun _ kept => Or.inr ⟨small, kept⟩) fun _ _ => ?_
  refine triple_bind (?_ : Judged _ _ (fun _ reached _ =>
    Exchanged host store node up down batch reached) _) fun _ => triple_pure fun _ done => done
  apply judged_transaction
  · rintro _ _ _ _ rfl done
    exact ⟨known, small, retainThrough_ok done, read⟩
  · exact fun _ _ kept => Or.inr ⟨small, kept⟩

theorem judged_downlinkExchange :
    Judged (fun reached _ => reached = store) (downlinkExchange host node up down)
      (fun batch reached _ => InRange store node down ∧
        Exchanged host store node up down batch reached)
      (fun reached _ => reached = store ∨ (InRange store node down ∧ up ≤ maxSafeInteger ∧
          reached = store.raised node up down)) := by
  refine triple_bind (judged_cursors node fun _ _ kept => Or.inl kept) fun cursors => ?_
  apply judged_here
  rintro ⟨_, row⟩
  refine triple_bind (judged_highWater node fun _ _ kept => Or.inl kept) fun highest => ?_
  apply judged_here
  rintro ⟨rfl, _⟩
  refine triple_passed (fun _ kept => Or.inl kept) fun _ passed => ?_
  have within : InRange store node down := by
    rw [InRange, ExchangeTables.downlinkAck, row]
    exact Nat.not_lt.mp (refuse_eq_ok.mp passed)
  apply triple_mono (judged_deliverBatch host store node up down)
  · exact fun _ _ reached => ⟨within, reached⟩
  · exact fun _ reached => reached.imp id fun raised => ⟨within, raised⟩

end Any

section Calm
variable {host : ExchangeHost Body Rest} {world : World Rest} {node : String} {up down : Nat}

theorem deliverable_rows {store : ClientStore Rest} {position limit : Nat}
    {batch : List ClientDownlinkFrame}
    (read : ClientDownlink.deliverable store node position limit = .ok batch) :
    batch ⊆ store.downlink.rows := by
  simp only [ClientDownlink.deliverable, ClientDownlink.validateClientNodeId,
    refuse_bind_eq_ok] at read
  obtain ⟨_, read⟩ := read
  by_cases none_wanted : limit = 0
  · rw [if_pos none_wanted] at read
    cases read
    exact nil_subset _
  · rw [if_neg none_wanted, ClientDownlink.sqlInteger, refuse_bind_eq_ok] at read
    cases read.2
    intro _ member
    have sorted := mem_of_mem_take member
    have above := (mem_filter.mp ((mem_insertionSort _).mp sorted)).1
    exact (mem_filter.mp above).1

/-- Without faults the only obstacle to a delivery is the advance of the cursors. -/
theorem deliverBatch_calm (calm : world.faults = [])
    (json : ∀ row ∈ world.store.downlink.rows, host.isJson row.frame)
    {raised : ExchangeTables} {cursors : ClientExchangeCursors}
    (advanced : advanceExchangeCursors world.store.toExchangeTables node up down =
      .ok (raised, cursors)) :
    ∃ reached batch, deliverBatch host node up down world = (reached, .ok batch) := by
  let moved : World Rest := { world with store := { world.store with toExchangeTables := raised } }
  have calm' : moved.faults = [] := calm
  have first : advanceCursors node up down world.store = .ok (moved.store, cursors) :=
    bind_eq_ok.mpr ⟨_, advanced, rfl⟩
  have written : transactionOrUnavailable (advanceCursors node up down) world = _ :=
    transaction_calm calm first
  have answered := advanceExchangeCursors_ack advanced
  rcases deliverable_succeeds moved.store host.maxFramesPerExchange answered.1
    answered.2.2.2.2 with ⟨batch, read⟩
  rcases retainThrough_succeeds moved.store answered.1 answered.2.2.2.2 with
    ⟨count, dropped⟩
  have queried : query (fun store => deliverable store node
      cursors.serverToClientAckSequence host.maxFramesPerExchange) moved = _ :=
    query_calm calm' read
  have kept : transactionOrUnavailable (fun store => retainThrough store node
      cursors.serverToClientAckSequence) moved = _ := transaction_calm calm' dropped
  have parses : ¬ (batch.any (!host.isJson ·.frame)) := by
    simp only [any_eq_true, Bool.not_eq_true', not_exists, not_and, Bool.not_eq_false]
    intro row member
    exact json row (deliverable_rows read member)
  unfold deliverBatch
  rw [bind_ok written, bind_ok queried, bind_ok (refuse_passes moved parses), bind_ok kept]
  exact ⟨_, batch, rfl⟩

theorem deliverBatch_refused (calm : world.faults = []) {error : ClientRegistryError}
    (refused : advanceExchangeCursors world.store.toExchangeTables node up down = .error error) :
    (deliverBatch host node up down world).1.store = world.store := by
  have failed : advanceCursors node up down world.store = .error error := by
    rw [advanceCursors, refused]
    rfl
  have stopped : transactionOrUnavailable (advanceCursors node up down) world =
      (world, .error .unavailable) := transaction_refused calm failed
  unfold deliverBatch
  rw [bind_error stopped]

theorem calm_downlinkExchange (node : String) (up down : Nat) (store : ClientStore Rest)
    (json : ∀ row ∈ store.downlink.rows, host.isJson row.frame) :
    Triple (CalmAt store) (downlinkExchange host node up down) (fun _ _ => True)
      (·.store = store) := by
  refine triple_bind (?_ : Triple _ _ (fun _ => CalmAt store) _) fun cursors => ?_
  · refine triple_bind (triple_mono (calm_query store _) (fun _ _ reached => reached)
      fun _ reached => reached.2) fun loaded => ?_
    exact triple_lift (fun _ _ _ start => start) fun _ start => start.2
  refine triple_bind (triple_mono (calm_query store _) (fun _ _ reached => reached)
    fun _ reached => reached.2) fun highest => ?_
  refine triple_passed (fun _ start => start.2) fun _ _ => ?_
  rintro world ⟨calm, rfl⟩
  cases advanced : advanceExchangeCursors world.store.toExchangeTables node up
      down with
  | ok _ =>
    obtain ⟨_, _, ran⟩ := deliverBatch_calm calm json advanced
    rw [ran]
    trivial
  | error error =>
    have kept : (deliverBatch host node up down world).1.store = world.store :=
      deliverBatch_refused calm advanced
    cases outcome : deliverBatch host node up down world with
    | mk _ result =>
      rw [outcome] at kept
      cases result with
      | ok _ => trivial
      | error _ => exact kept

theorem downlinkExchange_succeeds (calm : world.faults = [])
    (json : ∀ row ∈ world.store.downlink.rows, host.isJson row.frame)
    (canonical : isCanonicalId "cnd_" node) {row : CursorRow}
    (found : world.store.cursorRow node = some row)
    (safeUp : row.clientToServerAckSequence ≤ maxSafeInteger)
    (safeDown : row.serverToClientAckSequence ≤ maxSafeInteger)
    (highest : world.store.highestDownlink node ≤ maxSafeInteger)
    (small : up ≤ maxSafeInteger) (within : InRange world.store node down) :
    ∃ reached batch, downlinkExchange host node up down world = (reached, .ok batch) := by
  have ack : world.store.downlinkAck node = row.serverToClientAckSequence := by
    rw [ExchangeTables.downlinkAck, found]
    rfl
  rw [InRange, ack] at within
  have smallDown : down ≤ maxSafeInteger := within.trans (Nat.max_le.mpr ⟨safeDown, highest⟩)
  rcases advanceExchangeCursors_succeeds canonical small smallDown found safeUp
    safeDown with ⟨raised, cursors, advanced⟩
  unfold downlinkExchange
  rw [bind_ok (cursors_calm calm canonical found safeUp safeDown),
    bind_ok (highWater_calm calm canonical highest),
    bind_ok (refuse_passes world (Nat.not_lt.mpr within))]
  exact deliverBatch_calm calm json advanced

end Calm

end WinWinCode.Server
