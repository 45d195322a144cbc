import WinWinCode.Storage.ExchangeLedger
import WinWinCode.Storage.ClientDownlink

/-!
The downlink of one node as a numbered log of which the front is dropped. The
next position is recomputed from the retained frames and the acknowledgement;
`Retains` is the invariant under which that recomputation always names the
position after the last frame ever appended.
-/

namespace WinWinCode.Storage

open Counting Fallible Tables Text ClientRegistry List

variable {Rest : Type}

/-- The stored server-to-client acknowledgement, zero without a cursor row. -/
def ExchangeTables.downlinkAck (tables : ExchangeTables) (node : String) : Nat :=
  ((tables.cursorRow node).map (·.serverToClientAckSequence)).getD 0

/-- `log` is every frame ever appended for a node. Frames are dropped from its front,
up to the acknowledgement at most. -/
structure Retains (log : List ClientDownlinkFrame) (dropped : Nat) (store : ClientStore Rest)
    (node : String) : Prop where
  numbered : Numbered ClientDownlinkFrame.sequence 1 log
  bounded : log.length ≤ maxSafeInteger
  settled : dropped ≤ store.downlinkAck node
  acked : store.downlinkAck node ≤ log.length
  rows : store.downlinkRows node = log.drop dropped

variable {log : List ClientDownlinkFrame} {dropped : Nat} {store : ClientStore Rest} {node : String}

structure Appended (store next : ClientStore Rest) (stored : ClientDownlinkFrame) : Prop where
  exchange : next.toExchangeTables = store.toExchangeTables
  nodes : next.nodes = store.nodes
  rows : next.downlink.rows = store.downlink.rows ++ [stored]
  position : stored.sequence = max (store.downlinkAck stored.clientNodeId)
    (store.highestDownlink stored.clientNodeId) + 1
  safe : stored.sequence ≤ maxSafeInteger
  known : store.nodeRow stored.clientNodeId ≠ none

variable {next : ClientStore Rest} {stored : ClientDownlinkFrame}

theorem Appended.downlinkRows (appended : Appended store next stored) (node : String) :
    next.downlinkRows node =
      store.downlinkRows node ++ [stored].filter (·.clientNodeId == node) := by
  rw [EffectTables.downlinkRows, appended.rows, filter_append]
  rfl

section
variable (retains : Retains log dropped store node)
include retains

/-- The position after the last frame, whichever of the two numbers it comes from. -/
theorem Retains.highest :
    max (store.downlinkAck node) (store.highestDownlink node) = log.length := by
  have highest := numbered_highest ClientDownlinkFrame.sequence
    (numbered_drop _ retains.numbered dropped) 0
  have settled := retains.settled
  have acked := retains.acked
  rw [EffectTables.highestDownlink, retains.rows, highest]
  by_cases empty : log.drop dropped = []
  · rw [if_pos empty]
    have all := drop_eq_nil_iff.mp empty
    omega
  · rw [if_neg empty, length_drop]
    have some_left : dropped < log.length := by
      by_contra none_left
      exact empty (drop_eq_nil_iff.mpr (Nat.not_lt.mp none_left))
    omega

theorem Retains.above {position : Nat} (beyond : dropped ≤ position) :
    (store.downlinkRows node).filter (position < ·.sequence) = log.drop position := by
  have cut := numbered_filter_above ClientDownlinkFrame.sequence
    (numbered_drop _ retains.numbered dropped) position
  rw [retains.rows, cut, drop_drop]
  congr 1
  omega

theorem Retains.append (appended : Appended store next stored) :
    Retains (log ++ [stored].filter (·.clientNodeId == node)) dropped next node := by
  have ack : next.downlinkAck node = store.downlinkAck node := by
    rw [appended.exchange]
  by_cases mine : stored.clientNodeId = node
  · have own : [stored].filter (·.clientNodeId == node) = [stored] := by
      simp [mine]
    have place : stored.sequence = log.length + 1 := by
      rw [appended.position, mine, retains.highest]
    have safe := appended.safe
    have settled := retains.settled
    have acked := retains.acked
    rw [own]
    refine ⟨numbered_concat _ retains.numbered (by omega), ?_, ack ▸ settled, ?_, ?_⟩
    · rw [length_append, length_singleton]
      omega
    · rw [ack, length_append]
      omega
    · rw [appended.downlinkRows, own, retains.rows, drop_append_of_le_length (by omega)]
  · have other : [stored].filter (·.clientNodeId == node) = [] := by
      simp [mine]
    rw [other, append_nil]
    refine ⟨retains.numbered, retains.bounded, ack ▸ retains.settled, ack ▸ retains.acked, ?_⟩
    rw [appended.downlinkRows, other, append_nil, retains.rows]

end

namespace ClientDownlink

theorem nextSequence_ok {next : Nat} (done : nextSequenceInTransaction store node = .ok next) :
    next = max (store.downlinkAck node) (store.highestDownlink node) + 1 ∧
      next ≤ maxSafeInteger := by
  simp only [nextSequenceInTransaction, serverToClientAck, highestSequence, fromSqlInteger] at done
  obtain ⟨_, readAck, done⟩ := bind_eq_ok.mp done
  obtain ⟨_, readHighest, done⟩ := bind_eq_ok.mp done
  rw [refuse_bind_eq_ok] at readAck readHighest
  rw [okOr_eq_ok, Option.filter_eq_some_iff] at done
  obtain ⟨sum, small⟩ := done
  rw [(checkedAdd_eq_some.mp sum).2, ← Except.ok.inj readAck.2, ← Except.ok.inj readHighest.2]
  refine ⟨rfl, ?_⟩
  rw [Except.ok.inj readAck.2, Except.ok.inj readHighest.2, ← (checkedAdd_eq_some.mp sum).2]
  exact of_decide_eq_true small

theorem appendLaunch_appended {append : ClientDownlinkAppend} {now : String}
    (done : appendLaunchInTransaction store append now = .ok (next, stored)) :
    Appended store next stored ∧ stored.clientNodeId = append.clientNodeId ∧
      stored.frame = append.frame := by
  simp only [appendLaunchInTransaction, validateClientNodeId, refuse_bind_eq_ok] at done
  obtain ⟨_, _, known, done⟩ := done
  obtain ⟨_, found, done⟩ := bind_eq_ok.mp done
  obtain ⟨value, safe⟩ := nextSequence_ok found
  simp only [sqlInteger, refuse_bind_eq_ok, okOr_bind_eq_ok, not_not] at done
  obtain ⟨place, _, _, _, inserted, success⟩ := done
  cases success
  refine ⟨⟨rfl, rfl, (Table.insert_eq_some.mp inserted).2, ?_, ?_, known⟩, rfl, rfl⟩
  · exact place.trans value
  · exact place.trans_le safe

variable {position : Nat}

theorem deliverable_ok {limit : Nat} {batch : List ClientDownlinkFrame}
    (retains : Retains log dropped store node) (beyond : dropped ≤ position)
    (done : deliverable store node position limit = .ok batch) :
    batch = (log.drop position).take limit := by
  simp only [deliverable, validateClientNodeId, refuse_bind_eq_ok] at done
  obtain ⟨_, done⟩ := done
  by_cases none_wanted : limit = 0
  · rw [if_pos none_wanted] at done
    rw [← Except.ok.inj done, none_wanted, take_zero]
  · rw [if_neg none_wanted, sqlInteger, refuse_bind_eq_ok] at done
    rw [← Except.ok.inj done.2, retains.above beyond]
    congr 1
    exact (numbered_sorted _ (numbered_drop _ retains.numbered position)).insertionSort_eq

theorem deliverable_succeeds (store : ClientStore Rest) (limit : Nat)
    (canonical : isCanonicalId "cnd_" node) (small : position ≤ maxSafeInteger) :
    ∃ batch, deliverable store node position limit = .ok batch := by
  have fits : position ≤ sqlIntegerMax := small.trans (by decide)
  simp only [deliverable, validateClientNodeId, refuse_bind_eq_ok, canonical, Bool.true_eq_false,
    not_false_eq_true, true_and]
  by_cases none_wanted : limit = 0
  · rw [if_pos none_wanted]
    exact ⟨_, rfl⟩
  · rw [if_neg none_wanted, sqlInteger]
    exact ⟨_, refuse_bind_eq_ok.mpr ⟨Nat.not_lt.mpr fits, rfl⟩⟩

def dropThrough (store : ClientStore Rest) (node : String) (position : Nat) : ClientStore Rest :=
  { store with downlink := store.downlink.deleteWhere fun row =>
      row.clientNodeId == node && row.sequence ≤ position }

theorem retainThrough_ok {count : Nat}
    (done : retainThrough store node position = .ok (next, count)) :
    next = dropThrough store node position := by
  simp only [retainThrough, validateClientNodeId, sqlInteger, refuse_bind_eq_ok] at done
  obtain ⟨_, _, success⟩ := done
  exact (Prod.mk.inj (Except.ok.inj success)).1.symm

theorem retainThrough_succeeds (store : ClientStore Rest) (canonical : isCanonicalId "cnd_" node)
    (small : position ≤ maxSafeInteger) :
    ∃ count, retainThrough store node position = .ok (dropThrough store node position, count) := by
  have fits : position ≤ sqlIntegerMax := small.trans (by decide)
  simp only [retainThrough, validateClientNodeId, sqlInteger, refuse_bind_eq_ok, canonical,
    Bool.true_eq_false, not_false_eq_true, not_lt, fits, true_and]
  exact ⟨_, rfl⟩

theorem downlinkRows_dropThrough (store : ClientStore Rest) (node other : String) (position : Nat) :
    (dropThrough store node position).downlinkRows other =
      if other = node then (store.downlinkRows other).filter (position < ·.sequence)
      else store.downlinkRows other := by
  simp only [EffectTables.downlinkRows, dropThrough, Table.deleteWhere, filter_filter]
  by_cases same : other = node
  · rw [if_pos same, same]
    apply filter_congr
    intro row _
    cases mine : row.clientNodeId == node with
    | false => simp
    | true =>
      rw [Bool.eq_iff_iff]
      simp
  · rw [if_neg same]
    apply filter_congr
    intro row _
    cases mine : row.clientNodeId == other with
    | false => simp
    | true =>
      have elsewhere : (row.clientNodeId == node) = false := by
        simp [eq_of_beq mine, same]
      simp [elsewhere]

end ClientDownlink

namespace ClientRegistry

theorem appendReply_appended {now : String} {reply : ClientDownlinkAppend}
    (done : appendReply store node reply now = .ok next) :
    Appended store next ⟨node, reply.sequence, reply.messageId, reply.frame, now⟩ ∧
      reply.clientNodeId = node := by
  simp only [appendReply, okOr_bind_eq_ok, sqlInteger, refuse_bind_eq_ok, not_or, not_not,
    not_lt] at done
  rcases done with
    ⟨cursor, found, owner, _, place, ⟨safe, _, _, known⟩, downlink, inserted, success⟩
  have ack : store.downlinkAck node = cursor.serverToClientAckSequence := by
    rw [ExchangeTables.downlinkAck, found]
    rfl
  cases success
  refine ⟨⟨rfl, rfl, place ▸ (Table.insert_eq_some.mp inserted).2, ?_, place ▸ safe, known⟩, owner⟩
  rw [place, ack, max_comm]

end ClientRegistry

theorem ExchangeTables.downlinkAck_raise (tables : ExchangeTables) (node other : String)
    (up down : Nat) : (raiseCursors tables node up down).downlinkAck other =
      if other = node ∧ tables.cursorRow node ≠ none then max (tables.downlinkAck node) down
      else tables.downlinkAck other := by
  unfold downlinkAck
  rw [cursorRow_raise]
  by_cases same : other = node
  · subst same
    cases tables.cursorRow other with
    | none => simp
    | some _ => simp [CursorRow.raised]
  · simp [same]

def ClientStore.raised (store : ClientStore Rest) (node : String) (up down : Nat) :
    ClientStore Rest :=
  { store with
    toExchangeTables := raiseCursors store.toExchangeTables node up down }

theorem ClientRegistry.advanceExchangeCursors_ack {tables raised : ExchangeTables} {up down : Nat}
    {cursors : ClientExchangeCursors}
    (done : advanceExchangeCursors tables node up down = .ok (raised, cursors)) :
    isCanonicalId "cnd_" node ∧ up ≤ maxSafeInteger ∧ tables.cursorRow node ≠ none ∧
      cursors.serverToClientAckSequence = raised.downlinkAck node ∧
      cursors.serverToClientAckSequence ≤ maxSafeInteger := by
  have moved := advanceExchangeCursors_ok done
  simp only [advanceExchangeCursors, validateClientNodeId, validateCrockfordId, validateSequence,
    refuse_bind_eq_ok, Bool.not_eq_false, not_lt] at done
  obtain ⟨canonical, small, _, known, done⟩ := done
  obtain ⟨_, load, done⟩ := bind_eq_ok.mp done
  obtain ⟨_, present, success⟩ := okOr_bind_eq_ok.mp done
  obtain ⟨_, rfl⟩ := Prod.mk.inj (Except.ok.inj success)
  subst present
  rw [← moved] at load
  refine ⟨canonical, small, known, ?_⟩
  unfold loadExchangeCursors at load
  cases found : raised.cursorRow node with
  | none => simp [found] at load
  | some _ =>
    simp only [found, fromSqlInteger, refuse_bind_eq_ok, not_lt] at load
    obtain ⟨_, down, success⟩ := load
    rw [← Option.some.inj (Except.ok.inj success), ExchangeTables.downlinkAck, found]
    exact ⟨rfl, down⟩

theorem ClientRegistry.advanceExchangeCursors_succeeds {tables : ExchangeTables} {up down : Nat}
    {row : CursorRow} (canonical : isCanonicalId "cnd_" node)
    (smallUp : up ≤ maxSafeInteger) (smallDown : down ≤ maxSafeInteger)
    (found : tables.cursorRow node = some row)
    (safeUp : row.clientToServerAckSequence ≤ maxSafeInteger)
    (safeDown : row.serverToClientAckSequence ≤ maxSafeInteger) :
    ∃ raised cursors, advanceExchangeCursors tables node up down = .ok (raised, cursors) := by
  have moved : (raiseCursors tables node up down).cursorRow node = some (row.raised up down) := by
    rw [ExchangeTables.cursorRow_raise, if_pos rfl, found]
    rfl
  have loaded : ∃ cursors, loadExchangeCursors (raiseCursors tables node up down) node =
      .ok (some cursors) := by
    simp only [loadExchangeCursors, moved, fromSqlInteger, refuse_bind_eq_ok, not_lt]
    exact ⟨_, Nat.max_le.mpr ⟨safeUp, smallUp⟩, Nat.max_le.mpr ⟨safeDown, smallDown⟩, rfl⟩
  obtain ⟨cursors, load⟩ := loaded
  refine ⟨raiseCursors tables node up down, cursors, ?_⟩
  simp only [advanceExchangeCursors, validateClientNodeId, validateCrockfordId, validateSequence,
    refuse_bind_eq_ok, canonical, Bool.true_eq_false, not_false_eq_true, not_lt, smallUp,
    smallDown, found, reduceCtorEq, true_and]
  exact bind_eq_ok.mpr ⟨_, load, rfl⟩

section
variable (retains : Retains log dropped store node)
include retains

theorem Retains.raise (moved : String) (up down : Nat) (within : moved = node → down ≤ log.length) :
    Retains log dropped (store.raised moved up down) node := by
  have settled := retains.settled
  have acked := retains.acked
  have ack : (store.raised moved up down).downlinkAck node = _ :=
    ExchangeTables.downlinkAck_raise store.toExchangeTables moved node up down
  refine ⟨retains.numbered, retains.bounded, ?_, ?_, retains.rows⟩
  · rw [ack]
    split
    · rename_i mine
      rw [← mine.1]
      exact settled.trans (le_max_left _ _)
    · exact settled
  · rw [ack]
    split
    · rename_i mine
      rw [← mine.1]
      exact Nat.max_le.mpr ⟨acked, within mine.1.symm⟩
    · exact acked

theorem Retains.drop : Retains log (store.downlinkAck node)
      (ClientDownlink.dropThrough store node (store.downlinkAck node)) node := by
  refine ⟨retains.numbered, retains.bounded, le_refl _, retains.acked, ?_⟩
  rw [ClientDownlink.downlinkRows_dropThrough, if_pos rfl, retains.above retains.settled]

theorem Retains.drop_other {moved : String} (different : node ≠ moved) (position : Nat) :
    Retains log dropped (ClientDownlink.dropThrough store moved position) node := by
  refine ⟨retains.numbered, retains.bounded, retains.settled, retains.acked, ?_⟩
  rw [ClientDownlink.downlinkRows_dropThrough, if_neg different, retains.rows]

end

end WinWinCode.Storage
