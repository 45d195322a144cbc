import WinWinCode.Storage.ClientRegistry

/-!
What the uplink settlement of the registry does to the exchange tables. Rows of
frames and commands are never removed and change in one way only, from reserved
to completed; the uplink cursor of a node never falls. `Extends` says so for two
stores, and every settlement operation moves along it.
-/

namespace WinWinCode.Storage

open Fallible Tables Text ClientRegistry Table

def FrameRow.Continues (row later : FrameRow) : Prop := later = row ∨ later = row.settled

def CommandRow.Continues (row later : CommandRow) : Prop := later = row ∨ later = row.settled

theorem FrameRow.Continues.trans {row middle later : FrameRow}
    (first : row.Continues middle) (second : middle.Continues later) : row.Continues later := by
  rcases first with rfl | rfl
  · exact second
  · rcases second with rfl | rfl
    · exact .inr rfl
    · exact .inr rfl

variable {later row : CommandRow}

theorem CommandRow.Continues.trans {middle : CommandRow} (first : row.Continues middle)
    (second : middle.Continues later) : row.Continues later := by
  rcases first with rfl | rfl
  · exact second
  · rcases second with rfl | rfl
    · exact .inr rfl
    · exact .inr rfl

theorem FrameRow.Continues.identity {row later : FrameRow} (continues : row.Continues later) :
    later.clientNodeId = row.clientNodeId ∧ later.sequence = row.sequence ∧
      later.messageId = row.messageId ∧ later.payloadDigest = row.payloadDigest := by
  rcases continues with rfl | rfl <;> exact ⟨rfl, rfl, rfl, rfl⟩

theorem FrameRow.Continues.completed {row later : FrameRow} (continues : row.Continues later)
    (done : row.completed) : later.completed = true := by
  rcases continues with rfl | rfl
  · exact done
  · rfl

theorem CommandRow.Continues.identity (continues : row.Continues later) :
    later.clientNodeId = row.clientNodeId ∧ later.idempotencyKey = row.idempotencyKey := by
  rcases continues with rfl | rfl <;> exact ⟨rfl, rfl⟩

theorem CommandRow.Continues.completed (continues : row.Continues later) (done : row.completed) :
    later.completed = true := by
  rcases continues with rfl | rfl
  · exact done
  · rfl

theorem FrameRow.continues_alter (selected : FrameRow → Bool) (row : FrameRow) :
    row.Continues (Table.alter selected FrameRow.settled row) := by
  unfold Table.alter
  split
  · exact .inr rfl
  · exact .inl rfl

theorem CommandRow.continues_alter (selected : CommandRow → Bool) (row : CommandRow) :
    row.Continues (Table.alter selected CommandRow.settled row) := by
  unfold Table.alter
  split
  · exact .inr rfl
  · exact .inl rfl

theorem FrameRow.clash_symm (left right : FrameRow) (clash : left.Clash right) : right.Clash left :=
  ⟨clash.1.symm, clash.2.imp Eq.symm Eq.symm⟩

theorem CommandRow.clash_symm (left right : CommandRow) (clash : left.Clash right) :
    right.Clash left :=
  ⟨clash.1.symm, clash.2.symm⟩

namespace ExchangeTables

def uplinkCursor (tables : ExchangeTables) (node : String) : Nat :=
  ((tables.cursorRow node).map (·.clientToServerAckSequence)).getD 0

structure Extends (before after : ExchangeTables) : Prop where
  frames : ∀ row ∈ before.frames.rows, ∃ later ∈ after.frames.rows, row.Continues later
  commands : ∀ row ∈ before.commands.rows, ∃ later ∈ after.commands.rows, row.Continues later
  cursor : ∀ node, before.uplinkCursor node ≤ after.uplinkCursor node

variable (tables : ExchangeTables)

theorem Extends.refl : Extends tables tables :=
  ⟨fun row member => ⟨row, member, .inl rfl⟩, fun row member => ⟨row, member, .inl rfl⟩,
    fun _ => le_refl _⟩

theorem Extends.trans {before middle after : ExchangeTables} (first : Extends before middle)
    (second : Extends middle after) : Extends before after := by
  constructor
  · intro row member
    obtain ⟨next, nextIn, toNext⟩ := first.frames row member
    obtain ⟨later, laterIn, toLater⟩ := second.frames next nextIn
    exact ⟨later, laterIn, toNext.trans toLater⟩
  · intro row member
    obtain ⟨next, nextIn, toNext⟩ := first.commands row member
    obtain ⟨later, laterIn, toLater⟩ := second.commands next nextIn
    exact ⟨later, laterIn, toNext.trans toLater⟩
  · intro node
    exact (first.cursor node).trans (second.cursor node)

theorem uplinkCursor_of_row {tables : ExchangeTables} {node : String} {row : CursorRow}
    (found : tables.cursorRow node = some row) :
    tables.uplinkCursor node = row.clientToServerAckSequence := by
  simp [uplinkCursor, found]

theorem cursorRow_raise (node other : String) (up down : Nat) :
    (raiseCursors tables node up down).cursorRow other =
      if other = node then (tables.cursorRow other).map (CursorRow.raised up down)
      else tables.cursorRow other := by
  have updated := find_updateWhere tables.cursors (·.clientNodeId == node)
    (·.clientNodeId == other) (CursorRow.raised up down) (fun _ _ _ => ⟨id, id⟩)
    fun _ => rfl
  unfold cursorRow
  refine updated.trans ?_
  cases found : tables.cursors.find fun row => row.clientNodeId == other with
  | none => simp
  | some row =>
    have owner : row.clientNodeId = other := by
      simpa using (find_eq_some found).2
    by_cases same : other = node
    · simp [Table.alter, owner, same]
    · simp [Table.alter, owner, same]

theorem uplinkCursor_raise_self {tables : ExchangeTables} {node : String} {row : CursorRow}
    (found : tables.cursorRow node = some row) (up down : Nat) :
    (raiseCursors tables node up down).uplinkCursor node = max (tables.uplinkCursor node) up := by
  simp [uplinkCursor, cursorRow_raise, found, CursorRow.raised]

theorem uplinkCursor_raise_other {node other : String} (different : other ≠ node) (up down : Nat) :
    (raiseCursors tables node up down).uplinkCursor other = tables.uplinkCursor other := by
  simp [uplinkCursor, cursorRow_raise, different]

theorem raise_extends (node : String) (up down : Nat) :
    Extends tables (raiseCursors tables node up down) := by
  refine ⟨(Extends.refl tables).frames, (Extends.refl tables).commands, ?_⟩
  intro other
  by_cases same : other = node
  · subst other
    cases found : tables.cursorRow node with
    | none => simp [uplinkCursor, found]
    | some _ =>
      rw [uplinkCursor_raise_self found]
      exact le_max_left _ _
  · exact (uplinkCursor_raise_other tables same up down).ge

end ExchangeTables

variable {commandKey : Option String} {reserved : ExchangeTables} {sequence : Nat} {digest : String}
  {cursors : ClientExchangeCursors} {messageId : String} {completed : Bool}

namespace ClientRegistry

open ExchangeTables

variable {tables : ExchangeTables} {node : String}

theorem reserveFrame_ok
    (done : reserveFrame tables node sequence messageId digest = .ok (reserved, completed)) :
    Extends tables reserved ∧ reserved.cursors = tables.cursors ∧
      reserved.commands = tables.commands ∧
      ∃ row ∈ reserved.frames.rows, row.clientNodeId = node ∧ row.sequence = sequence := by
  obtain ⟨stored, found, done⟩ := bind_eq_ok.mp done
  obtain ⟨_, _, done⟩ := bind_eq_ok.mp done
  rw [okOr_eq_ok] at found
  cases done
  have placed := find_eq_some found
  simp only [Bool.and_eq_true, beq_iff_eq] at placed
  refine ⟨⟨?_, (Extends.refl tables).commands, fun _ => le_refl _⟩, rfl, rfl,
    stored, placed.1, placed.2⟩
  intro row member
  exact ⟨row, insertOrIgnore_keeps _ _ member, .inl rfl⟩

theorem reserveCommand_ok {key : String} {settled : Bool}
    (done : reserveCommand tables node key digest = .ok (reserved, settled)) :
    Extends tables reserved ∧ reserved.cursors = tables.cursors ∧ reserved.frames = tables.frames ∧
      ∃ row ∈ reserved.commands.rows, row.clientNodeId = node ∧ row.idempotencyKey = key ∧
        row.completed = settled := by
  obtain ⟨prior, found, done⟩ := bind_eq_ok.mp done
  obtain ⟨_, _, done⟩ := bind_eq_ok.mp done
  rw [okOr_eq_ok] at found
  cases done
  have placed := find_eq_some found
  simp only [Bool.and_eq_true, beq_iff_eq] at placed
  refine ⟨⟨(Extends.refl tables).frames, ?_, fun _ => le_refl _⟩, rfl, rfl,
    prior, placed.1, placed.2.1, placed.2.2, rfl⟩
  intro row member
  exact ⟨row, insertOrIgnore_keeps _ _ member, .inl rfl⟩

/-- What a successful reservation leaves: the frame's row, the row of the command
it carries, and an answer that covers a settled command. -/
structure Reserved (tables reserved : ExchangeTables) (node : String) (sequence : Nat)
    (commandKey : Option String) (completed : Bool) : Prop where
  extends_ : Extends tables reserved
  cursors : reserved.cursors = tables.cursors
  safe : sequence ≤ maxSafeInteger
  frame : ∃ row ∈ reserved.frames.rows, row.clientNodeId = node ∧ row.sequence = sequence
  command : ∀ key, commandKey = some key → ∃ row ∈ reserved.commands.rows,
    row.clientNodeId = node ∧ row.idempotencyKey = key ∧
      (row.completed = true → completed = true)

theorem reserveExchangeFrame_ok
    (done : reserveExchangeFrame tables node sequence messageId digest commandKey =
      .ok (reserved, completed)) : Reserved tables reserved node sequence commandKey completed := by
  obtain ⟨_, _, done⟩ := bind_eq_ok.mp done
  obtain ⟨_, safe, done⟩ := bind_eq_ok.mp done
  rw [validateSequence, refuse_eq_ok, not_lt] at safe
  obtain ⟨⟨_, _⟩, frameStep, done⟩ := bind_eq_ok.mp done
  obtain ⟨extended, cursors, _, row, rowIn, placed⟩ := reserveFrame_ok frameStep
  cases commandKey with
  | none =>
    cases done
    exact ⟨extended, cursors, safe, ⟨row, rowIn, placed⟩, by simp⟩
  | some _ =>
    obtain ⟨⟨_, _⟩, keyStep, done⟩ := bind_eq_ok.mp done
    obtain ⟨rfl, answer⟩ := Prod.mk.inj (Except.ok.inj done)
    obtain ⟨extended', cursors', frames, command, commandIn, owner, named, state⟩ :=
      reserveCommand_ok keyStep
    refine ⟨extended.trans extended', cursors'.trans cursors, safe, ?_, ?_⟩
    · exact ⟨row, frames ▸ rowIn, placed⟩
    · intro _ same
      cases same
      refine ⟨command, commandIn, owner, named, ?_⟩
      intro finished
      rw [← answer, ← state, finished, Bool.or_true]

structure Completed (tables settled : ExchangeTables) (node : String) (sequence : Nat)
    (commandKey : Option String) : Prop where
  extends_ : Extends tables settled
  cursor : ∀ row, tables.cursorRow node = some row →
    settled.cursorRow node = some { row with
      clientToServerAckSequence := max row.clientToServerAckSequence sequence }
  others : ∀ other, other ≠ node → settled.uplinkCursor other = tables.uplinkCursor other
  frame : ∃ row ∈ settled.frames.rows, row.clientNodeId = node ∧ row.sequence = sequence ∧
    row.completed = true
  command : ∀ key, commandKey = some key → ∀ row ∈ tables.commands.rows,
    row.clientNodeId = node → row.idempotencyKey = key → row.settled ∈ settled.commands.rows

theorem settleFrame_ok {settled : ExchangeTables}
    (done : settleFrame tables node sequence commandKey = .ok settled) :
    Completed tables settled node sequence commandKey := by
  obtain ⟨_, _, done⟩ := bind_eq_ok.mp done
  obtain ⟨_, reserved, done⟩ := bind_eq_ok.mp done
  rw [refuse_eq_ok] at reserved
  obtain ⟨row, found⟩ := Option.ne_none_iff_exists'.mp reserved
  have placed := find_eq_some found
  obtain rfl := Except.ok.inj done
  refine ⟨?_, ?_, ?_, ?_, ?_⟩
  · apply Extends.trans _ (raise_extends _ node sequence 0)
    refine ⟨?_, ?_, fun _ => le_refl _⟩
    · intro old member
      exact ⟨_, List.mem_map_of_mem member, FrameRow.continues_alter _ old⟩
    · intro old member
      exact ⟨_, List.mem_map_of_mem member, CommandRow.continues_alter _ old⟩
  · intro _ stored
    rw [cursorRow_raise, if_pos rfl]
    change (tables.cursorRow node).map _ = _
    rw [stored]
    simp [CursorRow.raised]
  · intro _ different
    rw [uplinkCursor_raise_other _ different]
    rfl
  · refine ⟨row.settled, List.mem_map.mpr ⟨row, placed.1, ?_⟩, ?_⟩
    · simp only [Table.alter, placed.2, if_true]
    · simpa [FrameRow.settled] using placed.2
  · rintro _ rfl command member owner named
    refine List.mem_map.mpr ⟨command, member, ?_⟩
    simp only [Table.alter, owner, named, beq_self_eq_true, Bool.and_self, if_true]

theorem completeExchangeFrame_ok {Rest : Type} {store settled : ClientStore Rest}
    {reply : Option (ClientDownlinkAppend × String)}
    (done : completeExchangeFrameWithReply store node sequence commandKey reply = .ok settled) :
    Completed store.toExchangeTables settled.toExchangeTables node sequence commandKey := by
  obtain ⟨replied, answered, done⟩ := bind_eq_ok.mp done
  obtain ⟨_, completed, done⟩ := bind_eq_ok.mp done
  have same : replied.toExchangeTables = store.toExchangeTables := by
    cases reply with
    | none => rw [Except.ok.inj answered]
    | some _ =>
      iterate 6 obtain ⟨_, _, answered⟩ := bind_eq_ok.mp answered
      rw [← Except.ok.inj answered]
  rw [same] at completed
  cases done
  exact settleFrame_ok completed

theorem advanceExchangeCursors_ok {raised : ExchangeTables} {up down : Nat}
    (done : advanceExchangeCursors tables node up down = .ok (raised, cursors)) :
    raised = raiseCursors tables node up down := by
  iterate 6 obtain ⟨_, _, done⟩ := bind_eq_ok.mp done
  exact (Prod.mk.inj (Except.ok.inj done)).1.symm

theorem exchangeCursors_ok (done : exchangeCursors tables node = .ok (some cursors)) :
    (cursors.clientToServerAckSequence ≤ maxSafeInteger ∧
      cursors.serverToClientAckSequence ≤ maxSafeInteger) ∧
      tables.cursorRow node = some ⟨node, cursors.clientToServerAckSequence,
        cursors.serverToClientAckSequence⟩ := by
  simp only [exchangeCursors, validateClientNodeId, validateCrockfordId, refuse_bind_eq_ok,
    loadExchangeCursors] at done
  cases found : tables.cursorRow node with
  | none => simp [found] at done
  | some row =>
    simp only [found, fromSqlInteger, refuse_bind_eq_ok, not_lt] at done
    obtain ⟨_, up, down, success⟩ := done
    have owner : row.clientNodeId = node := by simpa using (find_eq_some found).2
    have same := Option.some.inj (Except.ok.inj success)
    subst same
    exact ⟨⟨up, down⟩, by rw [← owner]⟩

end ClientRegistry

end WinWinCode.Storage
