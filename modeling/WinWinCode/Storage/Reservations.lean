import WinWinCode.Storage.ExchangeLedger

/-!
When the reservation of an uplink frame succeeds. A frame asks for a position, a
message id and possibly a command key of its node; the reservation succeeds
exactly when every stored row it meets there says the same, and afterwards the
tables admit what they admitted before and the new reservation agrees with.
-/

namespace WinWinCode.Storage

open Fallible Tables Text Table Option

/-- A stored row that meets a wanted one is the same frame. -/
def FrameRow.Agrees (stored wanted : FrameRow) : Prop :=
  stored.Clash wanted → stored.sequence = wanted.sequence ∧
    stored.messageId = wanted.messageId ∧ stored.payloadDigest = wanted.payloadDigest

/-- A stored command under the same key has the same payload. -/
def CommandRow.Agrees (stored wanted : CommandRow) : Prop :=
  stored.Clash wanted → stored.payloadDigest = wanted.payloadDigest

instance (stored wanted : FrameRow) : Decidable (stored.Agrees wanted) :=
  inferInstanceAs (Decidable (_ → _))

instance (stored wanted : CommandRow) : Decidable (stored.Agrees wanted) :=
  inferInstanceAs (Decidable (_ → _))

/-- What one uplink frame asks the tables to reserve. -/
structure Reservation where
  clientNodeId : String
  sequence : Nat
  (messageId payloadDigest : String)
  commandKey : Option String

namespace Reservation

def frame (wanted : Reservation) : FrameRow :=
  { clientNodeId := wanted.clientNodeId, sequence := wanted.sequence,
    messageId := wanted.messageId, payloadDigest := wanted.payloadDigest }

def command (wanted : Reservation) (key : String) : CommandRow :=
  { clientNodeId := wanted.clientNodeId, idempotencyKey := key,
    payloadDigest := wanted.payloadDigest }

def Compatible (earlier later : Reservation) : Prop :=
  earlier.frame.Agrees later.frame ∧
    ∀ key ∈ earlier.commandKey, ∀ other ∈ later.commandKey,
      (earlier.command key).Agrees (later.command other)

def Admitted (tables : ExchangeTables) (wanted : Reservation) : Prop :=
  (∀ row ∈ tables.frames.rows, row.Agrees wanted.frame) ∧
    ∀ key ∈ wanted.commandKey, ∀ row ∈ tables.commands.rows, row.Agrees (wanted.command key)

/-- Tables that took a reservation in: they admit what they admitted before and
what the reservation agrees with. -/
def Absorbed (wanted : Reservation) (tables absorbed : ExchangeTables) : Prop :=
  ∀ later : Reservation,
    later.Admitted absorbed ↔ later.Admitted tables ∧ wanted.Compatible later

end Reservation

variable {completed : Bool}

namespace ClientRegistry

section Frames
variable {tables reserved : ExchangeTables} {node messageId digest : String} {sequence : Nat}

theorem reserveFrame_succeeds
    (free : ∀ row ∈ tables.frames.rows, row.Agrees ⟨node, sequence, messageId, digest, false⟩) :
    ∃ reserved completed,
      reserveFrame tables node sequence messageId digest = .ok (reserved, completed) := by
  let kept : ExchangeTables := { tables with
    frames := tables.frames.insertOrIgnore ⟨node, sequence, messageId, digest, false⟩ }
  have present : ∃ row ∈ kept.frames.rows, row.clientNodeId = node ∧ row.sequence = sequence := by
    rw [insertOrIgnore_rows]
    by_cases met : ∃ kept ∈ tables.frames.rows,
        kept.Clash ⟨node, sequence, messageId, digest, false⟩
    · rw [if_pos met]
      obtain ⟨kept, member, clash⟩ := met
      exact ⟨kept, member, clash.1, (free kept member clash).1⟩
    · rw [if_neg met]
      exact ⟨_, List.mem_append_right _ (List.mem_singleton.mpr rfl), rfl, rfl⟩
  obtain ⟨_, rowIn, owner, position⟩ := present
  have located : ∃ stored, kept.frameRow node sequence = some stored :=
    find_isSome rowIn (by simp [owner, position])
  obtain ⟨stored, found⟩ := located
  have placed := find_eq_some found
  simp only [Bool.and_eq_true, beq_iff_eq] at placed
  refine ⟨kept, stored.completed, ?_⟩
  simp only [reserveFrame, okOr_bind_eq_ok, refuse_bind_eq_ok, not_or, not_not]
  refine ⟨stored, found, ?_, rfl⟩
  rcases mem_insertOrIgnore placed.1 with old | new
  · exact (free stored old ⟨placed.2.1, .inl placed.2.2⟩).2
  · rw [new]
    exact ⟨rfl, rfl⟩

theorem reserveFrame_rows
    (done : reserveFrame tables node sequence messageId digest = .ok (reserved, completed)) :
    (∀ row ∈ tables.frames.rows, row.Agrees ⟨node, sequence, messageId, digest, false⟩) ∧
      ∀ later : FrameRow, (∀ row ∈ reserved.frames.rows, row.Agrees later) ↔
        (∀ row ∈ tables.frames.rows, row.Agrees later) ∧
          FrameRow.Agrees ⟨node, sequence, messageId, digest, false⟩ later := by
  simp only [reserveFrame, okOr_bind_eq_ok, refuse_bind_eq_ok, not_or, not_not] at done
  obtain ⟨stored, found, ⟨rfl, rfl⟩, success⟩ := done
  cases success
  have placed := find_eq_some found
  simp only [Bool.and_eq_true, beq_iff_eq] at placed
  refine ⟨fun row rowIn clash => ?_, fun later => ⟨fun agree => ?_, ?_⟩⟩
  · -- a row that is met stops the insertion, so the one found was stored before
    have kept := placed.1
    rw [insertOrIgnore_rows, if_pos ⟨row, rowIn, clash⟩] at kept
    have meets : row.Clash stored := ⟨clash.1.trans placed.2.1.symm, by
      rw [placed.2.2]
      exact clash.2⟩
    rw [tables.frames.eq_of_clash FrameRow.clash_symm rowIn kept meets]
    exact ⟨placed.2.2, rfl, rfl⟩
  · refine ⟨fun row member => agree row (insertOrIgnore_keeps _ _ member), ?_⟩
    have own := agree stored placed.1
    simpa only [FrameRow.Agrees, FrameRow.Clash, placed.2.1, placed.2.2] using own
  · rintro ⟨old, own⟩ row member
    rcases mem_insertOrIgnore member with before | rfl
    · exact old row before
    · exact own

end Frames

section Commands
variable {tables reserved : ExchangeTables} {node key digest : String}

theorem reserveCommand_succeeds
    (free : ∀ row ∈ tables.commands.rows, row.Agrees ⟨node, key, digest, false⟩) :
    ∃ reserved settled, reserveCommand tables node key digest = .ok (reserved, settled) := by
  let kept : ExchangeTables := { tables with
    commands := tables.commands.insertOrIgnore ⟨node, key, digest, false⟩ }
  have present : ∃ row ∈ kept.commands.rows,
      row.clientNodeId = node ∧ row.idempotencyKey = key := by
    rw [insertOrIgnore_rows]
    by_cases met : ∃ kept ∈ tables.commands.rows, kept.Clash ⟨node, key, digest, false⟩
    · rw [if_pos met]
      exact met
    · rw [if_neg met]
      exact ⟨_, List.mem_append_right _ (List.mem_singleton.mpr rfl), rfl, rfl⟩
  obtain ⟨_, rowIn, owner, named⟩ := present
  have located : ∃ prior, kept.commandRow node key = some prior :=
    find_isSome rowIn (by simp [owner, named])
  obtain ⟨prior, found⟩ := located
  have placed := find_eq_some found
  simp only [Bool.and_eq_true, beq_iff_eq] at placed
  refine ⟨kept, prior.completed, ?_⟩
  simp only [reserveCommand, okOr_bind_eq_ok, refuse_bind_eq_ok, not_not]
  refine ⟨prior, found, ?_, rfl⟩
  rcases mem_insertOrIgnore placed.1 with old | new
  · exact free prior old placed.2
  · rw [new]

theorem reserveCommand_rows {settled : Bool}
    (done : reserveCommand tables node key digest = .ok (reserved, settled)) :
    (∀ row ∈ tables.commands.rows, row.Agrees ⟨node, key, digest, false⟩) ∧
      ∀ later : CommandRow, (∀ row ∈ reserved.commands.rows, row.Agrees later) ↔
        (∀ row ∈ tables.commands.rows, row.Agrees later) ∧
          CommandRow.Agrees ⟨node, key, digest, false⟩ later := by
  simp only [reserveCommand, okOr_bind_eq_ok, refuse_bind_eq_ok, not_not] at done
  obtain ⟨prior, found, rfl, success⟩ := done
  cases success
  have placed := find_eq_some found
  simp only [Bool.and_eq_true, beq_iff_eq] at placed
  refine ⟨fun row rowIn clash => ?_, fun later => ⟨fun agree => ?_, ?_⟩⟩
  · have kept := placed.1
    rw [insertOrIgnore_rows, if_pos ⟨row, rowIn, clash⟩] at kept
    have meets : row.Clash prior := ⟨clash.1.trans placed.2.1.symm, clash.2.trans placed.2.2.symm⟩
    rw [tables.commands.eq_of_clash CommandRow.clash_symm rowIn kept meets]
  · refine ⟨fun row member => agree row (insertOrIgnore_keeps _ _ member), ?_⟩
    have own := agree prior placed.1
    simpa only [CommandRow.Agrees, CommandRow.Clash, placed.2.1, placed.2.2] using own
  · rintro ⟨old, own⟩ row member
    rcases mem_insertOrIgnore member with before | rfl
    · exact old row before
    · exact own

end Commands

section Whole
variable {tables reserved settled : ExchangeTables}

theorem reserveExchangeFrame_admits (wanted : Reservation)
    (done : reserveExchangeFrame tables wanted.clientNodeId wanted.sequence wanted.messageId
      wanted.payloadDigest wanted.commandKey = .ok (reserved, completed)) :
    wanted.Admitted tables ∧ wanted.Absorbed tables reserved := by
  simp only [reserveExchangeFrame, validateClientNodeId, validateCrockfordId, validateSequence,
    refuse_bind_eq_ok] at done
  obtain ⟨_, _, done⟩ := done
  obtain ⟨⟨_, _⟩, frameStep, done⟩ := bind_eq_ok.mp done
  obtain ⟨frames, rows⟩ := reserveFrame_rows frameStep
  have commands := (reserveFrame_ok frameStep).2.2.1
  cases carried : wanted.commandKey with
  | none =>
    rw [carried] at done
    cases done
    refine ⟨⟨frames, by simp [carried]⟩, fun later => ?_⟩
    simp only [Reservation.Admitted, Reservation.Compatible, rows, commands, carried,
      mem_def, reduceCtorEq, false_implies, implies_true, and_true]
    exact and_right_comm
  | some _ =>
    rw [carried] at done
    obtain ⟨⟨keyed, _⟩, keyStep, success⟩ := bind_eq_ok.mp done
    cases success
    obtain ⟨keys, keyRows⟩ := reserveCommand_rows keyStep
    have kept := (reserveCommand_ok keyStep).2.2.1
    rw [commands] at keys
    simp only [commands] at keyRows
    constructor
    · refine ⟨frames, ?_⟩
      intro other same
      rw [carried] at same
      rw [← some.inj same]
      exact keys
    · intro _
      simp only [Reservation.Admitted, Reservation.Compatible, kept, rows, keyRows, carried,
        mem_some_iff, forall_eq']
      constructor
      · rintro ⟨⟨old, own⟩, keyed⟩
        exact ⟨⟨old, fun other named => (keyed other named).1⟩, own,
          fun other named => (keyed other named).2⟩
      · rintro ⟨⟨old, oldKeys⟩, own, ownKeys⟩
        exact ⟨⟨old, own⟩, fun other named => ⟨oldKeys other named, ownKeys other named⟩⟩

theorem reserveExchangeFrame_succeeds (wanted : Reservation)
    (canonical : isCanonicalId "cnd_" wanted.clientNodeId)
    (safe : wanted.sequence ≤ maxSafeInteger) (admitted : wanted.Admitted tables) :
    ∃ reserved completed, reserveExchangeFrame tables wanted.clientNodeId wanted.sequence
      wanted.messageId wanted.payloadDigest wanted.commandKey = .ok (reserved, completed) := by
  obtain ⟨framed, framedDone, frameStep⟩ := reserveFrame_succeeds admitted.1
  simp only [reserveExchangeFrame, validateClientNodeId, validateCrockfordId, validateSequence,
    refuse_bind_eq_ok, canonical, Bool.true_eq_false, not_false_eq_true, not_lt, safe,
    true_and]
  cases carried : wanted.commandKey with
  | none => exact ⟨framed, framedDone, bind_eq_ok.mpr ⟨_, frameStep, rfl⟩⟩
  | some key =>
    have free := admitted.2 key carried
    rw [← (reserveFrame_ok frameStep).2.2.1] at free
    obtain ⟨keyed, _, keyStep⟩ := reserveCommand_succeeds free
    exact ⟨keyed, _, bind_eq_ok.mpr ⟨_, frameStep, bind_eq_ok.mpr ⟨_, keyStep, rfl⟩⟩⟩

theorem agrees_alter (selected : FrameRow → Bool) (row later : FrameRow) :
    (Table.alter selected FrameRow.settled row).Agrees later ↔ row.Agrees later := by
  unfold Table.alter
  split
  · rfl
  · rfl

theorem agrees_alterCommand (selected : CommandRow → Bool) (row later : CommandRow) :
    (Table.alter selected CommandRow.settled row).Agrees later ↔ row.Agrees later := by
  unfold Table.alter
  split
  · rfl
  · rfl

theorem settleFrame_admits {node : String} {sequence : Nat} {commandKey : Option String}
    (done : settleFrame tables node sequence commandKey = .ok settled) (later : Reservation) :
    later.Admitted settled ↔ later.Admitted tables := by
  simp only [settleFrame, sqlInteger, refuse_bind_eq_ok] at done
  obtain ⟨_, _, success⟩ := done
  cases success
  simp only [Reservation.Admitted, raiseCursors, updateWhere_rows, List.forall_mem_map,
    agrees_alter, agrees_alterCommand]

theorem settleFrame_succeeds {node : String} {sequence : Nat} (commandKey : Option String)
    (safe : sequence ≤ maxSafeInteger)
    (present : ∃ row ∈ tables.frames.rows, row.clientNodeId = node ∧ row.sequence = sequence) :
    ∃ settled, settleFrame tables node sequence commandKey = .ok settled := by
  obtain ⟨_, member, owner, position⟩ := present
  have located : ∃ stored, tables.frameRow node sequence = some stored :=
    find_isSome member (by simp [owner, position])
  obtain ⟨_, found⟩ := located
  have small : sequence ≤ sqlIntegerMax := safe.trans (by decide)
  simp only [settleFrame, sqlInteger, refuse_bind_eq_ok, found, reduceCtorEq, not_false_eq_true,
    not_lt, small, true_and]
  exact ⟨_, rfl⟩

end Whole

end ClientRegistry

end WinWinCode.Storage
