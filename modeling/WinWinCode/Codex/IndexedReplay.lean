import WinWinCode.Codex.RuntimeReplayStore
import WinWinCode.ExecutionPort.ReplayRuns

/-!
Reading a stream through its index and reading it whole. The tables are looked at
one stream at a time: `StreamRows` is what the tables hold for a stream, and every
operation touches the rows of its own stream only. What the store writes keeps the
rows of each stream an image of a sound snapshot; from such rows a selected read
shows of the stream what the query asks for, and the full read passes its checks,
so the machine cannot tell the two apart.
-/

namespace WinWinCode.Codex

open Fallible Counting Programs Tables ExecutionPort List Table Program ReplayTables ReplaySnapshot
open Runs

def RuntimeReplayFrameRow.decoded (row : RuntimeReplayFrameRow) : ReplayFrame :=
  ⟨row.eventId, row.sequence, row.digest, row.frame⟩

def frameRow (stream : ReplayStreamKey) (frame : ReplayFrame) : RuntimeReplayFrameRow :=
  ⟨stream, frame.sequence, frame.eventId, frame.digest, frame.frame⟩

@[simp] theorem frameRow_decoded (stream : ReplayStreamKey) (frame : ReplayFrame) :
    (frameRow stream frame).decoded = frame := rfl

structure StreamRows where
  legacy : Option RuntimeReplayRow
  head : Option RuntimeReplayHeadRow
  frames : List RuntimeReplayFrameRow
  compacted : Option Nat

def ReplayTables.rowsOf (tables : ReplayTables) (stream : ReplayStreamKey) : StreamRows :=
  ⟨tables.runtimeReplay.find (·.streamKey == stream), tables.headOf stream,
    tables.framesOf stream, tables.compactedThrough stream⟩

variable {rows : StreamRows} {head : RuntimeReplayHeadRow}

namespace StreamRows

def indexed (rows : StreamRows) (head : RuntimeReplayHeadRow) : ReplaySnapshot :=
  ⟨head.ackSequence, head.highestSequence, rows.frames.map RuntimeReplayFrameRow.decoded⟩

/-- The stream that the rows stand for, moved to the index or not. -/
def retained (rows : StreamRows) : ReplaySnapshot :=
  match rows.head with
  | some head => rows.indexed head
  | none =>
    match rows.legacy with
    | some old => old.snapshot.getD {}
    | none => {}

structure Indexed (rows : StreamRows) (head : RuntimeReplayHeadRow) : Prop where
  sound : (rows.indexed head).Sound
  fits : head.highestSequence ≤ integerMax
  compacted : rows.frames = [] → 0 < head.highestSequence →
    rows.compacted = some head.highestSequence

def Kept (rows : StreamRows) : Prop :=
  match rows.head with
  | some head => rows.Indexed head
  | none => rows.frames = [] ∧ rows.compacted = none

theorem Kept.indexed (kept : rows.Kept) (found : rows.head = some head) : rows.Indexed head := by
  unfold Kept at kept
  rwa [found] at kept

theorem Indexed.kept (indexed : rows.Indexed head) (found : rows.head = some head) : rows.Kept := by
  unfold Kept
  rwa [found]

theorem Kept.unindexed (kept : rows.Kept) (missing : rows.head = none) :
    rows.frames = [] ∧ rows.compacted = none := by
  unfold Kept at kept
  rwa [missing] at kept

theorem retained_indexed (found : rows.head = some head) : rows.retained = rows.indexed head := by
  unfold retained
  rw [found]

end StreamRows

variable {snapshot : ReplaySnapshot} {query : ReplayReadQuery} {present : Bool}
  {stream : ReplayStreamKey} {sequence expected : Nat} {middle : ReplayTables}
  {frame : ReplayFrame}

namespace ReplayTables

def Kept (tables : ReplayTables) : Prop := ∀ stream, (tables.rowsOf stream).Kept

/-- No snapshot of an older binary is left. -/
def Current (tables : ReplayTables) : Prop := ∀ stream, (tables.rowsOf stream).legacy = none

def retained (tables : ReplayTables) (stream : ReplayStreamKey) : ReplaySnapshot :=
  (tables.rowsOf stream).retained

/-- The tables after a write that leaves one stream as the snapshot. -/
structure Rewritten (tables : ReplayTables) (stream : ReplayStreamKey) (snapshot : ReplaySnapshot)
    (next : ReplayTables) : Prop where
  kept : next.Kept
  retained : next.retained = Function.update tables.retained stream snapshot
  current : tables.Current → next.Current

section Writes
variable {tables next : ReplayTables} {written : StreamRows}

theorem rewritten_of_rows (kept : tables.Kept)
    (rows : next.rowsOf = Function.update tables.rowsOf stream written) (here : written.Kept)
    (legacy : (tables.rowsOf stream).legacy = none → written.legacy = none) :
    Rewritten tables stream written.retained next where
  kept := by
    rw [Kept, rows]
    exact (Function.forall_update_iff tables.rowsOf fun _ => StreamRows.Kept).mpr
      ⟨here, fun other _ => kept other⟩
  retained := by
    change StreamRows.retained ∘ next.rowsOf = _
    rw [rows, Function.comp_update]
    rfl
  current current := by
    rw [Current, rows]
    exact (Function.forall_update_iff tables.rowsOf fun _ rows => rows.legacy = none).mpr
      ⟨legacy (current stream), fun other _ => current other⟩

theorem replayInteger_eq_ok {value result : Nat} :
    replayInteger value = .ok result ↔ value ≤ integerMax ∧ result = value := by
  rw [replayInteger, refuse_bind_eq_ok, pure_eq_ok, not_lt, eq_comm (a := value)]

theorem insertHead_rows {ack highest : Nat}
    (done : tables.insertHead stream ack highest = .ok next) :
    tables.headOf stream = none ∧ next.rowsOf = Function.update tables.rowsOf stream
      { tables.rowsOf stream with head := some ⟨stream, ack, highest⟩ } := by
  simp only [insertHead, eq_ok, exists_const] at done
  obtain ⟨_, head, inserted, rfl⟩ := done
  obtain ⟨missing, found⟩ := find_insert_keyed (·.streamKey) inserted fun _ same => same
  refine ⟨missing, Function.eq_update_iff.mpr ⟨?_, fun other apart => ?_⟩⟩
  · simp only [rowsOf, headOf, found, if_true]
    rfl
  · simp only [rowsOf, headOf, found, if_neg (Ne.symm apart)]
    rfl

theorem insertRuntimeFrame_rows (done : tables.insertRuntimeFrame stream frame = .ok next) :
    (frame.sequence ≠ 0 ∧ frame.eventId ≠ "" ∧ frame.digest ≠ "") ∧
      (∀ row ∈ tables.framesOf stream, row.eventId ≠ frame.eventId) ∧
      next.rowsOf = Function.update tables.rowsOf stream { tables.rowsOf stream with
        frames := (tables.rowsOf stream).frames ++ [frameRow stream frame] } := by
  simp only [insertRuntimeFrame, eq_ok, replayInteger_eq_ok, exists_const, not_or] at done
  obtain ⟨named, _, ⟨_, rfl⟩, _, inserted, rfl⟩ := done
  obtain ⟨free, rows⟩ := insert_eq_some.mp inserted
  refine ⟨named, fun row member same => ?_, Function.eq_update_iff.mpr ⟨?_, fun other apart => ?_⟩⟩
  · rw [framesOf, mem_filter, beq_iff_eq] at member
    exact free ⟨row, member.1, member.2, .inr same⟩
  · simp [rowsOf, framesOf, headOf, compactedThrough, rows, filter_append, frameRow]
  · have missed : (stream == other) = false := beq_false_of_ne (Ne.symm apart)
    simp [rowsOf, framesOf, headOf, compactedThrough, rows, filter_append, missed]

theorem insertRuntimeFrames_rows {frames : List ReplayFrame}
    (done : frames.foldlM (fun tables frame => tables.insertRuntimeFrame stream frame) tables =
      .ok next) : next.rowsOf = Function.update tables.rowsOf stream { tables.rowsOf stream with
        frames := (tables.rowsOf stream).frames ++ frames.map (frameRow stream) } := by
  induction frames generalizing tables with
  | nil =>
    rw [← Except.ok.inj done]
    simp
  | cons frame _ ih =>
    rw [foldlM_cons, bind_eq_ok] at done
    obtain ⟨middle, first, others⟩ := done
    simp [ih others, (insertRuntimeFrame_rows first).2.2]

theorem deleteLegacy_rows (tables : ReplayTables) (stream : ReplayStreamKey) :
    (tables.deleteLegacy stream).rowsOf = Function.update tables.rowsOf stream
      { tables.rowsOf stream with legacy := none } := by
  refine Function.eq_update_iff.mpr ⟨?_, fun other apart => ?_⟩
  · simp only [rowsOf, deleteLegacy, find_deleteWhere_self]
    rfl
  · have kept : (tables.deleteLegacy stream).runtimeReplay.find (·.streamKey == other) =
        tables.runtimeReplay.find (·.streamKey == other) := by
      apply find_deleteWhere
      intro _ asked
      rw [beq_iff_eq] at asked
      simpa [asked] using apart
    simp only [rowsOf, kept]
    rfl

theorem insertCompaction_rows {through : Nat}
    {compaction : Table LegacyCompactionRow CompactionClash}
    (inserted : tables.compaction.insert ⟨stream, through⟩ = some compaction) :
    rowsOf { tables with compaction := compaction } = Function.update tables.rowsOf stream
      { tables.rowsOf stream with compacted := some through } := by
  have found := (find_insert_keyed (·.streamKey) inserted fun _ same => same).2
  refine Function.eq_update_iff.mpr ⟨?_, fun other apart => ?_⟩
  · simp only [rowsOf, compactedThrough, found, if_true]
    rfl
  · simp only [rowsOf, compactedThrough, found, if_neg (Ne.symm apart)]
    rfl

theorem updateHead_rows (tables : ReplayTables) (stream : ReplayStreamKey)
    (ack highest : RuntimeReplayHeadRow → Nat) :
    (tables.updateHead stream ack highest).rowsOf = Function.update tables.rowsOf stream
      { tables.rowsOf stream with
        head := (tables.rowsOf stream).head.map fun row =>
          ⟨row.streamKey, ack row, highest row⟩ } := by
  have found : ∀ other, (tables.updateHead stream ack highest).headOf other =
      (tables.headOf other).map (Table.alter (·.streamKey == stream)
        fun row => ⟨row.streamKey, ack row, highest row⟩) :=
    fun other => find_updateWhere tables.head (·.streamKey == stream) (·.streamKey == other)
      (fun row => ⟨row.streamKey, ack row, highest row⟩) (fun _ _ _ => ⟨id, id⟩) fun _ => rfl
  have named : ∀ other row, tables.headOf other = some row → row.streamKey = other :=
    fun _ _ present => beq_iff_eq.mp (find_eq_some present).2
  refine Function.eq_update_iff.mpr ⟨?_, fun other apart => ?_⟩
  · have here : (tables.updateHead stream ack highest).headOf stream =
        (tables.headOf stream).map fun row => ⟨row.streamKey, ack row, highest row⟩ := by
      rw [found]
      exact Option.map_congr fun row present => if_pos (by simp [named stream row present])
    simp only [rowsOf, here]
    rfl
  · have kept : (tables.updateHead stream ack highest).headOf other = tables.headOf other := by
      rw [found]
      refine (Option.map_congr fun row present => if_neg ?_).trans Option.map_id'
      simpa [named other row present] using apart
    simp only [rowsOf, kept]
    rfl

theorem migrate_rows (kept : tables.Kept) (done : tables.migrate stream snapshot = .ok next) :
    snapshot.highestSequence ≤ integerMax ∧ next.rowsOf = Function.update tables.rowsOf stream {
        legacy := none
        head := some ⟨stream, snapshot.ackSequence, snapshot.highestSequence⟩
        frames := snapshot.events.map (frameRow stream)
        compacted := if snapshot.events = [] ∧ 0 < snapshot.highestSequence then
          some snapshot.highestSequence else none } := by
  simp only [migrate, eq_ok, replayInteger_eq_ok] at done
  obtain ⟨_, ⟨_, rfl⟩, _, ⟨fits, rfl⟩, headed, inserted, framed, filled, done⟩ := done
  obtain ⟨missing, rows⟩ := insertHead_rows inserted
  obtain ⟨noFrames, noCompaction⟩ := (kept stream).unindexed missing
  have rows' := insertRuntimeFrames_rows filled
  refine ⟨fits, ?_⟩
  split at done
  · rename_i empty
    simp only [eq_ok, replayInteger_eq_ok] at done
    obtain ⟨_, ⟨_, rfl⟩, compaction, compacted, rfl⟩ := done
    simp [deleteLegacy_rows, insertCompaction_rows compacted, rows', rows, noFrames, if_pos empty]
  · rename_i filledOr
    rw [pure_eq_ok] at done
    subst done
    simp [deleteLegacy_rows, rows', rows, noFrames, noCompaction, if_neg filledOr]

/-- Ensuring a stream moves its old snapshot and changes no stream. -/
structure Ensured (tables : ReplayTables) (stream : ReplayStreamKey) (next : ReplayTables)
    (present : Bool) : Prop where
  rewritten : Rewritten tables stream (tables.retained stream) next
  rows : next.rowsOf = Function.update tables.rowsOf stream (next.rowsOf stream)
  legacy : (tables.rowsOf stream).legacy = none → (next.rowsOf stream).legacy = none
  headed : present = true → ∃ head, next.headOf stream = some head
  absent : present = false → next = tables ∧ tables.headOf stream = none ∧
    tables.retained stream = {}

namespace Ensured

variable (ensured : Ensured tables stream next present)
include ensured

theorem kept : next.Kept := ensured.rewritten.kept

theorem retained : next.retained = tables.retained := by
  rw [ensured.rewritten.retained, Function.update_eq_self]

theorem indexed (found : next.headOf stream = some head) : (next.rowsOf stream).Indexed head ∧
    tables.retained stream = (next.rowsOf stream).indexed head := by
  refine ⟨(ensured.kept stream).indexed found, ?_⟩
  rw [← ensured.retained, ReplayTables.retained]
  exact StreamRows.retained_indexed found

end Ensured

theorem ensureRuntimeReplay_spec (kept : tables.Kept)
    (done : tables.ensureRuntimeReplay stream = .ok (next, present)) :
    Ensured tables stream next present := by
  have still : Rewritten tables stream (tables.retained stream) tables :=
    ⟨kept, (Function.update_eq_self _ _).symm, id⟩
  have unmoved : tables.rowsOf = Function.update tables.rowsOf stream (tables.rowsOf stream) :=
    (Function.update_eq_self _ _).symm
  unfold ensureRuntimeReplay at done
  cases found : tables.headOf stream with
  | some head =>
    simp only [found, pure_eq_ok, Prod.mk.injEq] at done
    obtain ⟨rfl, rfl⟩ := done
    exact ⟨still, unmoved, id, fun _ => ⟨head, found⟩, fun no => nomatch no⟩
  | none =>
    simp only [found] at done
    cases legacy : tables.runtimeReplay.find (·.streamKey == stream) with
    | none =>
      simp only [legacy, pure_eq_ok, Prod.mk.injEq] at done
      obtain ⟨rfl, rfl⟩ := done
      refine ⟨still, unmoved, id, (fun no => nomatch no), fun _ => ⟨rfl, found, ?_⟩⟩
      simp only [retained, StreamRows.retained, rowsOf, found, legacy]
    | some _ =>
      simp only [legacy, eq_ok, mapError_eq_ok, Prod.mk.injEq] at done
      obtain ⟨snapshot, decoded, _, validated, migrated, moved, rfl, rfl⟩ := done
      have sound := (validate_eq_ok.mp validated).1
      obtain ⟨fits, rows⟩ := migrate_rows kept moved
      have before : tables.retained stream = snapshot := by
        simp only [retained, StreamRows.retained, rowsOf, found, legacy, decoded, Option.getD_some]
      have here := congrFun rows stream
      rw [Function.update_self] at here
      rw [← here] at rows
      have shown : (migrated.rowsOf stream).indexed
          ⟨stream, snapshot.ackSequence, snapshot.highestSequence⟩ = snapshot := by
        simp [StreamRows.indexed, here, Function.comp_def]
      have indexed : (migrated.rowsOf stream).Indexed
          ⟨stream, snapshot.ackSequence, snapshot.highestSequence⟩ := by
        refine ⟨shown.symm ▸ sound, fits, fun empty positive => ?_⟩
        simp only [here, map_eq_nil_iff] at empty ⊢
        rw [if_pos ⟨empty, positive⟩]
      have head : (migrated.rowsOf stream).head = some _ := congrArg StreamRows.head here
      have cleared := congrArg StreamRows.legacy here
      have rewritten := rewritten_of_rows kept rows (indexed.kept head) fun _ => cleared
      rw [StreamRows.retained_indexed head, shown, ← before] at rewritten
      exact ⟨rewritten, rows, fun _ => cleared, fun _ => ⟨_, head⟩, fun no => nomatch no⟩

end Writes

section Reads
variable {tables next : ReplayTables} (indexed : (tables.rowsOf stream).Indexed head)

include indexed in
theorem framesOf_numbered : Numbered RuntimeReplayFrameRow.sequence
      ((tables.rowsOf stream).indexed head).firstSequence (tables.framesOf stream) :=
  (numbered_comp ReplayFrame.sequence RuntimeReplayFrameRow.decoded).mp indexed.sound.numbered

include indexed in
theorem decodeRow_indexed {row : RuntimeReplayFrameRow} (member : row ∈ tables.framesOf stream) :
    decodeRow head.highestSequence row = .ok row.decoded := by
  have shown : row.decoded ∈ ((tables.rowsOf stream).indexed head).events :=
    List.mem_map_of_mem member
  have named := indexed.sound.named _ shown
  have nonempty := List.ne_nil_of_mem shown
  have highest := indexed.sound.highest_succ nonempty
  have started := indexed.sound.started
  rcases numbered_position ReplayFrame.sequence indexed.sound.numbered shown with
    ⟨position, value, found⟩
  have within := (List.getElem?_eq_some_iff.mp found).1
  change row.sequence = _ at value
  change head.highestSequence + 1 = _ at highest
  rw [decodeRow, refuse_bind_eq_ok]
  refine ⟨?_, rfl⟩
  rintro (_ | unnamed | undigested | _)
  · omega
  · exact named.1 unnamed
  · exact named.2 undigested
  · omega

include indexed in
theorem mapM_decodeRow {rows : List RuntimeReplayFrameRow}
    (members : rows ⊆ tables.framesOf stream) :
    rows.mapM (decodeRow head.highestSequence) = .ok (rows.map RuntimeReplayFrameRow.decoded) := by
  induction rows with
  | nil => rfl
  | cons _ _ ih =>
    have first := decodeRow_indexed indexed (members mem_cons_self)
    have others := ih (subset_of_cons_subset members)
    rw [mapM_cons, first, others]
    rfl

theorem tailOf_some {tail : RuntimeReplayFrameRow} (found : tables.tailOf stream = some tail) :
    tail ∈ tables.framesOf stream ∧ ∀ row ∈ tables.framesOf stream, row.sequence ≤ tail.sequence := by
  unfold tailOf at found
  have order := pairwise_insertionSort
    (fun left right : RuntimeReplayFrameRow => right.sequence ≤ left.sequence)
    (tables.framesOf stream)
  have same := perm_insertionSort
    (fun left right : RuntimeReplayFrameRow => right.sequence ≤ left.sequence)
    (tables.framesOf stream)
  generalize List.insertionSort
    (fun left right : RuntimeReplayFrameRow => right.sequence ≤ left.sequence)
    (tables.framesOf stream) = sorted at found order same
  cases sorted with
  | nil => cases found
  | cons first _ =>
    obtain rfl : first = tail := Option.some.inj found
    refine ⟨same.mem_iff.mp mem_cons_self, fun row member => ?_⟩
    rcases mem_cons.mp (same.mem_iff.mpr member) with rfl | later
    · exact le_refl _
    · exact rel_of_pairwise_cons order later

theorem tailOf_none (missing : tables.tailOf stream = none) : tables.framesOf stream = [] := by
  unfold tailOf at missing
  rw [head?_eq_none_iff] at missing
  have same := perm_insertionSort
    (fun left right : RuntimeReplayFrameRow => right.sequence ≤ left.sequence)
    (tables.framesOf stream)
  rw [missing] at same
  exact same.nil_eq.symm

theorem indexed_length (head : RuntimeReplayHeadRow) :
    ((tables.rowsOf stream).indexed head).events.length = (tables.framesOf stream).length :=
  length_map _

include indexed in
theorem framesOf_short :
    (tables.framesOf stream).length ≤ integerMax ∧ (tables.framesOf stream ≠ [] →
        ((tables.rowsOf stream).indexed head).firstSequence + (tables.framesOf stream).length =
          head.highestSequence + 1) := by
  have fits := indexed.fits
  have started := indexed.sound.started
  have counted : tables.framesOf stream ≠ [] →
      ((tables.rowsOf stream).indexed head).firstSequence + (tables.framesOf stream).length =
        head.highestSequence + 1 := by
    intro nonempty
    have shown : ((tables.rowsOf stream).indexed head).events ≠ [] := by
      intro empty
      exact nonempty (map_eq_nil_iff.mp empty)
    have highest := indexed.sound.highest_succ shown
    rw [indexed_length] at highest
    exact highest.symm
  refine ⟨?_, counted⟩
  by_cases nonempty : tables.framesOf stream = []
  · rw [nonempty]
    exact Nat.zero_le _
  · have := counted nonempty
    omega

include indexed in
theorem readRuntimeHead_indexed (found : tables.headOf stream = some head) :
    tables.readRuntimeHead stream = .ok ⟨head.ackSequence, head.highestSequence, []⟩ := by
  have ordered : ¬ head.highestSequence < head.ackSequence := not_lt.mpr indexed.sound.acknowledged
  simp only [readRuntimeHead, found, refuse_bind_eq_ok]
  refine ⟨ordered, ?_⟩
  cases last : tables.tailOf stream with
  | some tail =>
    obtain ⟨member, above⟩ := tailOf_some last
    have decoded := decodeRow_indexed indexed member
    rw [decodeRow, refuse_bind_eq_ok] at decoded
    simp only [not_or] at decoded
    obtain ⟨⟨nonzero, named, digested, _⟩, _⟩ := decoded
    -- The last frame carries the highest sequence, and the tail is at least that.
    have highest := (framesOf_short indexed).2 (ne_nil_of_mem member)
    have lastRow := getLast?_eq_some_getLast (ne_nil_of_mem member)
    have numbered := numbered_getLast? RuntimeReplayFrameRow.sequence
      (framesOf_numbered indexed) lastRow
    have reached := above _ (mem_of_getLast? lastRow)
    have exact_ : tail.sequence = head.highestSequence := by omega
    simp only [refuse_bind_eq_ok]
    refine ⟨?_, rfl⟩
    rintro (zero | different | unnamed | undigested)
    · exact nonzero zero
    · exact different exact_
    · exact named unnamed
    · exact digested undigested
  | none =>
    have empty := tailOf_none last
    have highest := indexed.sound.highest
    have same : head.highestSequence = head.ackSequence := by
      simpa [derivedHighest, StreamRows.indexed, rowsOf, empty] using highest
    simp only [refuse_bind_eq_ok]
    refine ⟨?_, rfl⟩
    rintro (different | ⟨positive, uncompacted⟩)
    · exact different same.symm
    · exact uncompacted (indexed.compacted empty positive)

theorem indexed_unwritten (stream : ReplayStreamKey) (frames : rows.frames = []) :
    rows.Indexed ⟨stream, 0, 0⟩ ∧ rows.indexed ⟨stream, 0, 0⟩ = {} := by
  have shown : rows.indexed ⟨stream, 0, 0⟩ = {} := by simp [StreamRows.indexed, frames]
  refine ⟨⟨?_, Nat.zero_le _, (fun _ positive => nomatch positive)⟩, shown⟩
  rw [shown]
  exact (complete_empty stream).sound

/-- An ensured stream is read through a head: its row, or the zero watermarks of a stream
that nobody wrote. -/
theorem Ensured.readHead (ensured : Ensured tables stream next present) :
    ∃ head, (next.rowsOf stream).Indexed head ∧
      next.readRuntimeHead stream = .ok ⟨head.ackSequence, head.highestSequence, []⟩ ∧
      tables.retained stream = (next.rowsOf stream).indexed head := by
  cases present with
  | true =>
    obtain ⟨head, found⟩ := ensured.headed rfl
    obtain ⟨indexed, shown⟩ := ensured.indexed found
    exact ⟨head, indexed, readRuntimeHead_indexed indexed found, shown⟩
  | false =>
    obtain ⟨rfl, missing, empty⟩ := ensured.absent rfl
    obtain ⟨frames, _⟩ := (ensured.kept stream).unindexed missing
    obtain ⟨indexed, shown⟩ := indexed_unwritten stream frames
    refine ⟨⟨stream, 0, 0⟩, indexed, ?_, empty.trans shown.symm⟩
    simp only [readRuntimeHead, missing]
    rfl

def pageOf (tables : ReplayTables) (stream : ReplayStreamKey) (head : RuntimeReplayHeadRow)
    (sequence maxEvents : Nat) : List RuntimeReplayFrameRow :=
  ((tables.framesOf stream).drop (sequence + 1 -
    ((tables.rowsOf stream).indexed head).firstSequence)).take maxEvents

include indexed in
theorem selectedRows_after (fits : sequence ≤ integerMax) (maxEvents : Nat) :
    tables.selectedRows stream (.after sequence maxEvents) =
      .ok (tables.pageOf stream head sequence maxEvents) := by
  have numbered := framesOf_numbered indexed
  have sorted := (numbered_sorted _ (numbered_drop _ numbered (sequence + 1 -
    ((tables.rowsOf stream).indexed head).firstSequence))).insertionSort_eq
  simp only [selectedRows, bind_eq_ok, replayInteger_eq_ok]
  refine ⟨sequence, ⟨fits, rfl⟩, ?_⟩
  rw [numbered_filter_above RuntimeReplayFrameRow.sequence numbered, sorted, pure_eq_ok]
  -- No stream has more rows than the largest limit of a query.
  have short := (framesOf_short indexed).1
  apply take_eq_take_iff.mpr
  rw [length_drop]
  omega

theorem framesOf_filter_short (tables : ReplayTables) (stream : ReplayStreamKey)
    {selected : RuntimeReplayFrameRow → Bool}
    (unique : ∀ left right, selected left → selected right →
      left.sequence = right.sequence ∨ left.eventId = right.eventId) :
    ((tables.framesOf stream).filter selected).length ≤ 1 := by
  rw [framesOf, filter_filter]
  apply tables.frames.filter_length_le_one
  intro left right leftHit rightHit
  simp only [Bool.and_eq_true, beq_iff_eq] at leftHit rightHit
  exact ⟨leftHit.2.trans rightHit.2.symm, unique left right leftHit.1 rightHit.1⟩

/-- The rows that a frame may collide with: the one of its id and the one of its sequence. -/
theorem selectedRows_conflict (tables : ReplayTables) (stream : ReplayStreamKey) (eventId : String)
    (fits : sequence ≤ integerMax) :
    ∃ rows, tables.selectedRows stream (.conflict eventId sequence) = .ok rows ∧
      rows ⊆ tables.framesOf stream ∧
      ∀ row ∈ tables.framesOf stream, row.eventId = eventId ∨ row.sequence = sequence →
        row ∈ rows := by
  have named : ((tables.framesOf stream).filter (·.eventId == eventId)).length ≤ 1 := by
    apply framesOf_filter_short
    intro left right leftHit rightHit
    rw [beq_iff_eq] at leftHit rightHit
    exact .inr (leftHit.trans rightHit.symm)
  have numbered : ((tables.framesOf stream).filter fun row =>
      row.sequence == sequence && row.eventId != eventId).length ≤ 1 := by
    apply framesOf_filter_short
    intro left right leftHit rightHit
    simp only [Bool.and_eq_true, beq_iff_eq] at leftHit rightHit
    exact .inl (leftHit.1.trans rightHit.1.symm)
  have same := perm_insertionSort
    (fun left right : RuntimeReplayFrameRow => left.sequence ≤ right.sequence)
    ((tables.framesOf stream).filter (·.eventId == eventId) ++
      (tables.framesOf stream).filter fun row => row.sequence == sequence && row.eventId != eventId)
  refine ⟨_, bind_eq_ok.mpr ⟨sequence, replayInteger_eq_ok.mpr ⟨fits, rfl⟩, rfl⟩, ?_, ?_⟩
  · intro row member
    have selected := same.mem_iff.mp (mem_of_mem_take member)
    rcases mem_append.mp selected with byId | bySequence
    · exact (mem_filter.mp byId).1
    · exact (mem_filter.mp bySequence).1
  · intro row member hit
    rw [take_of_length_le (by rw [same.length_eq, length_append]; omega), same.mem_iff,
      mem_append, mem_filter, mem_filter]
    by_cases byId : row.eventId = eventId
    · exact .inl ⟨member, by simpa using byId⟩
    · exact .inr ⟨member, by simpa [byId] using hit.resolve_left byId⟩

include indexed in
theorem selectedRows_answered {rows : List RuntimeReplayFrameRow}
    (done : tables.selectedRows stream query = .ok rows) :
    rows ⊆ tables.framesOf stream ∧ query.Answered ((tables.rowsOf stream).indexed head)
        ⟨head.ackSequence, head.highestSequence, rows.map RuntimeReplayFrameRow.decoded⟩ := by
  cases query with
  | watermarks =>
    obtain rfl : [] = rows := Except.ok.inj done
    exact ⟨nil_subset _, rfl, rfl, trivial⟩
  | conflict eventId sequence =>
    have fits : sequence ≤ integerMax := by
      simp only [selectedRows, eq_ok, replayInteger_eq_ok] at done
      exact done.choose_spec.1.1
    obtain ⟨picked, found, within, covers⟩ := tables.selectedRows_conflict stream eventId fits
    obtain rfl : picked = rows := Except.ok.inj (found.symm.trans done)
    have inside : picked.map RuntimeReplayFrameRow.decoded ⊆
        ((tables.rowsOf stream).indexed head).events := map_subset _ within
    refine ⟨within, rfl, rfl, ?_, ?_⟩
    · apply find?_eq_of_unique inside
      · intro event member hit
        obtain ⟨row, present, rfl⟩ := mem_map.mp member
        exact mem_map_of_mem (covers row present (Or.inl (beq_iff_eq.mp hit)))
      · intro _ leftIn _ rightIn leftHit rightHit
        rw [beq_iff_eq] at leftHit rightHit
        exact inj_on_of_nodup_map indexed.sound.distinct leftIn rightIn
          (leftHit.trans rightHit.symm)
    · apply find?_eq_of_unique inside
      · intro event member hit
        obtain ⟨row, present, rfl⟩ := mem_map.mp member
        exact mem_map_of_mem (covers row present (Or.inr (beq_iff_eq.mp hit)))
      · intro _ leftIn _ rightIn leftHit rightHit
        rw [beq_iff_eq] at leftHit rightHit
        exact numbered_injective ReplayFrame.sequence indexed.sound.numbered leftIn rightIn
          (leftHit.trans rightHit.symm)
  | after sequence maxEvents =>
    have fits : sequence ≤ integerMax := by
      simp only [selectedRows, eq_ok, replayInteger_eq_ok] at done
      exact done.choose_spec.1.1
    rw [selectedRows_after indexed fits, Except.ok.injEq] at done
    subst done
    refine ⟨fun row member => mem_of_mem_drop (mem_of_mem_take member), rfl, rfl, ?_⟩
    have shown : (tables.pageOf stream head sequence maxEvents).map
          RuntimeReplayFrameRow.decoded =
        ((tables.rowsOf stream).indexed head).eventsAfter sequence maxEvents := by
      rw [eventsAfter, pageOf,
        numbered_filter_above ReplayFrame.sequence indexed.sound.numbered, map_take,
        map_drop]
      rfl
    rw [shown]
    -- Every frame of the page is above the cursor, so cutting it again changes nothing.
    simp only [eventsAfter]
    rw [filter_eq_self.mpr fun event member => (mem_filter.mp
      (mem_of_mem_take member)).2, take_take, Nat.min_self]

theorem checkContiguous_numbered {frames : List ReplayFrame}
    (numbered : Numbered ReplayFrame.sequence expected frames)
    (room : expected + frames.length < wordLimit) : checkContiguous frames expected = .ok () := by
  induction frames generalizing expected with
  | nil => rfl
  | cons _ _ ih =>
    rw [length_cons] at room
    simp only [checkContiguous, refuse_bind_eq_ok, okOr_bind_eq_ok, checkedAdd_eq_some]
    exact ⟨not_not.mpr numbered.1, expected + 1, ⟨by omega, rfl⟩, ih numbered.2 (by omega)⟩

theorem saturatingAdd_small {value : Nat} (small : value ≤ integerMax) :
    saturatingAdd value 1 = value + 1 := by
  unfold saturatingAdd
  unfold integerMax at small
  unfold wordLimit
  omega

include indexed in
theorem checkAfter_indexed {maxEvents : Nat} (fits : sequence ≤ integerMax)
    (positive : 0 < maxEvents) : checkAfter sequence ⟨head.ackSequence, head.highestSequence,
      (tables.pageOf stream head sequence maxEvents).map RuntimeReplayFrameRow.decoded⟩ =
        .ok () := by
  have acknowledged : head.ackSequence ≤ head.highestSequence := indexed.sound.acknowledged
  have follows : ((tables.rowsOf stream).indexed head).firstSequence ≤ head.ackSequence + 1 :=
    indexed.sound.follows
  have bounded := indexed.fits
  have counted := (framesOf_short indexed).2
  have numbered := numbered_take RuntimeReplayFrameRow.sequence
    (numbered_drop RuntimeReplayFrameRow.sequence (framesOf_numbered indexed) (sequence + 1 -
      ((tables.rowsOf stream).indexed head).firstSequence)) maxEvents
  have whole : tables.framesOf stream = [] → head.highestSequence = head.ackSequence := by
    intro empty
    simpa [derivedHighest, StreamRows.indexed, rowsOf, empty]
      using indexed.sound.highest
  unfold pageOf
  generalize ((tables.rowsOf stream).indexed head).firstSequence = first at *
  generalize tables.framesOf stream = frames at *
  have lengths : ((frames.drop (sequence + 1 - first)).take maxEvents).length =
      min maxEvents (frames.length - (sequence + 1 - first)) := by
    rw [length_take, length_drop]
  generalize (frames.drop (sequence + 1 - first)).take maxEvents = page at *
  -- A page is empty only when the cursor has passed the last frame.
  have passed : page = [] →
      ¬ (sequence < head.highestSequence ∧ head.ackSequence < head.highestSequence) := by
    rintro rfl ⟨_, _⟩
    have := counted fun empty => by
      have := whole empty
      omega
    rw [length_nil] at lengths
    omega
  have short : page ≠ [] → first + (sequence + 1 - first) + page.length < wordLimit := by
    intro nonempty
    have kept := length_pos_iff.mpr nonempty
    have := counted (length_pos_iff.mp (by omega))
    unfold integerMax at bounded
    unfold wordLimit
    omega
  cases page with
  | nil =>
    simp only [checkAfter, map_nil, head?_nil, refuse_bind_eq_ok]
    refine ⟨fun ahead => lt_irrefl _ ahead.1, ?_⟩
    rw [checkContiguous]
    exact refuse_eq_ok.mpr fun unread => passed rfl ⟨unread.1, unread.2.2⟩
  | cons row rest =>
    have start : row.decoded.sequence = first + (sequence + 1 - first) := numbered.1
    have numbered' := (numbered_comp ReplayFrame.sequence RuntimeReplayFrameRow.decoded).mpr
      numbered
    have contiguous := checkContiguous_numbered numbered'
      (by rw [length_map]; exact short (cons_ne_nil row rest))
    simp only [checkAfter, map_cons, head?_cons, refuse_bind_eq_ok, start,
      saturatingAdd_small fits, saturatingAdd_small (acknowledged.trans bounded)]
    refine ⟨by omega, ?_⟩
    rw [map_cons] at contiguous
    rw [contiguous]
    exact refuse_eq_ok.mpr fun unread => by cases unread.2.1

theorem readRuntimeFrames_rows (kept : tables.Kept)
    (done : tables.readRuntimeFrames stream query = .ok (next, snapshot)) :
    ∃ present head rows, tables.ensureRuntimeReplay stream = .ok (next, present) ∧
      (next.rowsOf stream).Indexed head ∧
      tables.retained stream = (next.rowsOf stream).indexed head ∧
      next.selectedRows stream query = .ok rows ∧
      snapshot = ⟨head.ackSequence, head.highestSequence,
        rows.map RuntimeReplayFrameRow.decoded⟩ := by
  simp only [readRuntimeFrames, eq_ok, Prod.exists, Prod.mk.injEq] at done
  rcases done with ⟨_, present, ensures, _, readHead, rows, selected, _, decoded, _,
    _, rfl, rfl⟩
  obtain ⟨row, indexed, shown, retained⟩ := (ensureRuntimeReplay_spec kept ensures).readHead
  obtain rfl := Except.ok.inj (shown.symm.trans readHead)
  rw [mapM_decodeRow indexed (selectedRows_answered indexed selected).1] at decoded
  exact ⟨present, row, rows, ensures, indexed, retained, selected, by rw [← Except.ok.inj decoded]⟩

theorem readRuntimeFrames_answered (kept : tables.Kept)
    (done : tables.readRuntimeFrames stream query = .ok (next, snapshot)) :
    query.Answered (tables.retained stream) snapshot := by
  rcases readRuntimeFrames_rows kept done with
    ⟨present, head, rows, _, indexed, retained, selected, rfl⟩
  rw [retained]
  exact (selectedRows_answered indexed selected).2

theorem readRuntimeFrames_succeeds (kept : tables.Kept) (fits : query.Fits integerMax)
    (ensures : tables.ensureRuntimeReplay stream = .ok (next, present)) :
    ∃ snapshot, tables.readRuntimeFrames stream query = .ok (next, snapshot) := by
  obtain ⟨_, indexed, shown, _⟩ := (ensureRuntimeReplay_spec kept ensures).readHead
  simp only [readRuntimeFrames, eq_ok, Prod.exists, Prod.mk.injEq]
  cases query with
  | watermarks => exact ⟨_, next, present, ensures, _, shown, [], rfl, [], rfl, (), rfl, rfl, rfl⟩
  | conflict eventId _ =>
    obtain ⟨rows, selected, within, _⟩ := next.selectedRows_conflict stream eventId fits
    exact ⟨_, next, present, ensures, _, shown, rows, selected, _,
      mapM_decodeRow indexed within, (), rfl, rfl, rfl⟩
  | after _ maxEvents =>
    have selected := selectedRows_after indexed fits.1 maxEvents
    have within := (selectedRows_answered indexed selected).1
    exact ⟨_, next, present, ensures, _, shown, _, selected, _,
      mapM_decodeRow indexed within, (), checkAfter_indexed indexed fits.1 fits.2, rfl, rfl⟩

theorem ensureRuntimeReplay_headed (found : tables.headOf stream = some head) :
    tables.ensureRuntimeReplay stream = .ok (tables, true) := by
  unfold ensureRuntimeReplay
  rw [found]
  rfl

include indexed in
theorem indexed_validate : ((tables.rowsOf stream).indexed head).validate = .ok () := by
  rw [validate_eq_ok]
  refine ⟨indexed.sound, fun nonempty => ?_⟩
  have counted := (framesOf_short indexed).2 fun empty =>
    nonempty (by rw [StreamRows.indexed]; exact map_eq_nil_iff.mpr empty)
  have fits := indexed.fits
  rw [indexed_length, counted]
  unfold integerMax at fits
  unfold wordLimit
  omega

theorem readRuntimeFrames_whole (kept : tables.Kept)
    (done : tables.readRuntimeFrames stream (.after 0 usizeMax) = .ok (next, snapshot)) :
    snapshot = tables.retained stream ∧ snapshot.validate = .ok () := by
  rcases readRuntimeFrames_rows kept done with
    ⟨present, head, rows, _, indexed, retained, selected, rfl⟩
  have started := indexed.sound.started
  have short := (framesOf_short indexed).1
  have skipped : 0 + 1 - ((next.rowsOf stream).indexed head).firstSequence = 0 := by omega
  have limit : (next.framesOf stream).length ≤ usizeMax := short.trans (by decide)
  rw [selectedRows_after indexed (Nat.zero_le _), pageOf, skipped, drop_zero,
    take_of_length_le limit, Except.ok.injEq] at selected
  subst selected
  exact ⟨retained.symm, indexed_validate indexed⟩

theorem load_succeeds (kept : tables.Kept)
    (ensures : tables.ensureRuntimeReplay stream = .ok (next, present)) :
    ∃ found, load stream tables = .ok (next, found) ∧ found.getD {} = tables.retained stream ∧
      (tables.retained stream).validate = .ok () := by
  have ensured := ensureRuntimeReplay_spec kept ensures
  simp only [load, eq_ok, Prod.exists]
  cases present with
  | false =>
    obtain ⟨_, _, empty⟩ := ensured.absent rfl
    exact ⟨none, ⟨next, false, ensures, rfl⟩, empty.symm, by rw [empty]; rfl⟩
  | true =>
    obtain ⟨_, found⟩ := ensured.headed rfl
    have whole : (ReplayReadQuery.after 0 usizeMax).Fits integerMax :=
      ⟨Nat.zero_le _, by decide⟩
    rcases readRuntimeFrames_succeeds ensured.kept whole (ensureRuntimeReplay_headed found) with
      ⟨snapshot, read⟩
    obtain ⟨shown, validated⟩ := readRuntimeFrames_whole ensured.kept read
    rw [ensured.retained] at shown
    refine ⟨some snapshot, ⟨next, true, ensures, ?_⟩, shown, shown ▸ validated⟩
    simp only [if_true, eq_ok, Prod.exists, mapError_eq_ok]
    exact ⟨next, snapshot, read, (), validated, rfl⟩

end Reads

section Contract
variable {tables next : ReplayTables}

theorem headed_spec (kept : tables.Kept)
    (ensures : tables.ensureRuntimeReplay stream = .ok (middle, present))
    (headed : middle.ensureHead stream present = .ok next) :
    next.rowsOf = Function.update tables.rowsOf stream (next.rowsOf stream) ∧
      ((tables.rowsOf stream).legacy = none → (next.rowsOf stream).legacy = none) ∧
      ∃ head, (next.rowsOf stream).head = some head ∧ (next.rowsOf stream).Indexed head ∧
        tables.retained stream = (next.rowsOf stream).indexed head := by
  have ensured := ensureRuntimeReplay_spec kept ensures
  cases present with
  | true =>
    obtain rfl : middle = next := Except.ok.inj headed
    obtain ⟨head, found⟩ := ensured.headed rfl
    exact ⟨ensured.rows, ensured.legacy, head, found, ensured.indexed found⟩
  | false =>
    obtain ⟨rfl, missing, empty⟩ := ensured.absent rfl
    obtain ⟨frames, _⟩ := (ensured.kept stream).unindexed missing
    have rows := (insertHead_rows headed).2
    have here := congrFun rows stream
    rw [Function.update_self] at here
    rw [← here] at rows
    rcases indexed_unwritten stream (here ▸ frames : (next.rowsOf stream).frames = []) with
      ⟨indexed, shown⟩
    refine ⟨rows, fun legacy => here ▸ legacy, ⟨stream, 0, 0⟩, ?_, indexed, empty.trans shown.symm⟩
    rw [here]

theorem append_spec (kept : tables.Kept)
    (done : append stream expected frame tables = .ok (next, ())) :
    Rewritten tables stream ((tables.retained stream).extend frame) next := by
  simp only [append, eq_ok, Prod.exists, exists_const, replayInteger_eq_ok, Prod.mk.injEq, and_true,
    not_or, not_not, ne_eq] at done
  rcases done with ⟨_, present, ensures, headed, hasHead, _, readHead,
    ⟨highest, sequence⟩, framed, inserted, _, ⟨fits, rfl⟩, rfl⟩
  obtain ⟨before, legacy, head, found, indexed, retained⟩ := headed_spec kept ensures hasHead
  rw [readRuntimeHead_indexed indexed found, Except.ok.injEq] at readHead
  subst readHead
  obtain ⟨named, fresh, framedRows⟩ := insertRuntimeFrame_rows inserted
  have next_ : frame.sequence = head.highestSequence + 1 := by
    rw [eq_comm, checkedAdd_eq_some] at sequence
    change head.highestSequence = expected at highest
    rw [highest]
    exact sequence.2
  have unused : ((headed.rowsOf stream).indexed head).eventById frame.eventId = none := by
    rw [eventById_eq_none, mem_map]
    rintro ⟨_, member, same⟩
    obtain ⟨row, present, rfl⟩ := mem_map.mp member
    exact fresh row present same
  have sound := indexed.sound.extend next_ unused ⟨named.2.1, named.2.2⟩
  have rows := updateHead_rows framed stream (·.ackSequence) fun _ => frame.sequence
  rw [framedRows, before] at rows
  simp only [Function.update_idem, Function.update_self, found, Option.map_some] at rows
  generalize written : StreamRows.mk _ _ _ _ = after at rows
  have shown : after.indexed ⟨head.streamKey, head.ackSequence, frame.sequence⟩ =
      ((headed.rowsOf stream).indexed head).extend frame := by
    simp only [← written, StreamRows.indexed, extend, map_append]
    rfl
  have here : after.Indexed ⟨head.streamKey, head.ackSequence, frame.sequence⟩ := by
    refine ⟨shown.symm ▸ sound, fits, fun empty => ?_⟩
    rw [← written] at empty
    exact absurd empty (append_ne_nil_of_right_ne_nil _ (cons_ne_nil _ _))
  have top : after.head = some _ := congrArg StreamRows.head written.symm
  have rewritten := rewritten_of_rows kept rows (here.kept top) fun none_ => written ▸ legacy none_
  rwa [StreamRows.retained_indexed top, shown, ← retained] at rewritten

theorem recordAcknowledgement_spec (kept : tables.Kept) {ackSequence : Nat}
    (done : recordAcknowledgement stream expected ackSequence tables = .ok (next, ())) :
    Rewritten tables stream ((tables.retained stream).acknowledgedThrough ackSequence) next := by
  simp only [recordAcknowledgement, eq_ok, Prod.exists, exists_const, replayInteger_eq_ok,
    Prod.mk.injEq, and_true, not_or, not_not, ne_eq, not_lt] at done
  rcases done with ⟨middle, present, ensures, snapshot, readHead, ⟨rfl, advances, within⟩, _,
    ⟨_, same⟩, rfl⟩
  rw [same]
  have ensured := ensureRuntimeReplay_spec kept ensures
  have rows := updateHead_rows middle stream (fun _ => ackSequence) (·.highestSequence)
  rw [ensured.rows] at rows
  simp only [Function.update_idem, Function.update_self] at rows
  cases present with
  | true =>
    obtain ⟨head, found⟩ := ensured.headed rfl
    obtain ⟨indexed, shown⟩ := ensured.indexed found
    rw [readRuntimeHead_indexed indexed found, Except.ok.injEq] at readHead
    subst readHead
    have top : (middle.rowsOf stream).head = some head := found
    simp only [top, Option.map_some] at rows
    generalize written : StreamRows.mk _ _ _ _ = after at rows
    have here : after.Indexed ⟨head.streamKey, ackSequence, head.highestSequence⟩ := written ▸
      ⟨indexed.sound.acknowledgedThrough advances within, indexed.fits, indexed.compacted⟩
    have top : after.head = some _ := congrArg StreamRows.head written.symm
    have rewritten := rewritten_of_rows kept rows (here.kept top)
      fun none_ => written ▸ ensured.legacy none_
    rw [StreamRows.retained_indexed top, ← written] at rewritten
    rwa [shown]
  | false =>
    -- Nothing to update: the stream has no head, and only zero can be acknowledged.
    obtain ⟨rfl, missing, empty⟩ := ensured.absent rfl
    have nothing : snapshot = {} := by
      simp only [readRuntimeHead, missing, pure_eq_ok] at readHead
      exact readHead.symm
    subst nothing
    obtain rfl : ackSequence = 0 := Nat.le_zero.mp within
    have top : (middle.rowsOf stream).head = none := missing
    rw [top, Option.map_none, ← top] at rows
    have rewritten := rewritten_of_rows kept rows (kept stream) id
    change Rewritten middle stream (middle.retained stream) _ at rewritten
    rw [empty] at rewritten ⊢
    exact rewritten

end Contract

end ReplayTables

/-- The streams of the tables; unless `old` holds, no snapshot of an older binary is left. -/
def adapterView (old : Prop) : ReplayView ReplayTables :=
  ⟨fun tables => tables.Kept ∧ (old ∨ tables.Current), retained⟩

theorem ReplayTables.Rewritten.holding {old : Prop} {tables next : ReplayTables}
    (rewritten : Rewritten tables stream snapshot next) (valid : (adapterView old).Valid tables) :
    (adapterView old).Holding (Function.update tables.retained stream snapshot) next :=
  ⟨⟨rewritten.kept, valid.2.imp_right rewritten.current⟩, rewritten.retained⟩

theorem ReplayTables.Ensured.holding {old : Prop} {tables next : ReplayTables}
    (ensured : Ensured tables stream next present) (valid : (adapterView old).Valid tables) :
    (adapterView old).Holding tables.retained next := by
  have holding := ensured.rewritten.holding valid
  rwa [Function.update_eq_self] at holding

theorem triple_transaction {Answer : Type} {before : ReplayTables → Prop}
    {after : Answer → ReplayTables → Prop}
    {operation : ReplayTables → AdapterResult (ReplayTables × Answer)}
    (succeeds : ∀ tables, before tables → ∀ next answer, operation tables = .ok (next, answer) →
      after answer next) : Triple before (transaction operation) after before := by
  intro tables start
  unfold transaction commit
  cases outcome : operation tables with
  | error _ => exact start
  | ok success => exact succeeds tables start success.1 success.2 outcome

/-- The adapter store meets the contract of a replay store: its reads answer from the
streams and its writes are all or nothing. -/
theorem adapterStore_correct (old : Prop) : adapterStore.Correct (adapterView old) where
  load := by
    intro _ stream
    apply triple_transaction
    rintro tables ⟨valid, rfl⟩ next _ done
    have kept := valid.1
    -- A load of a present stream ensures the head twice, the second time without effect.
    have ensures : ∃ present, tables.ensureRuntimeReplay stream = .ok (next, present) := by
      simp only [load, eq_ok, Prod.exists] at done
      obtain ⟨_, present, ensures, done⟩ := done
      cases present with
      | false =>
        cases done
        exact ⟨false, ensures⟩
      | true =>
        simp only [if_true, eq_ok, Prod.exists, Prod.mk.injEq] at done
        obtain ⟨_, _, read, _, _, rfl, _⟩ := done
        have ensured := ensureRuntimeReplay_spec kept ensures
        rcases readRuntimeFrames_rows ensured.kept read with
          ⟨again, _, _, ensures', _⟩
        obtain ⟨_, headed⟩ := ensured.headed rfl
        rw [ensureRuntimeReplay_headed headed, Except.ok.injEq, Prod.mk.injEq]
          at ensures'
        exact ⟨true, ensures'.1 ▸ ensures⟩
    obtain ⟨_, ensures⟩ := ensures
    have ensured := ensureRuntimeReplay_spec kept ensures
    obtain ⟨answer, loaded, whole, _⟩ := load_succeeds kept ensures
    obtain ⟨_, rfl⟩ := Prod.mk.inj (Except.ok.inj (loaded.symm.trans done))
    exact ⟨whole, ensured.holding valid⟩
  loadIndexed := by
    intro _ _ _
    apply triple_transaction
    rintro _ ⟨valid, rfl⟩ _ _ done
    simp only [loadIndexed, eq_ok, Prod.exists, Prod.mk.injEq] at done
    obtain ⟨_, _, read, rfl, rfl⟩ := done
    obtain ⟨_, _, _, ensures, _⟩ := readRuntimeFrames_rows valid.1 read
    refine ⟨fun answer same => ?_, (ensureRuntimeReplay_spec valid.1 ensures).holding valid⟩
    rw [← Option.some.inj same]
    exact readRuntimeFrames_answered valid.1 read
  append := by
    intro _ _ _ _
    apply triple_transaction
    rintro _ ⟨valid, rfl⟩ _ ⟨⟩ done
    exact (append_spec valid.1 done).holding valid
  recordAcknowledgement := by
    intro _ _ _ _ _
    apply triple_transaction
    rintro _ ⟨valid, rfl⟩ _ ⟨⟩ done
    exact (recordAcknowledgement_spec valid.1 done).holding valid

variable {tables : ReplayTables}

/-- The machine on the adapter store never replaces a retained frame or takes back an
acknowledgement, whatever stream it is called for. -/
theorem adapter_streams_grow {Context AuthorityError : Type} (kept : tables.Kept)
    (calls : List (ReplayCall Context AuthorityError)) (stream : ReplayStreamKey) :
    (tables.retained stream).Grows
      ((after (performed adapterStore) tables calls).retained stream) :=
  grows_of_steps ((run_moved (adapterStore_correct True) ⟨kept, .inl trivial⟩ calls).2 stream)

/-- What the store itself is asked, by the machine or by anyone else. -/
inductive AdapterCall where
  | load (stream : ReplayStreamKey)
  | loadIndexed (stream : ReplayStreamKey) (query : ReplayReadQuery)
  | append (stream : ReplayStreamKey) (expectedHighestSequence : Nat) (frame : ReplayFrame)
  | recordAcknowledgement (stream : ReplayStreamKey) (expectedAckSequence ackSequence : Nat)

def AdapterCall.performed (tables : ReplayTables) : AdapterCall → ReplayTables
  | .load stream => (adapterStore.load stream tables).1
  | .loadIndexed stream query => (adapterStore.loadIndexed stream query tables).1
  | .append stream expected frame => (adapterStore.append stream expected frame tables).1
  | .recordAcknowledgement stream expected ack =>
    (adapterStore.recordAcknowledgement stream expected ack tables).1

theorem performed_kept (tables : ReplayTables) (call : AdapterCall) (kept : tables.Kept) :
    (call.performed tables).Kept := by
  have correct := adapterStore_correct True
  have holding : (adapterView True).Holding tables.retained tables := ⟨⟨kept, .inl trivial⟩, rfl⟩
  cases call with
  | load stream =>
    exact (Triple.reached (triple_mono (correct.load _ stream) (fun _ _ read => read.2)
      fun _ failed => failed) holding).1.1
  | loadIndexed stream query =>
    exact (Triple.reached (triple_mono (correct.loadIndexed _ stream query)
      (fun _ _ read => read.2) fun _ failed => failed) holding).1.1
  | append _ _ _ => exact commit_keeps kept fun _ _ written => (append_spec kept written).kept
  | recordAcknowledgement _ _ _ =>
    exact commit_keeps kept fun _ _ written => (recordAcknowledgement_spec kept written).kept

/-! Without old snapshots every read of a number that fits a column is answered. -/

theorem ensureRuntimeReplay_current (current : tables.Current) (stream : ReplayStreamKey) :
    tables.ensureRuntimeReplay stream = .ok (tables, (tables.headOf stream).isSome) := by
  have missing : tables.runtimeReplay.find (·.streamKey == stream) = none := current stream
  unfold ensureRuntimeReplay
  rw [missing]
  cases tables.headOf stream <;> rfl

theorem adapterStore_answering (stream : ReplayStreamKey) {limit : Nat}
    (within : limit ≤ integerMax) : adapterStore.Answering (adapterView False) stream limit where
  load := by
    rintro tables ⟨kept, current⟩
    have ensures := ensureRuntimeReplay_current (current.resolve_left id) stream
    obtain ⟨found, loaded, _⟩ := load_succeeds kept ensures
    exact ⟨found, by simp only [adapterStore, transaction, commit, loaded]⟩
  loadIndexed := by
    rintro query tables ⟨kept, current⟩ fits
    have inside : query.Fits integerMax := by
      cases query with
      | watermarks => trivial
      | conflict _ _ => exact le_trans fits within
      | after _ _ => exact ⟨le_trans fits.1 within, fits.2⟩
    have ensures := ensureRuntimeReplay_current (current.resolve_left id) stream
    obtain ⟨snapshot, read⟩ := readRuntimeFrames_succeeds kept inside ensures
    refine ⟨some snapshot, ?_⟩
    simp only [adapterStore, transaction, commit, loadIndexed, read]
    rfl

/-- So the store answers for every number that a stream of such tables has reached. -/
theorem adapterStore_answering_retained (valid : (adapterView False).Valid tables)
    (stream : ReplayStreamKey) : adapterStore.Answering (adapterView False) stream
      (tables.retained stream).events.length := by
  apply adapterStore_answering
  cases found : tables.headOf stream with
  | some head =>
    rw [retained, StreamRows.retained_indexed found, indexed_length]
    exact (framesOf_short ((valid.1 stream).indexed found)).1
  | none =>
    -- Without a head and an old snapshot the stream is empty.
    have missing := valid.2.resolve_left id stream
    rw [retained, StreamRows.retained, show (tables.rowsOf stream).head = none from found, missing]
    exact Nat.zero_le _

section Agreement
variable {Context AuthorityError : Type}

/-- Loading through the index and loading whole fail alike, or reach the same tables with
snapshots that show the same of the stream. -/
theorem loadSelected_agrees (kept : tables.Kept) (stream : ReplayStreamKey)
    (query : ReplayReadQuery) (fits : query.Fits integerMax) {Answer : Type}
    {indexed whole : ReplaySnapshot →
      Program ReplayTables (ReplayError AuthorityError AdapterStoreError) Answer}
    (agree : ∀ left right, query.Answered (tables.retained stream) left →
      query.Answered (tables.retained stream) right → indexed left = whole right) :
    (loadSelected adapterStore stream query >>= indexed) tables =
      (loadSelected adapterStore.unindexed stream query >>= whole) tables := by
  change _ = (loadSnapshot adapterStore stream >>= whole) tables
  cases ensures : tables.ensureRuntimeReplay stream with
  | error error =>
    -- Neither read gets past the stream that cannot be moved.
    have read : loadIndexed stream query tables = .error error := by
      simp only [loadIndexed, readRuntimeFrames, ensures]
      rfl
    have load : load stream tables = .error error := by
      simp only [load, ensures]
      rfl
    let failure : ReplayError AuthorityError AdapterStoreError := .store error
    have left : loadSelected adapterStore stream query tables = (tables, .error failure) :=
      bind_error (mapError_error (congrArg (commit tables) read))
    have right : loadSnapshot adapterStore stream tables = (tables, .error failure) :=
      bind_error (mapError_error (congrArg (commit tables) load))
    rw [bind_error left, bind_error right]
  | ok success =>
    obtain ⟨next, _⟩ := success
    obtain ⟨selected, read⟩ := readRuntimeFrames_succeeds kept fits ensures
    obtain ⟨found, loaded, shown, validated⟩ := load_succeeds kept ensures
    have answered := readRuntimeFrames_answered kept read
    have acknowledged := (validate_eq_ok.mp validated).1.acknowledged
    have indexedRead : loadIndexed stream query tables = .ok (next, some selected) := by
      simp only [loadIndexed, read]
      rfl
    have ordered : ¬ selected.highestSequence < selected.ackSequence := by
      rw [answered.1, answered.2.1]
      omega
    have left : loadSelected adapterStore stream query tables =
        (next, (.ok selected : Except (ReplayError AuthorityError _) _)) :=
      (bind_ok (mapError_ok (congrArg (commit tables) indexedRead))).trans
        (bind_lift_ok (if_neg ordered) next)
    have right : loadSnapshot adapterStore stream tables =
        (next, (.ok (found.getD {}) : Except (ReplayError AuthorityError _) _)) :=
      (bind_ok (mapError_ok (congrArg (commit tables) loaded))).trans
        (bind_lift_ok (mapError_eq_ok.mpr (shown ▸ validated)) next)
    rw [bind_ok left, bind_ok right, shown, agree selected _ answered (query.answered_self _)]

/-- The machine answers alike and leaves the same tables through the index and without it,
in calls whose number fits a column. -/
structure ReadsAgree (Context AuthorityError : Type) (tables : ReplayTables) : Prop where
  accept : ∀ (authority : ReplayAuthority Context AuthorityError) stream context frame,
    frame.sequence ≤ integerMax →
    accept adapterStore authority stream context frame tables =
      accept adapterStore.unindexed authority stream context frame tables
  resume : ∀ (authority : ReplayAuthority Context AuthorityError) stream context afterSequence
      maxEvents, afterSequence ≤ integerMax →
    resume adapterStore authority stream context afterSequence maxEvents tables =
      resume adapterStore.unindexed authority stream context afterSequence maxEvents
        tables
  acknowledge : ∀ (authority : ReplayAuthority Context AuthorityError) stream context ackSequence,
    acknowledge adapterStore authority stream context ackSequence tables =
      acknowledge adapterStore.unindexed authority stream context ackSequence tables

theorem readsAgree_of_kept (kept : tables.Kept) : ReadsAgree Context AuthorityError tables where
  accept authority stream context frame fits := by
    apply lift_bind_congr
    intro _
    apply lift_bind_congr
    intro _
    apply loadSelected_agrees kept stream (.conflict frame.eventId frame.sequence) fits
    -- the machine sees of a loaded snapshot what its query asked for and nothing else
    rintro _ _ ⟨_, highest, byId, bySequence⟩ ⟨_, highest', byId', bySequence'⟩
    unfold acceptLoaded
    rw [highest, highest', byId, byId', bySequence, bySequence']
    rfl
  resume authority stream context afterSequence maxEvents fits := by
    apply lift_bind_congr
    intro _
    by_cases none_ : maxEvents = 0
    · subst none_
      rfl
    · apply lift_bind_congr
      intro _
      apply loadSelected_agrees kept stream (.after afterSequence maxEvents)
        ⟨fits, Nat.pos_of_ne_zero none_⟩
      rintro _ _ ⟨ack, highest, events⟩ ⟨ack', highest', events'⟩
      unfold resumeLoaded
      rw [ack, ack', highest, highest', events, events']
  acknowledge authority stream context ackSequence := by
    apply lift_bind_congr
    intro _
    apply lift_bind_congr
    intro _
    apply loadSelected_agrees kept stream .watermarks trivial
    rintro _ _ ⟨ack, highest, _⟩ ⟨ack', highest', _⟩
    unfold acknowledgeLoaded
    rw [ack, ack', highest, highest']
    rfl

/-- Indexed reads cannot be told from full reads in any state that the store reaches, whatever
older binaries left in the tables. -/
theorem indexed_reads_agree (runtimeReplay : Table RuntimeReplayRow LegacyClash)
    (calls : List AdapterCall) : ReadsAgree Context AuthorityError
      (after AdapterCall.performed (opened runtimeReplay) calls) := by
  apply readsAgree_of_kept
  refine after_invariant AdapterCall.performed performed_kept ?_ calls
  exact fun _ => ⟨rfl, rfl⟩

def beyondFrame : ReplayFrame := ⟨"event", integerMax + 1, "digest", []⟩

/-- A number that fits no column is an error of the store through the index, and a gap or a
cursor ahead of the stream without it. -/
theorem indexed_reads_differ_beyond_columns :
    (accept adapterStore activeAuthority sampleStream () beyondFrame
      (opened Table.empty)).2 = .error (.store .corrupt) ∧
    (accept adapterStore.unindexed activeAuthority sampleStream () beyondFrame
      (opened Table.empty)).2 = .ok (.gap 0 1) ∧
    (resume adapterStore activeAuthority sampleStream () (integerMax + 1) 1
      (opened Table.empty)).2 = .error (.store .corrupt) ∧
    (resume adapterStore.unindexed activeAuthority sampleStream () (integerMax + 1) 1
      (opened Table.empty)).2 = .error (.cursorAhead (integerMax + 1) 0) := by
  decide +kernel

theorem opened_retained {runtimeReplay : Table RuntimeReplayRow LegacyClash}
    {row : RuntimeReplayRow} (member : row ∈ runtimeReplay.rows) :
    (opened runtimeReplay).retained row.streamKey = row.snapshot.getD {} := by
  obtain ⟨other, found⟩ : ∃ other, runtimeReplay.find (·.streamKey == row.streamKey) = some other :=
    find_isSome member (beq_self_eq_true row.streamKey)
  have known := find_eq_some found
  have same := runtimeReplay.eq_of_clash (fun _ _ => Eq.symm) known.1 member (beq_iff_eq.mp known.2)
  simp only [retained, opened, rowsOf, retained, found, same]
  rfl

/-- What an older binary retained is never lost: whatever the machine did since, a
stream that can be loaded begins with its old snapshot. -/
theorem old_snapshots_survive (runtimeReplay : Table RuntimeReplayRow LegacyClash)
    {row : RuntimeReplayRow} (member : row ∈ runtimeReplay.rows) {snapshot : ReplaySnapshot}
    (decodes : row.snapshot = some snapshot) (calls : List (ReplayCall Context AuthorityError))
    {found : Option ReplaySnapshot} (read : (adapterStore.load row.streamKey
      (after (performed adapterStore) (opened runtimeReplay) calls)).2 =
        .ok found) : snapshot.Grows (found.getD {}) := by
  have unindexed : (opened runtimeReplay).Kept := fun _ => ⟨rfl, rfl⟩
  have grows := adapter_streams_grow unindexed calls row.streamKey
  have correct := adapterStore_correct True
  have valid := (run_moved correct ⟨unindexed, .inl trivial⟩ calls).1
  generalize after _ _ calls = reached at read grows valid
  have judged := correct.load reached.retained row.streamKey reached ⟨valid, rfl⟩
  cases outcome : adapterStore.load row.streamKey reached with
  | mk _ _ =>
    rw [outcome] at read judged
    cases read
    rw [judged.1]
    rwa [opened_retained member, decodes, Option.getD_some] at grows

def oldSnapshot : ReplaySnapshot := ⟨0, 1, [sampleFrame 1 []]⟩

def oldRows : Table RuntimeReplayRow LegacyClash :=
  ⟨[⟨sampleStream, some oldSnapshot⟩], pairwise_singleton _ _⟩

def callsSince : List (ReplayCall Unit Unit) :=
  [.accept activeAuthority sampleStream () (sampleFrame 2 []),
    .acknowledge activeAuthority sampleStream () 1]

theorem old_snapshots_survive_used :
    oldSnapshot.Grows ⟨1, 2, [sampleFrame 1 [], sampleFrame 2 []]⟩ :=
  have read : (adapterStore.load sampleStream (after (performed adapterStore)
      (opened oldRows) callsSince)).2 =
      .ok (some ⟨1, 2, [sampleFrame 1 [], sampleFrame 2 []]⟩) := by
    decide +kernel
  old_snapshots_survive oldRows mem_cons_self rfl callsSince read

end Agreement

end WinWinCode.Codex
