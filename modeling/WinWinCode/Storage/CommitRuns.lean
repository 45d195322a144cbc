import WinWinCode.Foundation.Runs
import WinWinCode.Storage.StateCommits

/-!
Runs of state commits. Beside the tables runs the list of commits that were answered
under a new identity, each with its receipt. The tables hold what these commits asked
for and nothing else, the revision of a stream counts those that wrote it, and the
receipt of a commit can be read back however many commits follow.
-/

namespace WinWinCode.Storage

open Fallible Tables Counting StateCommits List Table

structure AppliedCommit where
  commit : StateCommit
  receipt : CommitReceipt

def AppliedCommit.identity (entry : AppliedCommit) : ReceiptIdentity :=
  entry.commit.receiptIdentity

structure CommitLedger where
  store : CommitStore
  applied : List AppliedCommit

structure CommitCall where
  commit : StateCommit
  claimed : Bool

def StateCommit.writes (commit : StateCommit) (stream : String) : Bool :=
  commit.streamId == stream || (commit.allStateMutations.map (·.streamId)).contains stream

/-! The rows that a commit asks for. -/

def StateMutation.row (mutation : StateMutation) : ProductStateRow :=
  ⟨mutation.streamId, mutation.expectedRevision + 1, mutation.state⟩

namespace StateCommit

variable (commit : StateCommit)

def stateRow (stream : String) : Option ProductStateRow :=
  if commit.streamId = stream then
    some ⟨commit.streamId, commit.expectedRevision + 1, commit.state⟩
  else (commit.allStateMutations.find? (·.streamId == stream)).map StateMutation.row

def receiptRow : CommandReceiptRow :=
  ⟨commit.receiptIdentity, commit.commandDigest, commit.streamId, commit.expectedRevision + 1⟩

def answer (events : List OutboxEvent) : CommitReceipt :=
  ⟨commit.receiptIdentity, commit.commandDigest, commit.streamId, commit.expectedRevision + 1,
    events, false⟩

def auditRow : Option AuditOutboxRow :=
  commit.pendingAuditEvent.map fun event => ⟨commit.receiptIdentity, event⟩

def manifestRow : Option AggregateJournalRow :=
  commit.journalPublication.bind fun
    | .create key manifest _ => some ⟨key, manifest⟩
    | .append .. => none

def journalRow : Option AggregateJournalRecordRow :=
  commit.journalPublication.map fun
    | .create key _ record => ⟨key, record⟩
    | .append key _ _ record => ⟨key, record⟩

/-- The outbox rows of its events, apart from the numbers that the store gives them. -/
def outboxRows : List OutboxRow :=
  commit.events.map fun event => outboxRow commit.receiptIdentity 0 event none

end StateCommit

def NewOutboxEvent.content (event : NewOutboxEvent) : String × String × List UInt8 :=
  (event.eventId, event.topic, event.payload)

def OutboxEvent.content (event : OutboxEvent) : String × String × List UInt8 :=
  (event.eventId, event.topic, event.payload)

def OutboxRow.unnumbered (row : OutboxRow) : OutboxRow :=
  { row with sequence := 0, streamSequence := none }

variable {identity : ReceiptIdentity} {next : CommitStore} {outbox : OutboxTables}
  {key : AggregateJournalKey} {event : NewOutboxEvent} {entry : AppliedCommit}

namespace StateCommits

def streamRows (outbox : OutboxTables) (stream : StreamColumns) : List OutboxRow :=
  outbox.rows.rows.filter fun row => row.stream == some stream

def journalRecords (tables : JournalTables) (key : AggregateJournalKey) :
    List AggregateJournalRecordRow :=
  tables.records.rows.filter fun row => row.key == key

/-! Revisions. -/

theorem find_upsertState {state next : StateTable} {streamId : String}
    {revision : Nat} {payload : List UInt8}
    (done : upsertState state streamId revision payload = .ok next) (stream : String) :
    next.find (·.streamId == stream) = if streamId = stream then
      some ⟨streamId, revision, payload⟩ else state.find (·.streamId == stream) :=
  find_upsert ProductStateRow.streamId _ (okOr_eq_ok.mp done) rfl stream

variable {mutations : List StateMutation}

/-- Secondary writes of different streams each leave their row. -/
theorem find_mutations {state next : StateTable} (distinct : (mutations.map (·.streamId)).Nodup)
    (done : mutations.foldlM appendStateMutation state = .ok next) (stream : String) :
    next.find (·.streamId == stream) =
      ((mutations.find? (·.streamId == stream)).map StateMutation.row).or
        (state.find (·.streamId == stream)) := by
  induction mutations generalizing state with
  | nil =>
    cases done
    rfl
  | cons mutation rest ih =>
    rw [foldlM_cons, bind_eq_ok] at done
    obtain ⟨_, first, others⟩ := done
    rw [appendStateMutation, refuse_bind_eq_ok] at first
    rw [map_cons, nodup_cons] at distinct
    rw [ih distinct.2 others, find_upsertState first.2]
    by_cases here : mutation.streamId = stream
    · have unwritten : rest.find? (·.streamId == stream) = none := by
        rw [find?_eq_none]
        intro later member same
        exact distinct.1 (mem_map.mpr ⟨later, member, (beq_iff_eq.mp same).trans here.symm⟩)
      simp [here, unwritten, StateMutation.row]
    · simp [here]

theorem checkMutations_eq_ok {primary : String} {guarded seen final : List String}
    (done : mutations.foldlM (StateCommit.checkMutation primary guarded) seen = .ok final) :
    (primary ∉ mutations.map (·.streamId)) ∧ (mutations.map (·.streamId)).Nodup ∧
      ∀ stream ∈ seen, stream ∉ mutations.map (·.streamId) := by
  induction mutations generalizing seen with
  | nil => simp
  | cons _ _ ih =>
    rw [foldlM_cons, bind_eq_ok] at done
    obtain ⟨_, first, others⟩ := done
    simp only [StateCommit.checkMutation, eq_ok] at first
    obtain ⟨_, _, _, elsewhere, _, _, _, unseen, _, _, same⟩ := first
    cases same
    obtain ⟨free, nodup, fresh⟩ := ih others
    simp only [map_cons, mem_cons, not_or, nodup_cons]
    refine ⟨⟨Ne.symm elsewhere, free⟩, ⟨fresh _ mem_cons_self, nodup⟩, ?_⟩
    intro stream member
    refine ⟨?_, fresh stream (mem_cons_of_mem _ member)⟩
    rintro rfl
    exact unseen member

variable {commit : StateCommit} {tables : JournalTables} {store : CommitStore}
  {receipt : CommitReceipt}

theorem streams_nodup_of_validate (valid : commit.validate = .ok ()) :
    commit.streamId ∉ commit.allStateMutations.map (·.streamId) ∧
      (commit.allStateMutations.map (·.streamId)).Nodup := by
  simp only [StateCommit.validate, StateCommit.validateSecondaryStates, eq_ok] at valid
  obtain ⟨_, _, _, _, _, _, _, _, _, ⟨_, _, _, _, _, _, _, checked, _⟩, _⟩ := valid
  obtain ⟨free, nodup, _⟩ := checkMutations_eq_ok checked
  exact ⟨free, nodup⟩

/-! The outbox. -/

theorem appendOutboxEvent_eq_ok {next : OutboxTables}
    (done : appendOutboxEvent identity outbox event = .ok next) :
    ∃ row position, row = outboxRow identity (outbox.lastSequence + 1) event position ∧
      next.rows.rows = outbox.rows.rows ++ [row] ∧ next.lastSequence = outbox.lastSequence + 1 ∧
      ∀ stream, (row.stream = some stream →
          row.streamSequence = some (streamHead outbox stream + 1)) ∧
        streamHead next stream =
          streamHead outbox stream + if row.stream = some stream then 1 else 0 := by
  unfold appendOutboxEvent at done
  split at done
  · rename_i stream projected
    simp only [eq_ok, nextProjectionStreamPosition, insertOutboxRow, upsertStreamHead] at done
    obtain ⟨_, ⟨_, _, rfl⟩, _, ⟨_, _, _, inserted, rfl⟩, _, headed, rfl⟩ := done
    refine ⟨_, _, rfl, (insert_eq_some.mp inserted).2, rfl, ?_⟩
    intro other
    have found := find_upsert StreamHeadRow.stream _ headed rfl other
    simp only [OutboxRow.stream, outboxRow, projected, Option.map_some]
    change (some (streamColumns identity stream) = some other → _) ∧ _ = _ + if
      some (streamColumns identity stream) = some other then 1 else 0
    by_cases here : streamColumns identity stream = other
    · subst here
      simp [streamHead, found]
    · simp [streamHead, found, here]
  · rename_i internal
    simp only [insertOutboxRow, eq_ok] at done
    obtain ⟨_, _, _, inserted, rfl⟩ := done
    refine ⟨_, _, rfl, (insert_eq_some.mp inserted).2, rfl, ?_⟩
    intro _
    simp [OutboxRow.stream, outboxRow, internal, streamHead]

/-- The positions of every projection stream count up to its head. -/
def Positioned (outbox : OutboxTables) : Prop :=
  ∀ stream, (streamRows outbox stream).map (·.streamSequence) =
    (List.range' 1 (streamHead outbox stream)).map some

theorem Positioned.appended {next : OutboxTables} (before : Positioned outbox)
    (done : appendOutboxEvent identity outbox event = .ok next) : Positioned next := by
  obtain ⟨row, _, _, rows, _, placed⟩ := appendOutboxEvent_eq_ok done
  intro stream
  obtain ⟨position, head⟩ := placed stream
  rw [streamRows, rows, filter_append, map_append, head]
  change (streamRows outbox stream).map _ ++ _ = _
  rw [before stream]
  by_cases here : row.stream = some stream
  · rw [if_pos here, range'_concat, map_append]
    simp [here, position here, add_comm]
  · rw [if_neg here]
    simp [here]

/-- The outbox holds these rows in order, numbered as it gave its sequences out. -/
structure Emitted (outbox : OutboxTables) (sent : List OutboxRow) : Prop where
  rows : outbox.rows.rows.map OutboxRow.unnumbered = sent
  numbered : Numbered OutboxRow.sequence 1 outbox.rows.rows
  last : outbox.lastSequence = outbox.rows.rows.length

theorem Emitted.appended {sent : List OutboxRow} {events : List NewOutboxEvent}
    {next : OutboxTables} (emitted : Emitted outbox sent)
    (done : events.foldlM (appendOutboxEvent identity) outbox = .ok next) :
    Emitted next (sent ++ events.map fun event => outboxRow identity 0 event none) := by
  induction events generalizing outbox sent with
  | nil =>
    cases done
    rwa [map_nil, append_nil]
  | cons event rest ih =>
    rw [foldlM_cons, bind_eq_ok] at done
    obtain ⟨middle, first, others⟩ := done
    obtain ⟨_, _, rfl, rows, last, _⟩ := appendOutboxEvent_eq_ok first
    have grown : Emitted middle (sent ++ [outboxRow identity 0 event none]) := by
      refine ⟨?_, ?_, ?_⟩
      · rw [rows, map_append, emitted.rows]
        rfl
      · rw [rows]
        exact numbered_concat _ emitted.numbered (by rw [outboxRow, emitted.last, add_comm])
      · rw [last, rows, length_append, emitted.last, length_singleton]
    rw [map_cons, append_cons]
    exact ih grown others

/-- What is read back for a receipt are the rows of its identity, in the order they were sent. -/
theorem Emitted.read {sent : List OutboxRow} {events : List OutboxEvent}
    (emitted : Emitted outbox sent) (read : receiptEvents outbox identity = .ok events) :
    events.map (·.content) = (sent.filter (·.identity == identity)).map
      fun row => (row.eventId, row.topic, row.payload) := by
  have sorted := (numbered_sorted OutboxRow.sequence emitted.numbered).filter
    (·.identity == identity)
  rw [receiptEvents, sorted.insertionSort_eq] at read
  rw [← emitted.rows, filter_map, map_map]
  refine map_of_mapM read ?_
  intro row event found
  simp only [receiptEvent, eq_ok] at found
  obtain ⟨_, _, _, _, rfl⟩ := found
  rfl

theorem appendOutboxEvents_filter {events : List NewOutboxEvent} {next : OutboxTables}
    {other : ReceiptIdentity} (apart : other ≠ identity)
    (done : events.foldlM (appendOutboxEvent identity) outbox = .ok next) :
    next.rows.rows.filter (·.identity == other) =
      outbox.rows.rows.filter (·.identity == other) := by
  refine foldlM_keeps (fun tables => tables.rows.rows.filter (·.identity == other) =
    outbox.rows.rows.filter (·.identity == other)) ?_ rfl done
  intro _ _ _ _ kept written
  obtain ⟨_, _, rfl, rows, _⟩ := appendOutboxEvent_eq_ok written
  rw [rows, filter_append, kept]
  simp [outboxRow, Ne.symm apart]

/-! Journals. -/

/-- The records of every journal are numbered from one, and stand beside a manifest. -/
structure Journaled (tables : JournalTables) : Prop where
  numbered : ∀ key, (journalRecords tables key).map (·.record.sequence) =
    List.range' 1 (journalRecords tables key).length
  owned : ∀ row ∈ tables.records.rows, ∃ journal ∈ tables.journals.rows, journal.key = row.key

section
variable (journaled : Journaled tables)
include journaled

theorem Journaled.tail {tail : AggregateJournalRecordRow}
    (found : journalTail tables key = some tail) :
    tail.record.sequence = (journalRecords tables key).length := by
  have numbered := journaled.numbered key
  have member : tail ∈ journalRecords tables key := argmax_mem found
  have position := numbered ▸ mem_map_of_mem member
  rw [mem_range'_1] at position
  apply le_antisymm
  · omega
  · have last : (journalRecords tables key).length ∈
        (journalRecords tables key).map (·.record.sequence) := by
      rw [numbered, mem_range'_1]
      have := length_pos_of_mem member
      omega
    obtain ⟨row, present, same⟩ := mem_map.mp last
    rw [← same]
    exact le_of_mem_argmax (f := fun row => row.record.sequence) present found

variable {next : JournalTables}

theorem Journaled.inserted {record : AggregateJournalRecord}
    (owner : ∃ journal ∈ tables.journals.rows, journal.key = key)
    (follows : record.sequence = (journalRecords tables key).length + 1)
    (done : insertJournalRecord tables key record = .ok next) : Journaled next := by
  simp only [insertJournalRecord, eq_ok] at done
  obtain ⟨_, _, records, inserted, same⟩ := done
  cases same
  have rows := (insert_eq_some.mp inserted).2
  constructor
  · intro other
    have grown : journalRecords { tables with records := records } other =
        journalRecords tables other ++ if key = other then [⟨key, record⟩] else [] := by
      simp only [journalRecords, rows, filter_append, filter_singleton, cond_eq_ite, beq_iff_eq]
    rw [grown]
    split
    · rename_i here
      subst here
      rw [map_append, journaled.numbered, length_append, length_singleton, range'_concat]
      simp [follows, add_comm]
    · rw [append_nil]
      exact journaled.numbered other
  · rw [rows]
    exact forall_mem_concat journaled.owned owner

theorem Journaled.manifested {journals : Table AggregateJournalRow AggregateJournalRow.Clash}
    (kept : tables.journals.rows ⊆ journals.rows) :
    Journaled { tables with journals := journals } where
  numbered := journaled.numbered
  owned := by
    intro row member
    obtain ⟨journal, present, same⟩ := journaled.owned row member
    exact ⟨journal, kept present, same⟩

theorem Journaled.published {publication : AggregateJournalPublication}
    (valid : publication.validate = .ok ())
    (done : appendJournalPublication tables publication = .ok next) : Journaled next := by
  cases publication with
  | create key manifest _ =>
    simp only [AggregateJournalPublication.validate, eq_ok] at valid
    obtain ⟨_, _, _, _, first⟩ := valid
    simp only [appendJournalPublication, eq_ok] at done
    obtain ⟨_, absent, journals, inserted, written⟩ := done
    have rows := (insert_eq_some.mp inserted).2
    have base : Journaled { tables with journals := journals } := by
      apply journaled.manifested
      rw [rows]
      exact subset_append_left _ _
    -- A journal without a manifest has no records yet.
    have none_ : journalRecords tables key = [] := by
      rw [journalRecords, filter_eq_nil_iff]
      intro row member same
      obtain ⟨journal, present, owner⟩ := journaled.owned row member
      apply absent
      rw [Table.find, find?_isSome]
      exact ⟨journal, present, by rw [owner]; exact same⟩
    refine base.inserted ⟨⟨key, manifest⟩, ?_, rfl⟩ ?_ written
    · rw [rows]
      exact mem_append_right _ (mem_singleton_self _)
    · change _ = (journalRecords tables key).length + 1
      rw [none_, not_not.mp first]
      rfl
  | append key expectedTailSequence _ record =>
    simp only [AggregateJournalPublication.validate, validateJournalRecord, eq_ok] at valid
    obtain ⟨_, ⟨_, _, _⟩, _, _, follows⟩ := valid
    simp only [appendJournalPublication, eq_ok] at done
    obtain ⟨tail, found, _, range, _, matched, written⟩ := done
    have last := journaled.tail found
    have member : tail ∈ journalRecords tables key := argmax_mem found
    rw [journalRecords, mem_filter] at member
    obtain ⟨journal, present, owner⟩ := journaled.owned tail member.1
    refine journaled.inserted ⟨journal, present, owner.trans (beq_iff_eq.mp member.2)⟩ ?_ written
    have same : tail.record.sequence = expectedTailSequence := not_not.mp (not_or.mp matched).1
    rw [not_not.mp follows, ← last, same]
    unfold saturatingAdd wordLimit
    unfold sqliteMax at range
    omega

end

theorem appendJournal_eq_ok {next : JournalTables} (done : appendJournal tables commit = .ok next) :
    next.journals.rows = tables.journals.rows ++ commit.manifestRow.toList ∧
      next.records.rows = tables.records.rows ++ commit.journalRow.toList := by
  unfold appendJournal at done
  split at done
  · rename_i publication present
    cases publication with
    | create key manifest _ =>
      simp only [appendJournalPublication, insertJournalRecord, eq_ok] at done
      obtain ⟨_, _, _, manifested, _, _, _, recorded, rfl⟩ := done
      simp [StateCommit.manifestRow, StateCommit.journalRow, present,
        (insert_eq_some.mp manifested).2, (insert_eq_some.mp recorded).2]
    | append key _ _ record =>
      simp only [appendJournalPublication, insertJournalRecord, eq_ok] at done
      obtain ⟨_, _, _, _, _, _, _, _, _, recorded, rfl⟩ := done
      simp [StateCommit.manifestRow, StateCommit.journalRow, present,
        (insert_eq_some.mp recorded).2]
  · rename_i absent
    cases done
    simp [StateCommit.manifestRow, StateCommit.journalRow, absent]

/-! What one commit does. -/

structure Wrote (store : CommitStore) (commit : StateCommit) (next : CommitStore)
    (receipt : CommitReceipt) : Prop where
  valid : commit.validate = .ok ()
  fresh : priorReceipt store.receipts commit.receiptIdentity = none
  secondary : ∀ mutation ∈ commit.allStateMutations,
    storedStateRevision store.state mutation.streamId = mutation.expectedRevision
  primary : storedStateRevision store.state commit.streamId = commit.expectedRevision
  state : ∃ written,
    upsertState store.state commit.streamId (commit.expectedRevision + 1) commit.state =
      .ok written ∧ commit.allStateMutations.foldlM appendStateMutation written = .ok next.state
  journal : appendJournal store.journal commit = .ok next.journal
  receipts : appendReceipt store.receipts commit (commit.expectedRevision + 1) = .ok next.receipts
  audit : appendPendingAuditEvent store.audit commit = .ok next.audit
  outbox : appendOutboxEvents store.outbox commit = .ok next.outbox
  events : receiptEvents next.outbox commit.receiptIdentity = .ok receipt.events
  answer : receipt = commit.answer receipt.events

/-- A commit that succeeds replays a receipt and writes nothing, or is new and wrote. -/
theorem commit_eq_ok {sha256 : List UInt8 → String} {claimed : Bool}
    (done : StateCommits.commit sha256 claimed store commit = .ok (next, receipt)) :
    (next = store ∧ receipt.idempotentReplay ∧
      (priorReceipt store.receipts commit.receiptIdentity).isSome) ∨
      Wrote store commit next receipt := by
  rw [StateCommits.commit, bind_eq_ok] at done
  obtain ⟨_, valid, done⟩ := done
  unfold commitInTransaction at done
  split at done
  · rename_i prior known
    simp only [replayReceipt, replayStoredReceipt, eq_ok] at done
    obtain ⟨_, ⟨_, _, _, _, _, _, _, _, rfl⟩, same⟩ := done
    cases same
    exact .inl ⟨rfl, rfl, by rw [known]; rfl⟩
  · rename_i fresh
    simp only [commitNew, checkStateMutationRevisions, appendStateCommit, eq_ok] at done
    rcases done with ⟨_, _, _, _, _, _, _, ⟨_, _, revised⟩, _, primary, _, _, written, stated,
      state, mutated, journal, journaled, receipts, received, audit, audited, outbox, emitted,
      events, read, same⟩
    cases same
    refine .inr ⟨valid, fresh, ?_, not_not.mp primary, ⟨written, stated, mutated⟩, journaled,
      received, audited, emitted, read, rfl⟩
    intro mutation member
    exact not_not.mp (refuse_eq_ok.mp (forM_eq_ok.mp revised mutation member))

namespace Wrote

section
variable (wrote : Wrote store commit next receipt)
include wrote

theorem find (stream : String) : next.state.find (·.streamId == stream) =
    (commit.stateRow stream).or (store.state.find (·.streamId == stream)) := by
  obtain ⟨_, stated, mutated⟩ := wrote.state
  obtain ⟨free, nodup⟩ := streams_nodup_of_validate wrote.valid
  rw [find_mutations nodup mutated, find_upsertState stated, StateCommit.stateRow]
  by_cases here : commit.streamId = stream
  · have unwritten : commit.allStateMutations.find? (·.streamId == stream) = none := by
      rw [find?_eq_none]
      intro mutation member same
      exact free (here.trans (beq_iff_eq.mp same).symm ▸ mem_map_of_mem member)
    simp [here, unwritten]
  · simp [here]

theorem revision (stream : String) : storedStateRevision next.state stream =
      storedStateRevision store.state stream + if commit.writes stream then 1 else 0 := by
  rw [storedStateRevision, wrote.find, StateCommit.stateRow, StateCommit.writes]
  by_cases here : commit.streamId = stream
  · subst here
    simp [wrote.primary]
  · cases found : commit.allStateMutations.find? (·.streamId == stream) with
    | none =>
      have unwritten : stream ∉ commit.allStateMutations.map (·.streamId) := by
        simpa using found
      simp [here, unwritten, storedStateRevision]
    | some mutation =>
      have same : mutation.streamId = stream := by simpa using find?_some found
      have written := mem_of_find?_eq_some found
      subst same
      simp [here, StateMutation.row, wrote.secondary mutation written, mem_map_of_mem written]

theorem positioned (before : Positioned store.outbox) : Positioned next.outbox :=
  foldlM_keeps Positioned (fun _ _ _ _ kept done => kept.appended done) before wrote.outbox

theorem journaled (before : Journaled store.journal) : Journaled next.journal := by
  have valid := wrote.valid
  simp only [StateCommit.validate, eq_ok] at valid
  obtain ⟨_, _, _, _, _, _, _, _, _, _, _, checked, _⟩ := valid
  have done := wrote.journal
  unfold appendJournal at done
  unfold StateCommit.validateJournal at checked
  split at done
  · rename_i publication present
    rw [present] at checked
    exact before.published checked done
  · exact Except.ok.inj done ▸ before

theorem audit_valid : commit.validateAudit = .ok () := by
  have valid := wrote.valid
  simp only [StateCommit.validate, eq_ok] at valid
  obtain ⟨_, _, _, _, _, _, _, _, _, _, _, _, _, checked, _⟩ := valid
  exact checked

theorem priorReceipt_next (identity : ReceiptIdentity) : priorReceipt next.receipts identity =
      if commit.receiptIdentity = identity then some commit.receiptRow
      else priorReceipt store.receipts identity :=
  (find_insert_keyed CommandReceiptRow.identity (okOr_eq_ok.mp wrote.receipts) fun _ => id).2
    identity

theorem audit_next (unaudited : store.audit.find (·.identity == commit.receiptIdentity) = none)
    (identity : ReceiptIdentity) : loadPendingAuditEvent next.audit identity =
      if commit.receiptIdentity = identity then .ok commit.pendingAuditEvent
      else loadPendingAuditEvent store.audit identity := by
  have done := wrote.audit
  have checked := wrote.audit_valid
  unfold appendPendingAuditEvent at done
  unfold StateCommit.validateAudit at checked
  split at done
  · rename_i event present
    have found := (find_insert_keyed (·.identity) (okOr_eq_ok.mp done) fun _ => .inl).2 identity
    rw [present] at checked ⊢
    rw [loadPendingAuditEvent, found]
    by_cases own : commit.receiptIdentity = identity
    · simp only [own, if_true] at checked ⊢
      rw [checked]
      rfl
    · simp only [own, if_false]
      rfl
  · rename_i absent
    rw [← Except.ok.inj done]
    split
    · rename_i own
      rw [loadPendingAuditEvent, ← own, unaudited, absent]
    · rfl

end

end Wrote

/-- The tables hold what these commits asked for, in their order and nothing else. -/
structure Holds (store : CommitStore) (applied : List AppliedCommit) : Prop where
  receipts : store.receipts.rows = applied.map (·.commit.receiptRow)
  audit : store.audit.rows = applied.filterMap (·.commit.auditRow)
  manifests : store.journal.journals.rows = applied.filterMap (·.commit.manifestRow)
  journal : store.journal.records.rows = applied.filterMap (·.commit.journalRow)
  outbox : Emitted store.outbox (applied.flatMap (·.commit.outboxRows))
  state : ∀ stream, store.state.find (·.streamId == stream) =
    applied.reverse.findSome? (·.commit.stateRow stream)

section
variable {applied : List AppliedCommit} (holds : Holds store applied)
include holds

theorem Holds.known (identity : ReceiptIdentity) :
    (priorReceipt store.receipts identity).isSome ↔ identity ∈ applied.map (·.identity) := by
  rw [priorReceipt, Table.find, find?_isSome, holds.receipts]
  simp [StateCommit.receiptRow, AppliedCommit.identity]

variable (wrote : Wrote store commit next receipt)
include wrote

theorem Holds.fresh : commit.receiptIdentity ∉ applied.map (·.identity) := by
  rw [← holds.known, wrote.fresh]
  exact Bool.false_ne_true

theorem Holds.unaudited : store.audit.find (·.identity == commit.receiptIdentity) = none := by
  rw [Table.find, find?_eq_none, holds.audit]
  intro row member same
  obtain ⟨entry, present, asked⟩ := mem_filterMap.mp member
  obtain ⟨_, _, rfl⟩ := Option.map_eq_some_iff.mp asked
  exact holds.fresh wrote (beq_iff_eq.mp same ▸ mem_map_of_mem present)

theorem Holds.written : Holds next (applied ++ [⟨commit, receipt⟩]) where
  receipts := by
    rw [(insert_eq_some.mp (okOr_eq_ok.mp wrote.receipts)).2, holds.receipts, map_append]
    rfl
  audit := by
    have done := wrote.audit
    unfold appendPendingAuditEvent at done
    rw [filterMap_append, ← holds.audit]
    split at done
    · rename_i present
      rw [(insert_eq_some.mp (okOr_eq_ok.mp done)).2]
      simp [StateCommit.auditRow, present]
    · rename_i absent
      simp [← Except.ok.inj done, StateCommit.auditRow, absent]
  manifests := by
    rw [(appendJournal_eq_ok wrote.journal).1, holds.manifests, filterMap_append]
    cases asked : commit.manifestRow <;> simp [asked]
  journal := by
    rw [(appendJournal_eq_ok wrote.journal).2, holds.journal, filterMap_append]
    cases asked : commit.journalRow <;> simp [asked]
  outbox := by
    rw [flatMap_append, flatMap_singleton]
    exact holds.outbox.appended wrote.outbox
  state := by
    intro stream
    rw [wrote.find, holds.state, reverse_append, reverse_singleton, singleton_append,
      findSome?_cons]
    cases commit.stateRow stream <;> rfl

/-- The events that are answered are those of the commit. -/
theorem Holds.answered : receipt.events.map (·.content) = commit.events.map (·.content) := by
  have others : (applied.flatMap (·.commit.outboxRows)).filter
      (·.identity == commit.receiptIdentity) = [] := by
    rw [filter_eq_nil_iff]
    intro row member same
    obtain ⟨entry, present, asked⟩ := mem_flatMap.mp member
    obtain ⟨_, _, rfl⟩ := mem_map.mp asked
    exact holds.fresh wrote (beq_iff_eq.mp same ▸ mem_map_of_mem present)
  rw [(holds.outbox.appended wrote.outbox).read wrote.events, filter_append, others, nil_append]
  simp [filter_map, Function.comp_def, outboxRow, NewOutboxEvent.content]

end

structure Recorded (store : CommitStore) (entry : AppliedCommit) : Prop where
  receipt : priorReceipt store.receipts entry.identity = some entry.commit.receiptRow
  audit : loadPendingAuditEvent store.audit entry.identity = .ok entry.commit.pendingAuditEvent
  events : receiptEvents store.outbox entry.identity = .ok entry.receipt.events
  answer : entry.receipt = entry.commit.answer entry.receipt.events
  asked : entry.receipt.events.map (·.content) = entry.commit.events.map (·.content)

section
variable {applied : List AppliedCommit} (holds : Holds store applied)
  (wrote : Wrote store commit next receipt)
include holds wrote

theorem Wrote.recorded : Recorded next ⟨commit, receipt⟩ where
  __ := wrote
  receipt := by
    rw [wrote.priorReceipt_next]
    exact if_pos rfl
  audit := by
    rw [wrote.audit_next (holds.unaudited wrote)]
    exact if_pos rfl
  asked := holds.answered wrote

theorem Recorded.later (recorded : Recorded store entry)
    (apart : commit.receiptIdentity ≠ entry.identity) : Recorded next entry where
  __ := recorded
  receipt := by
    rw [wrote.priorReceipt_next, if_neg apart]
    exact recorded.receipt
  audit := by
    rw [wrote.audit_next (holds.unaudited wrote), if_neg apart]
    exact recorded.audit
  events := by
    rw [receiptEvents, appendOutboxEvents_filter (Ne.symm apart) wrote.outbox]
    exact recorded.events

end

theorem Recorded.replay (recorded : Recorded store entry)
    (same : commit.receiptIdentity = entry.identity) (valid : commit.validate = .ok ())
    (sha256 : List UInt8 → String) (claimed : Bool) :
    StateCommits.commit sha256 claimed store commit =
      if commit.pendingAuditEvent = entry.commit.pendingAuditEvent ∧
          commit.commandDigest = entry.commit.commandDigest then
        .ok (store, { entry.receipt with idempotentReplay := true })
      else .error (.requestConflict commit.receiptIdentity.requestId) := by
  have found := recorded.receipt
  have audit := recorded.audit
  have events := recorded.events
  rw [← same] at found audit events
  rw [StateCommits.commit, valid]
  rw [commitInTransaction, found]
  simp only [replayReceipt, replayStoredReceipt, StateCommit.receiptRow, audit, events]
  by_cases audits : entry.commit.pendingAuditEvent = commit.pendingAuditEvent
  · by_cases digests : entry.commit.commandDigest = commit.commandDigest
    · rw [if_pos ⟨audits.symm, digests.symm⟩, recorded.answer]
      simp [refuse, audits, digests, bind, Except.bind, pure, Except.pure, StateCommit.answer]
      exact same
    · rw [if_neg fun both => digests both.2.symm]
      simp [refuse, audits, digests, bind, Except.bind]
  · rw [if_neg fun both => audits both.1.symm]
    simp [refuse, audits, bind, Except.bind]

end StateCommits

variable (sha256 : List UInt8 → String) {ledger : CommitLedger}

namespace CommitLedger

def empty : CommitLedger := ⟨.empty, []⟩

def execute (sha256 : List UInt8 → String) (store : CommitStore) (call : CommitCall) :
    CommitStore × StorageResult CommitReceipt :=
  Fallible.commit store (commit sha256 call.claimed store call.commit)

/-- An accepted commit of a new identity is noted with its answer. -/
def observe (applied : List AppliedCommit) (commit : StateCommit) :
    StorageResult CommitReceipt → List AppliedCommit
  | .ok receipt =>
    if commit.receiptIdentity ∈ applied.map (·.identity) then applied
    else applied ++ [⟨commit, receipt⟩]
  | .error _ => applied

def step (sha256 : List UInt8 → String) (ledger : CommitLedger) (call : CommitCall) :
    CommitLedger :=
  let (store, answer) := execute sha256 ledger.store call
  ⟨store, observe ledger.applied call.commit answer⟩

structure Sound (ledger : CommitLedger) : Prop where
  recorded : ∀ entry ∈ ledger.applied, Recorded ledger.store entry
  stored : Holds ledger.store ledger.applied
  once : (ledger.applied.map (·.identity)).Nodup
  revisions : ∀ stream, storedStateRevision ledger.store.state stream =
    ledger.applied.countP fun entry => entry.commit.writes stream
  positioned : Positioned ledger.store.outbox
  journaled : Journaled ledger.store.journal

theorem Sound.empty : Sound CommitLedger.empty where
  recorded := forall_mem_nil _
  stored := ⟨rfl, rfl, rfl, rfl, ⟨rfl, trivial, rfl⟩, fun _ => rfl⟩
  once := nodup_nil
  revisions := fun _ => rfl
  positioned := fun _ => rfl
  journaled := ⟨fun _ => rfl, forall_mem_nil _⟩

/-- A call leaves the ledger alone, or appends a commit of a new identity. -/
theorem Sound.step_cases (sound : Sound ledger) (call : CommitCall) :
    (call.commit.receiptIdentity ∈ ledger.applied.map (·.identity) ∨
        ∃ error, (execute sha256 ledger.store call).2 = .error error) ∧
      step sha256 ledger call = ledger ∨
    ∃ receipt, (execute sha256 ledger.store call).2 = .ok receipt ∧
      (step sha256 ledger call).applied = ledger.applied ++ [⟨call.commit, receipt⟩] ∧
        Wrote ledger.store call.commit (step sha256 ledger call).store receipt := by
  unfold step execute
  cases outcome : StateCommits.commit sha256 call.claimed ledger.store call.commit with
  | error error => exact .inl ⟨.inr ⟨error, rfl⟩, rfl⟩
  | ok success =>
    obtain ⟨_, receipt⟩ := success
    rcases commit_eq_ok outcome with ⟨rfl, _, prior⟩ | wrote
    · have known := (sound.stored.known _).mp prior
      left
      simp only [Fallible.commit, observe, known, if_true, true_or, true_and]
    · right
      refine ⟨receipt, rfl, ?_, wrote⟩
      simp only [Fallible.commit, observe, sound.stored.fresh wrote, if_false]

theorem Sound.step (ledger : CommitLedger) (call : CommitCall) (sound : Sound ledger) :
    Sound (step sha256 ledger call) := by
  rcases sound.step_cases sha256 call with ⟨_, same⟩ | ⟨_, _, applied, wrote⟩
  · rwa [same]
  · have fresh := sound.stored.fresh wrote
    constructor
    · rw [applied]
      refine forall_mem_concat (fun entry old => ?_) (wrote.recorded sound.stored)
      refine (sound.recorded entry old).later sound.stored wrote fun same => ?_
      exact fresh (same ▸ mem_map_of_mem old)
    · rw [applied]
      exact sound.stored.written wrote
    · rw [applied, map_append, map_singleton, ← concat_eq_append]
      exact sound.once.concat fresh
    · intro _
      rw [applied, wrote.revision, sound.revisions, countP_append, countP_singleton]
    · exact wrote.positioned sound.positioned
    · exact wrote.journaled sound.journaled

structure ExactlyOnce (sha256 : List UInt8 → String) (ledger : CommitLedger) : Prop where
  /-- No identity wrote twice. -/
  once : (ledger.applied.map (·.identity)).Nodup
  /-- The tables hold what the noted commits asked for. -/
  stored : Holds ledger.store ledger.applied
  /-- A receipt names its commit, and its events are those of the commit. -/
  receipts : ∀ entry ∈ ledger.applied,
    entry.receipt = entry.commit.answer entry.receipt.events ∧
      entry.receipt.events.map (·.content) = entry.commit.events.map (·.content)
  /-- A commit of a new identity that is answered is written whole. -/
  accepted : ∀ call receipt, (execute sha256 ledger.store call).2 = .ok receipt →
    call.commit.receiptIdentity ∉ ledger.applied.map (·.identity) →
      Holds (execute sha256 ledger.store call).1 (ledger.applied ++ [⟨call.commit, receipt⟩])
  /-- A call that changes a table has a new identity and is noted with it. -/
  changes : ∀ call, (execute sha256 ledger.store call).1 ≠ ledger.store →
    (∀ entry ∈ ledger.applied, call.commit.receiptIdentity ≠ entry.identity) ∧
      ∃ receipt, (step sha256 ledger call).applied = ledger.applied ++ [⟨call.commit, receipt⟩]
  /-- A later commit of an identity gets the original answer, or fails, and writes nothing. -/
  replays : ∀ entry ∈ ledger.applied, ∀ call : CommitCall,
    call.commit.receiptIdentity = entry.identity → call.commit.validate = .ok () →
      execute sha256 ledger.store call = (ledger.store,
        if call.commit.pendingAuditEvent = entry.commit.pendingAuditEvent ∧
            call.commit.commandDigest = entry.commit.commandDigest then
          .ok { entry.receipt with idempotentReplay := true }
        else .error (.requestConflict call.commit.receiptIdentity.requestId))
  /-- A failed call changes nothing. -/
  failures : ∀ call error, (execute sha256 ledger.store call).2 = .error error →
    (execute sha256 ledger.store call).1 = ledger.store
  /-- No write is lost. -/
  revisions : ∀ stream, storedStateRevision ledger.store.state stream =
    ledger.applied.countP fun entry => entry.commit.writes stream
  /-- The positions of a projection stream are `1..n`, and its head is `n`. -/
  streams : ∀ stream, (streamRows ledger.store.outbox stream).map (·.streamSequence) =
    (List.range' 1 (streamHead ledger.store.outbox stream)).map some
  journals : ∀ key, (journalRecords ledger.store.journal key).map (·.record.sequence) =
    List.range' 1 (journalRecords ledger.store.journal key).length

theorem Sound.exactlyOnce (sound : Sound ledger) (sha256 : List UInt8 → String) :
    ExactlyOnce sha256 ledger where
  __ := sound
  receipts := by
    intro entry member
    exact ⟨(sound.recorded entry member).answer, (sound.recorded entry member).asked⟩
  accepted := by
    intro call receipt answered new
    rcases sound.step_cases sha256 call with ⟨known | ⟨_, failed⟩, _⟩ | ⟨_, given, _, wrote⟩
    · exact absurd known new
    · rw [failed] at answered
      cases answered
    · rw [answered] at given
      cases given
      exact sound.stored.written wrote
  changes := by
    intro call changed
    rcases sound.step_cases sha256 call with ⟨_, same⟩ | ⟨receipt, _, applied, wrote⟩
    · exact absurd (congrArg CommitLedger.store same) changed
    · refine ⟨fun entry member same => ?_, receipt, applied⟩
      exact sound.stored.fresh wrote (same ▸ mem_map_of_mem member)
  replays := by
    intro entry member call same valid
    rw [execute, (sound.recorded entry member).replay same valid]
    split <;> rfl
  failures := by
    intro call error failed
    unfold execute at failed ⊢
    cases outcome : StateCommits.commit sha256 call.claimed ledger.store call.commit with
    | error _ => rfl
    | ok _ =>
      rw [outcome] at failed
      cases failed
  streams := sound.positioned
  journals := sound.journaled.numbered

theorem commits_exactly_once (sha256 : List UInt8 → String) (calls : List CommitCall) :
    ExactlyOnce sha256 (Runs.after (step sha256) empty calls) :=
  (Runs.after_invariant (step sha256) (Sound.step sha256) Sound.empty calls).exactlyOnce sha256

end CommitLedger

end WinWinCode.Storage
