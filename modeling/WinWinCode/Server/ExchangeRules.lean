import WinWinCode.Storage.ExchangeLedger
import WinWinCode.Server.ClientExchange

/-!
Rules for judging the exchange program. Assertions speak of the store and the
recorded facts and never of the storage faults still to come, so a judgement
holds whichever transaction fails.
-/

namespace WinWinCode.Server

open Exchange Fallible Programs Storage Tables Text ClientRegistry

variable {Body Rest : Type}

/-- An assertion about the store and the recorded facts, not about the faults
still to come. -/
abbrev Assertion (Rest : Type) := ClientStore Rest → List ExchangeFact → Prop

def At (assertion : Assertion Rest) (world : World Rest) : Prop :=
  assertion world.store world.facts

/-- A program judged by assertions on the store and the facts. -/
def Judged {α : Type} (before : Assertion Rest)
    (program : Exchange Rest α) (after : α → Assertion Rest) (failed : Assertion Rest) : Prop :=
  Triple (At before) program (fun answer => At (after answer)) (At failed)

/-- A program that keeps an assertion, however it ends. -/
abbrev Preserves {α : Type} (holds : Assertion Rest) (program : Exchange Rest α) : Prop :=
  Judged holds program (fun _ => holds) holds

variable {store : ClientStore Rest}

section Rules
variable {Err α : Type} {before failed : Assertion Rest}
  {after : α → Assertion Rest}

theorem judged_transaction {operation : ClientStore Rest → Except Err (ClientStore Rest × α)}
    {refused : ClientExchangeError} {convert : Err → ClientExchangeError}
    (commits : ∀ store facts next answer, before store facts →
      operation store = .ok (next, answer) → after answer next facts)
    (fails : ∀ store facts, before store facts → failed store facts) :
    Judged before (transaction operation refused convert) after failed := by
  intro world start
  unfold transaction
  by_cases fault : world.faults.headD false = true
  · simp only [fault, if_true]
    exact fails world.store world.facts start
  · simp only [fault, Bool.false_eq_true, if_false]
    cases done : operation world.store with
    | ok success => exact commits world.store world.facts success.1 success.2 start done
    | error _ => exact fails world.store world.facts start

theorem judged_query {operation : ClientStore Rest → Except Err α}
    (fails : ∀ store facts, before store facts → failed store facts) :
    Judged before (query operation)
      (fun answer store facts => before store facts ∧ operation store = .ok answer) failed := by
  unfold query transactionOrUnavailable
  apply judged_transaction _ fails
  intro _ _ _ _ start done
  obtain ⟨_, read, done⟩ := bind_eq_ok.mp done
  cases done
  exact ⟨start, read⟩

theorem judged_note (fact : ExchangeFact) {after : Unit → Assertion Rest}
    (holds : ∀ store facts, before store facts → after () store (facts ++ [fact])) :
    Judged before (note fact) after failed :=
  fun world start => holds world.store world.facts start

variable {program : Exchange Rest α}

theorem judged_bind {β : Type} (between : α → Assertion Rest) {next : α → Exchange Rest β}
    {after : β → Assertion Rest} (head : Judged before program between failed)
    (tail : ∀ value, Judged (between value) (next value) after failed) :
    Judged before (program >>= next) after failed :=
  triple_bind head tail

theorem judged_assume {fact : Prop} (judged : fact → Judged before program after failed) :
    Judged (fun store facts => fact ∧ before store facts) program after failed :=
  fun world start => judged start.1 world start.2

/-- What is known of the one store a program starts at can be assumed. -/
theorem judged_here {holds : ClientStore Rest → Prop}
    (judged : holds store → Judged (fun reached _ => reached = store) program after failed) :
    Judged (fun reached _ => reached = store ∧ holds reached) program after failed :=
  fun world start => judged (start.1 ▸ start.2) world start.1

end Rules

variable {node : String}

theorem snapshot_ok {record : Option ClientNodeRecord} (done : snapshot store node = .ok record) :
    store.nodeRow node = record := by
  obtain ⟨_, _, done⟩ := bind_eq_ok.mp done
  exact Except.ok.inj done

theorem highWater_ok {highest : Nat} (done : ClientDownlink.highWater store node = .ok highest) :
    highest = store.highestDownlink node ∧ highest ≤ maxSafeInteger := by
  simp only [ClientDownlink.highWater, ClientDownlink.validateClientNodeId,
    ClientDownlink.highestSequence, ClientDownlink.fromSqlInteger, refuse_bind_eq_ok] at done
  obtain ⟨_, small, success⟩ := done
  cases success
  exact ⟨rfl, Nat.not_lt.mp small⟩

section Reads
variable {before failed : Assertion Rest}

section
variable (node : String) (fails : ∀ store facts, before store facts → failed store facts)
include fails

theorem judged_nodeRecord : Judged before (nodeRecord node)
      (fun record store facts => before store facts ∧ store.nodeRow node = some record) failed := by
  apply triple_bind (judged_query fails)
  intro _
  apply triple_lift
  · intro _ present world start
    rw [okOr_eq_ok] at present
    exact ⟨start.1, (snapshot_ok start.2).trans present⟩
  · intro world start
    exact fails world.store world.facts start.1

theorem judged_cursors : Judged before (cursorsOrUnavailable node)
      (fun cursors store facts => before store facts ∧
        (cursors.clientToServerAckSequence ≤ maxSafeInteger ∧
          cursors.serverToClientAckSequence ≤ maxSafeInteger) ∧
        store.cursorRow node = some ⟨node, cursors.clientToServerAckSequence,
          cursors.serverToClientAckSequence⟩) failed := by
  apply triple_bind (judged_query fails)
  intro _
  apply triple_lift
  · intro _ present world start
    rw [okOr_eq_ok] at present
    subst present
    exact ⟨start.1, exchangeCursors_ok start.2⟩
  · intro world start
    exact fails world.store world.facts start.1

theorem judged_highWater : Judged before (outboxHighWaterOrUnavailable node)
      (fun highest store facts => before store facts ∧
        highest = store.highestDownlink node ∧ highest ≤ maxSafeInteger) failed := by
  apply triple_mono (judged_query fails)
  · intro _ _ reached
    exact ⟨reached.1, highWater_ok reached.2⟩
  · intro _ reached
    exact reached

end

end Reads

variable {record : ClientNodeRecord}

theorem nodeRow_owner (found : store.nodeRow node = some record) : record.clientNodeId = node := by
  simpa using (Table.find_eq_some found).2

theorem tryNew_ok {candidate registration : ClientNodeRegistration}
    (done : candidate.tryNew = .ok registration) :
    candidate.validate = .ok () ∧ candidate = registration := by
  obtain ⟨_, valid, success⟩ := bind_eq_ok.mp done
  exact ⟨valid, Except.ok.inj success⟩

/-- The row may still be refreshed, and the request's instant may be stored. -/
def Refreshable (record : ClientNodeRecord) (now : String) : Prop :=
  record.revision + 1 ≤ maxSafeInteger ∧ isCanonicalInstant now = true

section
variable {next : ClientStore Rest} {registration : ClientNodeRegistration} {now : String}

theorem refreshed_safe (registration : ClientNodeRegistration) (record : ClientNodeRecord) :
    Table.Safe ClientNodeRecord.Clash (fun row => row.clientNodeId == registration.clientNodeId &&
      row.revision == record.revision) (refreshed registration) :=
  fun _ _ _ => ⟨id, id⟩

def refreshedStore (store : ClientStore Rest) (registration : ClientNodeRegistration)
    (record : ClientNodeRecord) : ClientStore Rest :=
  { store with
    nodes := store.nodes.updateWhere
      (fun row => row.clientNodeId == registration.clientNodeId &&
        row.revision == record.revision)
      (refreshed registration) (refreshed_safe registration record) }

section
variable (found : store.nodeRow registration.clientNodeId = some record)
include found

theorem nodeRow_refreshed :
    (refreshedStore store registration record).nodeRow registration.clientNodeId =
      some (refreshed registration record) := by
  have updated := Table.find_updateWhere store.nodes
    (fun row => row.clientNodeId == registration.clientNodeId && row.revision == record.revision)
    (·.clientNodeId == registration.clientNodeId)
    (refreshed registration) (refreshed_safe registration record) fun _ => rfl
  have located : store.nodes.find (·.clientNodeId == registration.clientNodeId) =
      some record := found
  rw [located] at updated
  refine updated.trans ?_
  simp [Table.alter, nodeRow_owner found]

/-- Registering a node whose row is read beforehand: what the registry still
checks is the room for a revision and the instant. -/
theorem register_known {revision : Nat} {receipt : ClientNodeRegistrationReceipt}
    (done : register store registration revision now = .ok (next, receipt)) :
    Refreshable record now ∧ next = refreshedStore store registration record := by
  simp only [register] at done
  obtain ⟨_, _, done⟩ := bind_eq_ok.mp done
  simp only [validateRevision, validateInstant, refuse_bind_eq_ok, found, Bool.not_eq_false] at done
  obtain ⟨_, instant, done⟩ := done
  obtain ⟨_, _, done⟩ := bind_eq_ok.mp done
  obtain ⟨_, refresh, done⟩ := bind_eq_ok.mp done
  obtain ⟨_, _, done⟩ := bind_eq_ok.mp done
  simp only [refreshClientNodeProjection, sqlInteger, refuse_bind_eq_ok, not_lt] at refresh
  obtain ⟨_, room, success⟩ := refresh
  rw [← (Prod.mk.inj (Except.ok.inj done)).1, ← Except.ok.inj success]
  exact ⟨⟨room, instant⟩, rfl⟩

end

theorem nodeRow_self (found : store.nodeRow node = some record) :
    store.nodeRow record.clientNodeId = some record := by
  rw [nodeRow_owner found, found]

/-- A takeover keeps what its registration keeps; every other way through it writes nothing. -/
theorem preserves_supersede {holds : Assertion Rest} {envelope : ClientToServerEnvelope Body}
    (registers : ∀ store facts next receipt payload current, holds store facts →
      envelope.message.helloPayload = some payload → store.nodeRow node = some current →
      (helloRegistration current envelope.clientInstanceId payload).validate = .ok () →
      register store (helloRegistration current envelope.clientInstanceId payload)
        current.revision now = .ok (next, receipt) → holds next facts) :
    Preserves holds (supersedeInstance node envelope now : Exchange Rest Unit) := by
  unfold supersedeInstance
  split
  · exact triple_pure fun _ start => start
  rename_i payload greeted
  apply triple_bind (judged_query fun _ _ start => start)
  intro current
  cases current with
  | none => exact triple_pure fun _ start => start.1
  | some current =>
    dsimp only
    split
    · exact triple_pure fun _ start => start.1
    split
    · exact triple_pure fun _ start => start.1
    rename_i registration accepted
    obtain ⟨valid, rfl⟩ := tryNew_ok accepted
    refine judged_bind (fun _ => holds) ?_ fun _ => triple_pure fun _ start => start
    apply judged_transaction
    · intro store facts next receipt start done
      exact registers store facts next receipt payload current start.1 greeted
        (snapshot_ok start.2) valid done
    · exact fun _ _ start => start.1

end

section Calm
variable {Err α : Type} {world : World Rest}
  {operation : ClientStore Rest → Except Err (ClientStore Rest × α)}
  {refused : ClientExchangeError} {convert : Err → ClientExchangeError}

theorem transaction_calm (calm : world.faults = [])
    {next : ClientStore Rest} {answer : α} (done : operation world.store = .ok (next, answer)) :
    transaction operation refused convert world = ({ world with store := next }, .ok answer) := by
  simp [transaction, calm, done]

theorem transaction_refused (calm : world.faults = []) {error : Err}
    (failed : operation world.store = .error error) :
    transaction operation refused convert world = (world, .error (convert error)) := by
  cases world
  simp only at calm failed
  subst calm
  simp [transaction, failed]

theorem query_calm (calm : world.faults = []) {operation : ClientStore Rest → Except Err α}
    {answer : α} (done : operation world.store = .ok answer) :
    query operation world = (world, .ok answer) := by
  have read : (operation world.store >>= fun answer => pure (world.store, answer)) =
      .ok (world.store, answer) := bind_eq_ok.mpr ⟨answer, done, rfl⟩
  unfold query transactionOrUnavailable
  rw [transaction_calm calm read]

def CalmAt (store : ClientStore Rest) (world : World Rest) : Prop :=
  world.faults = [] ∧ world.store = store

theorem calm_query (store : ClientStore Rest) (operation : ClientStore Rest → Except Err α) :
    Triple (CalmAt store) (query operation) (fun _ => CalmAt store) (CalmAt store) := by
  rintro world ⟨calm, rfl⟩
  cases read : operation world.store with
  | ok answer =>
    rw [query_calm calm read]
    exact ⟨calm, rfl⟩
  | error error =>
    have failed : (operation world.store >>= fun answer => pure (world.store, answer)) =
        .error error := by
      rw [read]
      rfl
    unfold query transactionOrUnavailable
    rw [transaction_refused calm failed]
    exact ⟨calm, rfl⟩

theorem refuse_passes {refused : Prop} [Decidable refused] {error : ClientExchangeError}
    (world : World Rest) (passes : ¬ refused) :
    (Program.lift (refuse refused error) : Exchange Rest Unit) world = (world, .ok ()) := by
  rw [Program.lift, refuse_eq_ok.mpr passes]

variable (calm : world.faults = []) (canonical : isCanonicalId "cnd_" node = true)
include calm canonical

theorem snapshot_calm :
    query (snapshot · node) world = (world, .ok (world.store.nodeRow node)) := by
  apply query_calm calm
  simp only [snapshot, validateClientNodeId,
    validateCrockfordId, refuse_bind_eq_ok, canonical, Bool.true_eq_false,
    not_false_eq_true, true_and]
  rfl

theorem nodeRecord_calm (found : world.store.nodeRow node = some record) :
    nodeRecord node world = (world, .ok record) := by
  unfold nodeRecord
  rw [Program.bind_ok (snapshot_calm calm canonical), found]
  rfl

theorem cursors_calm {row : CursorRow} (found : world.store.cursorRow node = some row)
    (up : row.clientToServerAckSequence ≤ maxSafeInteger)
    (down : row.serverToClientAckSequence ≤ maxSafeInteger) : cursorsOrUnavailable node world =
      (world, .ok ⟨row.clientToServerAckSequence, row.serverToClientAckSequence⟩) := by
  have loaded : exchangeCursors world.store.toExchangeTables node =
      .ok (some ⟨row.clientToServerAckSequence, row.serverToClientAckSequence⟩) := by
    simp only [exchangeCursors, validateClientNodeId,
      validateCrockfordId, refuse_bind_eq_ok, canonical, Bool.true_eq_false,
      not_false_eq_true, true_and, loadExchangeCursors, found,
      fromSqlInteger, not_lt, up, down]
    rfl
  have read : query (exchangeCursors ·.toExchangeTables node)
      world = _ := query_calm calm loaded
  unfold cursorsOrUnavailable
  rw [Program.bind_ok read]
  rfl

theorem highWater_calm (small : world.store.highestDownlink node ≤ maxSafeInteger) :
    outboxHighWaterOrUnavailable node world = (world, .ok (world.store.highestDownlink node)) := by
  apply query_calm calm
  simp only [ClientDownlink.highWater, ClientDownlink.validateClientNodeId, refuse_bind_eq_ok,
    canonical, Bool.true_eq_false, not_false_eq_true, true_and, ClientDownlink.highestSequence,
    ClientDownlink.fromSqlInteger, not_lt, small]
  rfl

end Calm

end WinWinCode.Server
