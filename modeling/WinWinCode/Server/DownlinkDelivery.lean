import WinWinCode.Storage.DownlinkStream
import WinWinCode.Server.ExchangeRules

/-!
The downlink of every node as a system: the server's tables, one device per node,
and a network that keeps every batch it delivered and every cursor a device
reported. Taking a report or a batch from the network at any time and any number
of times is how requests and responses get lost, delayed and repeated.

The uplink half of a request enters through its own transactions, the reservation
and the completion of a frame; the downlink half is `downlinkExchange`. Positions
are read off the stored rows, whose texts carry the same numbers.
-/

namespace WinWinCode.Server

open Counting Exchange Fallible Programs Storage Tables Text

variable {Body Rest : Type}

/-- The part of `client_exchange` that concerns the downlink: the range check of the
reported cursor and the close of the request. -/
def downlinkExchange (host : ExchangeHost Body Rest) (node : String)
    (ackSequence clientAck : Nat) : Exchange Rest (List ClientDownlinkFrame) := do
  let cursors ← cursorsOrUnavailable node
  let highWater ← outboxHighWaterOrUnavailable node
  Program.lift (refuse (max cursors.serverToClientAckSequence highWater < clientAck)
    .invalidRequest)
  deliverBatch host node ackSequence clientAck

/-- The device's side of a downlink: its cursor, what it accepted, and whether it
ever saw a gap. -/
structure DownlinkDevice where
  cursor : AckCursor
  accepted : List ClientDownlinkFrame
  sawGap : Bool

namespace DownlinkDevice

def new : DownlinkDevice := ⟨.new, [], false⟩

/-- `ingest_downlink`: an accepted frame is applied and advances the cursor, a gap
or a zero ends the batch. -/
def ingestDownlink (device : DownlinkDevice) : List ClientDownlinkFrame → DownlinkDevice
  | [] => device
  | frame :: rest =>
    match device.cursor.observe frame.sequence with
    | .accept =>
      match device.cursor.advance frame.sequence with
      | .ok cursor =>
        ingestDownlink
          { device with cursor := cursor, accepted := device.accepted ++ [frame] } rest
      | .error _ => device
    | .duplicate => ingestDownlink device rest
    | .gap _ => { device with sawGap := true }
    | .zero => device

end DownlinkDevice

structure DownlinkSystem (Rest : Type) where
  store : ClientStore Rest
  devices : String → DownlinkDevice
  /-- The frames of the appends and replies that were accepted, in order. -/
  assigned : List ClientDownlinkFrame
  /-- Cursors the devices reported and batches the server delivered. -/
  reports : List (String × Nat)
  batches : List (String × List ClientDownlinkFrame)

inductive DownlinkEvent where
  | enroll (registration : ClientNodeRegistration) (revision : Nat) (now : String)
  | reserve (node : String) (sequence : Nat) (messageId digest : String) (key : Option String)
  | complete (node : String) (sequence : Nat) (key : Option String)
      (reply : Option ClientDownlinkAppend) (now : String)
  | append (append : ClientDownlinkAppend) (now : String)
  /-- A request with any acknowledgement at all. -/
  | exchange (node : String) (ackSequence clientAck : Nat) (faults : List Bool)
  | report (node : String)
  /-- A request that carries a cursor its device reported. -/
  | poll (report ackSequence : Nat) (faults : List Bool)
  /-- A device works through the front of a delivered batch. -/
  | receive (batch count : Nat)

namespace DownlinkSystem

variable (host : ExchangeHost Body Rest) (system : DownlinkSystem Rest)

/-- A call succeeded with these frames to append. -/
def answered (store : ClientStore Rest) (frames : List ClientDownlinkFrame) : DownlinkSystem Rest :=
  { system with store := store, assigned := system.assigned ++ frames }

abbrev written (store : ClientStore Rest) : DownlinkSystem Rest := { system with store := store }

/-- The frame that an accepted reply asks for; `complete_exchange_frame_with_reply` answers
nothing. -/
def replied (node now : String) (reply : ClientDownlinkAppend) : ClientDownlinkFrame :=
  ⟨node, reply.sequence, reply.messageId, reply.frame, now⟩

def exchange (node : String) (ackSequence clientAck : Nat)
    (faults : List Bool) : DownlinkSystem Rest :=
  match downlinkExchange host node ackSequence clientAck ⟨system.store, faults, []⟩ with
  | (world, .ok batch) =>
    { system.written world.store with batches := system.batches ++ [(node, batch)] }
  | (world, .error _) => system.written world.store

def validReply : Option ClientDownlinkAppend → DownlinkResult (Option ClientDownlinkAppend)
  | none => .ok none
  | some reply => (ClientDownlink.tryNew host.isJson reply).map some

def complete (node : String) (sequence : Nat)
    (key : Option String) (reply : Option ClientDownlinkAppend) (now : String) :
    DownlinkSystem Rest :=
  match validReply host reply with
  | .error _ => system
  | .ok reply =>
    match ClientRegistry.completeExchangeFrameWithReply system.store node sequence key
      (reply.map fun reply => (reply, now)) with
    | .error _ => system
    | .ok store => system.answered store (reply.map (replied node now)).toList

def append (system : DownlinkSystem Rest) (append : ClientDownlinkAppend) (now : String) :
    DownlinkSystem Rest :=
  match ClientDownlink.tryNew host.isJson append with
  | .error _ => system
  | .ok append =>
    match ClientDownlink.appendLaunchInTransaction system.store append now with
    | .error _ => system
    | .ok (store, frame) => system.answered store [frame]

def receive (node : String) (batch : List ClientDownlinkFrame) : DownlinkSystem Rest :=
  { system with devices := fun other =>
      if other = node then (system.devices other).ingestDownlink batch else system.devices other }

def step : DownlinkEvent → DownlinkSystem Rest
  | .enroll registration revision now =>
    match ClientRegistry.register system.store registration revision now with
    | .error _ => system
    | .ok (store, _) => system.written store
  | .reserve node sequence messageId digest key =>
    match ClientRegistry.reserveExchangeFrame system.store.toExchangeTables node sequence
      messageId digest key with
    | .error _ => system
    | .ok (tables, _) => system.written { system.store with toExchangeTables := tables }
  | .complete node sequence key reply now => system.complete host node sequence key reply now
  | .append append now => system.append host append now
  | .exchange node ackSequence clientAck faults =>
    system.exchange host node ackSequence clientAck faults
  | .report node =>
    { system with
      reports := system.reports ++ [(node, (system.devices node).cursor.ackSequence)] }
  | .poll report ackSequence faults =>
    match system.reports[report]? with
    | none => system
    | some (node, clientAck) => system.exchange host node ackSequence clientAck faults
  | .receive batch count =>
    match system.batches[batch]? with
    | none => system
    | some (node, frames) => system.receive node (frames.take count)

def start (rest : Rest) : DownlinkSystem Rest where
  store := { cursors := .empty, frames := .empty, commands := .empty, nodes := .empty,
             downlink := .empty, rest := rest }
  devices := fun _ => .new
  assigned := []
  reports := []
  batches := []

def assignedTo (node : String) : List ClientDownlinkFrame :=
  system.assigned.filter fun row => row.clientNodeId == node

end DownlinkSystem

end WinWinCode.Server
