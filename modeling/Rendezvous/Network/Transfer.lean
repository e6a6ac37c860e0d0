import Rendezvous.Network.Delivery

/-!
# Transfer of values

* `send`: a value takes the next place of the stream.
* `syncSend`: so does this value, and its sender waits until it is received. A failure that is
  pending on the channel ends the wait on the spot, unless a receiver is waiting already.
* `receive`: the receiver gets the next value, or the failure that has arrived, or waits.

Senders and receivers never wait inside an operation. The operation registers their strand with
the channel and suspends it, and a later operation of the other side wakes it.
-/

namespace Rendezvous.Network

variable {τ ε : Type}

/-- Wakes the strand that waits to receive, if there is one. -/
def wakeReceiver (n : Network τ ε) (c : Channel.Ref) : Network τ ε :=
  match (n.channel c).receiver with
  | none => n
  | some s =>
    let n := n.updateChannel c fun channel => { channel with receiver := none }
    (n.emit (.wakingReceiver (n.channelTag c) (n.strandTag s))).wake s

/-- Sends a value and goes on. -/
def send (n : Network τ ε) (c : Channel.Ref) (value : τ) (s : Strand.Ref) : Network τ ε :=
  let n := n.updateChannel c (·.enqueue ⟨value, false⟩)
  let n := n.emit (.sent (n.channelTag c) (n.strandTag s) (n.channel c).sendCount)
  n.wakeReceiver c

/-- Suspends a sender until its value is received. It takes the place of any other. -/
def parkSyncSender (n : Network τ ε) (c : Channel.Ref) (p : Party) : Network τ ε :=
  let n := n.suspend p.strand
  let displaced := (n.channel c).syncSender
  let n := n.updateChannel c fun channel => { channel with syncSender := some p }
  match displaced with
  | none => n
  | some other => n.emit (.syncSenderReplaced (n.channelTag c) (n.strandTag other.strand))

/-- Sends a value and waits until it is received. The answer says whether the wait is over: then
the slot has got a failure that was pending on the channel. -/
def syncSend (n : Network τ ε) (c : Channel.Ref) (value : τ) (s : Strand.Ref) (d : Slot.Ref) :
    Network τ ε × Bool :=
  let n := n.updateChannel c (·.enqueue ⟨value, true⟩)
  let n := n.emit (.syncSent (n.channelTag c) (n.strandTag s) (n.channel c).sendCount)
  if (n.channel c).hasReceiver then
    ((n.parkSyncSender c ⟨s, d⟩).wakeReceiver c, false)
  else
    match (n.channel c).pending.take? with
    | some (f, pending) =>
      let n := n.updateChannel c fun channel => { channel with pending }
      let n := n.emit (.syncSendFailed (n.channelTag c) (n.strandTag s) f.kind)
      let n := n.updateChannel c (·.releaseNewest)
      ((n.offer d (.failed f)).1, true)
    | none => (n.parkSyncSender c ⟨s, d⟩, false)

/-- The value just received is one for which a sender waits. -/
def releaseSyncSender (n : Network τ ε) (c : Channel.Ref) : Network τ ε :=
  match (n.channel c).syncSender with
  | none => n.emit (.syncOrphaned (n.channelTag c))
  | some p =>
    let n := n.updateChannel c fun channel => { channel with syncSender := none }
    let n := n.emit (.syncReceived (n.channelTag c) (n.strandTag p.strand))
    (n.deliver p .done).1

/-- A value has just been received. If that drained the channel for the flushing sender, its
coordinator is told. -/
def noteDrained (n : Network τ ε) (c : Channel.Ref) : Network τ ε :=
  match (n.channel c).drainedSender? with
  | none => n
  | some p =>
    let n := n.updateChannel c fun channel => { channel with flushSender := none }
    let n := n.emit (.flushDrained (n.channelTag c) (n.strandTag p.strand))
    n.notifyDrained p.coordinator c.id

/-- Receives the first message of the queue, where `rest` are those behind it. -/
def receiveMessage (n : Network τ ε) (c : Channel.Ref) (s : Strand.Ref) (m : Message τ)
    (rest : List (Message τ)) : Network τ ε :=
  let n := n.updateChannel c fun channel => { channel with queue := rest }.countReceived
  let n := n.emit (.received (n.channelTag c) (n.strandTag s) (n.channel c).recvCount)
  let n := if m.sync then n.releaseSyncSender c else n
  n.noteDrained c

/-- Receives a failure, where `pending` are those that stay. -/
def receiveFailure (n : Network τ ε) (c : Channel.Ref) (s : Strand.Ref) (f : Failure ε)
    (pending : Pending ε) : Network τ ε :=
  let n := n.updateChannel c fun channel => { channel with pending }.countReceived
  n.emit (.failureReceived (n.channelTag c) (n.strandTag s) f.kind (n.channel c).recvCount)

/-- Suspends a strand until there is something to receive. It takes the place of any other. -/
def parkReceiver (n : Network τ ε) (c : Channel.Ref) (s : Strand.Ref) : Network τ ε :=
  let n := match (n.channel c).receiver with
    | none => n
    | some other =>
      if other = s then n
      else n.emit (.receiverDisplaced (n.channelTag c) (n.strandTag other) (n.strandTag s))
  let n := n.suspend s
  let n := n.updateChannel c fun channel => { channel with receiver := some s }
  n.emit (.receiveParked (n.channelTag c) (n.strandTag s))

/-- Tries to receive. Every value comes before a failure that was reported later. -/
def receive (n : Network τ ε) (c : Channel.Ref) (s : Strand.Ref) :
    Network τ ε × Received τ ε :=
  match (n.channel c).queue with
  | m :: rest => (n.receiveMessage c s m rest, .value m.value)
  | [] =>
    match (n.channel c).arrived? with
    | some (f, pending) => (n.receiveFailure c s f pending, .failed f)
    | none => (n.parkReceiver c s, .retry)

end Rendezvous.Network
