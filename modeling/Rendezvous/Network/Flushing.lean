import Rendezvous.Network.Delivery

/-!
# Flushing

A sender flushes to wait until everything it sent has been received.

* `flush`: waits for one channel. A pending failure ends the flush on the spot, and so does a
  channel on which nothing is left to receive; otherwise the sender is registered and suspended.
* `flushAll`: waits for several channels by means of one barrier. The first failure ends the flush:
  no further channel is asked, and the registrations made so far are withdrawn.

A flush of several channels is taken as one step: we assume that nobody else uses the network
between its single flushes. Each of these holds its own channel only while it looks at it, so other
workers could send, receive or fail there in between, or resolve the slot. `flushAll` does not
describe such interleavings.
-/

namespace Rendezvous.Network

variable {τ ε : Type}

/-- Suspends a sender until what it sent so far is received. It takes the place of any other. -/
def parkFlushSender (n : Network τ ε) (c : Channel.Ref) (p : Party) (k : Coordinator.Ref) :
    Network τ ε :=
  let threshold := (n.channel c).sendCount
  let n := n.emit
    (.flushParked (n.channelTag c) (n.strandTag p.strand) threshold (n.channel c).recvCount)
  let n := n.suspend p.strand
  let displaced := (n.channel c).flushSender
  let n := n.updateChannel c fun channel =>
    { channel with flushSender := some { p with threshold, coordinator := k } }
  match displaced with
  | none => n
  | some other =>
    n.emit (.flushSenderReplaced (n.channelTag c) (n.strandTag other.strand)
      (n.slot other.slot).isResolved)

/-- Waits until everything sent on the channel so far is received. The answer says whether the
wait is over: either the slot has got a failure that was pending on the channel, or nothing was
left to receive and the coordinator has been told so. -/
def flush (n : Network τ ε) (c : Channel.Ref) (s : Strand.Ref) (d : Slot.Ref)
    (k : Coordinator.Ref) : Network τ ε × Bool :=
  match (n.channel c).pending.take? with
  | some (f, pending) =>
    let n := n.updateChannel c fun channel => { channel with pending }
    let n := n.emit (.flushFailed (n.channelTag c) (n.strandTag s) f.kind)
    ((n.offer d (.failed f)).1, true)
  | none =>
    if (n.channel c).isDrained then
      let n := n.emit (.flushNothing (n.channelTag c) (n.strandTag s))
      (n.notifyDrained k c.id, true)
    else (n.parkFlushSender c ⟨s, d⟩ k, false)

/-- Removes the flushing sender that waits on that slot, if it is still registered. -/
def withdrawFlush (n : Network τ ε) (d : Slot.Ref) (c : Channel.Ref) : Network τ ε :=
  match (n.channel c).flushSender with
  | none => n
  | some p =>
    if p.slot = d then
      (n.emit (.flushWithdrawn (n.channelTag c))).updateChannel c
        fun channel => { channel with flushSender := none }
    else n

/-- Flushes the channels `rest` one after the other, after those in `asked`; `parked` says whether
the sender waits on one of these. As soon as the slot is resolved the flush is over. A sender that
waited may go on at once only if its suspension can still be taken back. -/
def flushEach (n : Network τ ε) (s : Strand.Ref) (d : Slot.Ref) (k : Coordinator.Ref)
    (asked rest : List Channel.Ref) (parked : Bool) : Network τ ε × Bool :=
  match rest with
  | [] => (n, false)
  | c :: rest =>
    let (n, ended) := n.flush c s d k
    let parked := parked || !ended
    let asked := asked ++ [c]
    if (n.slot d).isResolved then
      let n := asked.foldl (·.withdrawFlush d) n
      if parked then (n.markRunning s, n.isSuspended s) else (n, true)
    else n.flushEach s d k asked rest parked

/-- Waits until everything sent so far on all these channels is received. The answer says whether
the flush is over, in which case its result is in the slot. No other call comes between the flushes
of the single channels. -/
def flushAll (n : Network τ ε) (cs : List Channel.Ref) (s : Strand.Ref) (d : Slot.Ref) :
    Network τ ε × Bool :=
  let expected := (cs.map (·.id)).eraseDups.length
  if expected = 0 then ((n.offer d .done).1, true)
  else
    let (n, k) := n.createBarrier s d expected
    n.flushEach s d k [] cs false

end Rendezvous.Network
