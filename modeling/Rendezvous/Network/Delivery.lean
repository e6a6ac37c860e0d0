import Rendezvous.Network.Scheduling

/-!
# Delivery

How suspended senders are released.

* `offer`: gives a resolution to a slot, which accepts the first one only.
* `deliver`: gives a resolution to a suspended sender. The sender is woken exactly if its slot
  accepts the resolution.
* `notifyDrained`: tells a coordinator that a channel has drained. A barrier counts each channel
  once, and releases its sender at the moment the count becomes what it expects.
-/

namespace Rendezvous.Network

variable {τ ε : Type}

/-- Offers a resolution to a slot; what the slot refuses comes back. -/
def offer (n : Network τ ε) (d : Slot.Ref) (r : Resolution ε) :
    Network τ ε × Option (Resolution ε) :=
  match (n.slot d).offer r with
  | .ok slot => (n.setSlot d slot, none)
  | .error refused => (n, some refused)

/-- Takes the resolution out of a slot, if there is one to take. -/
def take (n : Network τ ε) (d : Slot.Ref) : Network τ ε × Option (Resolution ε) :=
  (n.setSlot d (n.slot d).take.2, (n.slot d).take.1)

/-- Delivers a resolution to a suspended sender; what its slot refuses comes back. -/
def deliver (n : Network τ ε) (p : Party) (r : Resolution ε) :
    Network τ ε × Option (Resolution ε) :=
  match n.offer p.slot r with
  | (n, none) => (n.wake p.strand, none)
  | (n, some refused) => (n.emit (.alreadyResolved (n.strandTag p.strand)), some refused)

/-- A barrier that has heard of all its channels releases its sender. -/
def completeBarrier (n : Network τ ε) (b : Barrier) : Network τ ε :=
  match n.offer b.slot .done with
  | (n, none) => (n.emit (.flushComplete (n.strandTag b.strand))).wake b.strand
  | (n, some _) => n

/-- Tells a coordinator that the channel with that number has drained. -/
def notifyDrained (n : Network τ ε) (k : Coordinator.Ref) (id : ChannelId) : Network τ ε :=
  match n.coordinator k with
  | .drainLog ids => n.setCoordinator k (.drainLog (ids ++ [id]))
  | .barrier b =>
    if id ∈ b.drained then n.emit (.drainRepeated id (n.strandTag b.strand))
    else
      let b := b.note id
      let n := n.setCoordinator k (.barrier b)
      let n := n.emit (.drainNoted id (n.strandTag b.strand) b.drainedCount b.expected)
      if b.drainedCount = b.expected then n.completeBarrier b else n

end Rendezvous.Network
