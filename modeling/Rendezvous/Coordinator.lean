import Rendezvous.Identity

/-!
# Flush coordinators

A coordinator is told which channels have drained.

* A barrier releases one sender once it has heard of enough different channels.
* A drain log writes down what it is told, with repetitions, and does nothing else.
-/

namespace Rendezvous

/-- Releases the sender `strand` through `slot` once `expected` different channels have drained. -/
structure Barrier where
  strand : Strand.Ref
  slot : Slot.Ref
  expected : Nat
  /-- The channels that have drained, each once, in the order in which they did. -/
  drained : List ChannelId := []
  deriving DecidableEq, Inhabited

namespace Barrier

/-- How many different channels have drained. -/
def drainedCount (b : Barrier) : Nat := b.drained.length

def isComplete (b : Barrier) : Bool := b.expected ≤ b.drainedCount

/-- Notes a channel that was not known to have drained. -/
def note (b : Barrier) (id : ChannelId) : Barrier := { b with drained := b.drained ++ [id] }

end Barrier

/-- Somebody who is told which channels have drained. -/
inductive Coordinator where
  | barrier (b : Barrier)
  | drainLog (ids : List ChannelId)
  deriving DecidableEq

instance : Inhabited Coordinator := ⟨.drainLog []⟩

end Rendezvous
