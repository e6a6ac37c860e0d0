import Rendezvous.Channel.Basic
import Rendezvous.Coordinator
import Rendezvous.Event
import Rendezvous.Slot
import Rendezvous.Table

/-!
# Networks

A network is everything that its workers can act on, in one value: ready sets, strands, slots,
channels, coordinators and tables, each in a store of its own, and the log of what happened. An
operation takes a network to the next one; none of them waits.

* **Reading** (`readySet`, `strand`, …) is total, and so is **writing** (`setReadySet`, …).
* **Creation** (`createReadySet`, …) gives the network and the reference of the new object.
-/

namespace Rendezvous

/-- All objects of a set of workers, and the log of what happened to them. -/
structure Network (τ ε : Type) where
  readySets : Store ReadySet.Ref ReadySet := {}
  strands : Store Strand.Ref Strand := {}
  slots : Store Slot.Ref (Slot ε) := {}
  channels : Store Channel.Ref (Channel τ ε) := {}
  coordinators : Store Coordinator.Ref Coordinator := {}
  tables : Store Table.Ref Table := {}
  /-- What happened, oldest first. -/
  log : List Event := []

namespace Network

variable {τ ε : Type}

instance : Inhabited (Network τ ε) := ⟨{}⟩

/-! ## Reading -/

abbrev readySet (n : Network τ ε) (q : ReadySet.Ref) : ReadySet := n.readySets.get q

abbrev strand (n : Network τ ε) (s : Strand.Ref) : Strand := n.strands.get s

abbrev slot (n : Network τ ε) (d : Slot.Ref) : Slot ε := n.slots.get d

abbrev channel (n : Network τ ε) (c : Channel.Ref) : Channel τ ε := n.channels.get c

abbrev coordinator (n : Network τ ε) (k : Coordinator.Ref) : Coordinator := n.coordinators.get k

abbrev table (n : Network τ ε) (t : Table.Ref) : Table := n.tables.get t

/-- How log events name a channel. -/
def channelTag (n : Network τ ε) (c : Channel.Ref) : ChannelTag := (n.channel c).tag c

/-- How log events name a strand. -/
def strandTag (n : Network τ ε) (s : Strand.Ref) : StrandTag := (n.strand s).tag s

/-! ## Writing -/

def setReadySet (n : Network τ ε) (q : ReadySet.Ref) (x : ReadySet) : Network τ ε :=
  { n with readySets := n.readySets.set q x }

def setStrand (n : Network τ ε) (s : Strand.Ref) (x : Strand) : Network τ ε :=
  { n with strands := n.strands.set s x }

def setSlot (n : Network τ ε) (d : Slot.Ref) (x : Slot ε) : Network τ ε :=
  { n with slots := n.slots.set d x }

def setChannel (n : Network τ ε) (c : Channel.Ref) (x : Channel τ ε) : Network τ ε :=
  { n with channels := n.channels.set c x }

def setCoordinator (n : Network τ ε) (k : Coordinator.Ref) (x : Coordinator) : Network τ ε :=
  { n with coordinators := n.coordinators.set k x }

def setTable (n : Network τ ε) (t : Table.Ref) (x : Table) : Network τ ε :=
  { n with tables := n.tables.set t x }

/-- Changes one channel. -/
def updateChannel (n : Network τ ε) (c : Channel.Ref) (f : Channel τ ε → Channel τ ε) :
    Network τ ε :=
  n.setChannel c (f (n.channel c))

/-- Adds an event to the log. -/
def emit (n : Network τ ε) (e : Event) : Network τ ε := { n with log := n.log ++ [e] }

/-! ## Creation -/

def createReadySet (n : Network τ ε) : Network τ ε × ReadySet.Ref :=
  (n.setReadySet n.readySets.fresh {}, n.readySets.fresh)

/-- A new strand is running. -/
def createStrand (n : Network τ ε) (name : Option String) (home : ReadySet.Ref) :
    Network τ ε × Strand.Ref :=
  (n.setStrand n.strands.fresh { name, home }, n.strands.fresh)

def createSlot (n : Network τ ε) : Network τ ε × Slot.Ref :=
  (n.setSlot n.slots.fresh .empty, n.slots.fresh)

def createChannel (n : Network τ ε) (options : ChannelOptions) : Network τ ε × Channel.Ref :=
  let c := n.channels.fresh
  let n := n.setChannel c (.create options)
  (n.emit (.created (n.channelTag c)), c)

def createDrainLog (n : Network τ ε) : Network τ ε × Coordinator.Ref :=
  (n.setCoordinator n.coordinators.fresh (.drainLog []), n.coordinators.fresh)

def createBarrier (n : Network τ ε) (s : Strand.Ref) (d : Slot.Ref) (expected : Nat) :
    Network τ ε × Coordinator.Ref :=
  (n.setCoordinator n.coordinators.fresh (.barrier { strand := s, slot := d, expected }),
    n.coordinators.fresh)

def createTable (n : Network τ ε) (options : ChannelOptions) : Network τ ε × Table.Ref :=
  (n.setTable n.tables.fresh { options }, n.tables.fresh)

end Network

end Rendezvous
