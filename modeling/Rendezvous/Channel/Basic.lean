import Rendezvous.Channel.Options
import Rendezvous.Channel.Pending
import Rendezvous.Identity

/-!
# Channels

The state of one channel, and the ways in which its parts change. A channel joins one sending to
one receiving worker.

* **The stream.** `queue` holds the values that were sent and not yet received, first come, first
  served. `sendCount` counts the places taken by the sending side, one for each value and each
  failure of the sender; `recvCount` counts those consumed by the receiving side, and the
  receiver's own failures. Both are 64-bit words.
* **The registrations.** At most one strand waits to receive, at most one sender waits until its
  value is received, and at most one waits until everything it sent is received.
* **The failures** that nobody has consumed yet, `pending`. The sender's failure comes into view of
  the receiver once a single place is left before it (`Channel.arrived?`).
-/

namespace Rendezvous

/-- A value on its way. -/
structure Message (τ : Type) where
  value : τ
  /-- Whether a sender waits until this value is received. -/
  sync : Bool
  deriving DecidableEq

/-- A suspended sender and the slot into which its resolution is delivered. -/
structure Party where
  strand : Strand.Ref
  slot : Slot.Ref
  deriving DecidableEq, Inhabited

/-- A sender that is suspended until what it sent before is received. -/
structure FlushParty extends Party where
  /-- The channel has drained once this many places are consumed. -/
  threshold : UInt64
  /-- Who is told once the channel has drained. -/
  coordinator : Coordinator.Ref
  deriving DecidableEq, Inhabited

/-- The state of a channel. -/
structure Channel (τ ε : Type) where
  name : Option String := none
  /-- Whether a receive-side failure that nobody waits for is kept. -/
  retainReceiveFailures : Bool := false
  queue : List (Message τ) := []
  sendCount : UInt64 := 0
  recvCount : UInt64 := 0
  /-- The strand that waits to receive. -/
  receiver : Option Strand.Ref := none
  /-- The sender that waits until its value is received. -/
  syncSender : Option Party := none
  /-- The sender that waits until everything it sent is received. -/
  flushSender : Option FlushParty := none
  pending : Pending ε := {}
  deriving DecidableEq

namespace Channel

variable {τ ε : Type}

instance : Inhabited (Channel τ ε) := ⟨{}⟩

/-- A channel on which nothing has happened yet. -/
def create (options : ChannelOptions) : Channel τ ε :=
  { name := options.name, retainReceiveFailures := options.retainReceiveFailures }

/-- How log events name the channel to which `c` refers. -/
def tag (channel : Channel τ ε) (c : Channel.Ref) : ChannelTag := ⟨c.id, channel.name⟩

/-! ## What can be observed -/

/-- The number of values on their way. -/
def size (channel : Channel τ ε) : Nat := channel.queue.length

def isEmpty (channel : Channel τ ε) : Bool := channel.queue.isEmpty

/-- The places taken by the sending side and not yet consumed, never less than none. -/
def backlog (channel : Channel τ ε) : UInt64 :=
  if channel.recvCount ≤ channel.sendCount then channel.sendCount - channel.recvCount else 0

def hasReceiver (channel : Channel τ ε) : Bool := channel.receiver.isSome

def hasSyncSender (channel : Channel τ ε) : Bool := channel.syncSender.isSome

def hasFlushSender (channel : Channel τ ε) : Bool := channel.flushSender.isSome

/-- Whether a sender waits here, for whatever reason. -/
def hasSender (channel : Channel τ ε) : Bool := channel.hasSyncSender || channel.hasFlushSender

def hasPendingFailure (channel : Channel τ ε) : Bool := !channel.pending.isEmpty

/-- The diagnostic text of the channel to which `c` refers. -/
def describe (channel : Channel τ ε) (c : Channel.Ref) : String :=
  Text.record "Channel"
    [("id", inspect c.id),
     ("name", inspect channel.name),
     ("send_count", inspect channel.sendCount),
     ("recv_count", inspect channel.recvCount),
     ("buffered", inspect channel.size),
     ("pending_receiver", inspect channel.hasReceiver),
     ("waiting_sync_sender", inspect channel.hasSyncSender),
     ("waiting_flush_sender", inspect channel.hasFlushSender),
     ("pending_failure", inspect channel.hasPendingFailure)]

/-! ## The stream -/

/-- Takes the next place for a value. -/
def enqueue (channel : Channel τ ε) (m : Message τ) : Channel τ ε :=
  { channel with queue := channel.queue ++ [m], sendCount := channel.sendCount + 1 }

/-- Takes the next place for something that is not a value. -/
def countSent (channel : Channel τ ε) : Channel τ ε :=
  { channel with sendCount := channel.sendCount + 1 }

/-- Consumes a place. -/
def countReceived (channel : Channel τ ε) : Channel τ ε :=
  { channel with recvCount := channel.recvCount + 1 }

/-- Everything that took a place has been consumed. -/
def isDrained (channel : Channel τ ε) : Bool := channel.sendCount ≤ channel.recvCount

/-- The failure that the receiver meets when no value is left, and what then stays pending: a
failure has arrived if exactly one place is left. -/
def arrived? (channel : Channel τ ε) : Option (Failure ε × Pending ε) :=
  if channel.sendCount = channel.recvCount + 1 then channel.pending.take? else none

/-- The flushing sender for whom the channel has just drained. -/
def drainedSender? (channel : Channel τ ε) : Option FlushParty :=
  channel.flushSender.filter (·.threshold == channel.recvCount)

/-! ## Values that nobody waits for any more -/

/-- The first message of a list no longer has a sender that waits for it. -/
def releaseHead : List (Message τ) → List (Message τ)
  | [] => []
  | m :: l => { m with sync := false } :: l

/-- The first message of a list for which a sender waits no longer has one. -/
def releaseFirst : List (Message τ) → List (Message τ)
  | [] => []
  | m :: l => if m.sync then { m with sync := false } :: l else m :: releaseFirst l

/-- Nobody waits for the value that was sent last. -/
def releaseNewest (channel : Channel τ ε) : Channel τ ε :=
  { channel with queue := (releaseHead channel.queue.reverse).reverse }

/-- Nobody waits any more for the newest value that a sender waited for. -/
def releaseSync (channel : Channel τ ε) : Channel τ ε :=
  { channel with queue := (releaseFirst channel.queue.reverse).reverse }

theorem map_value_releaseHead (l : List (Message τ)) :
    (releaseHead l).map (·.value) = l.map (·.value) := by
  cases l <;> rfl

theorem map_value_releaseFirst (l : List (Message τ)) :
    (releaseFirst l).map (·.value) = l.map (·.value) := by
  induction l with
  | nil => rfl
  | cons m l ih => by_cases h : m.sync = true <;> simp [releaseFirst, h, ih]

/-- Releasing the newest value changes no value and no order. -/
theorem values_releaseNewest (channel : Channel τ ε) :
    channel.releaseNewest.queue.map (·.value) = channel.queue.map (·.value) := by
  simp [releaseNewest, map_value_releaseHead]

/-- Releasing a sender changes no value and no order. -/
theorem values_releaseSync (channel : Channel τ ε) :
    channel.releaseSync.queue.map (·.value) = channel.queue.map (·.value) := by
  simp [releaseSync, map_value_releaseFirst]

end Channel

end Rendezvous
