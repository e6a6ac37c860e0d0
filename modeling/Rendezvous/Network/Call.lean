import Rendezvous.Network.Failing
import Rendezvous.Network.Flushing
import Rendezvous.Network.Lookup

/-!
# Calls as data

* `Operation`: what a worker can do on a channel, for interpreters that keep their instructions as
  data; `Outcome`: what it learns from it.
* `Call`: everything that can be done to a network; `Call.Answer`: what each call answers.
* `Network.perform`, `Network.run`: the network after one call, and after a list of calls.

Each call is one step, which no other call interrupts. For an operation on one channel that is how
it is used, since an operation holds its channel until it is done. For `Call.flushAll` it is an
assumption: between its flushes of the single channels other workers could use these channels.
-/

namespace Rendezvous

/-- What a worker can do on a channel. -/
inductive Operation (τ ε : Type) where
  | send (value : τ) (sender : Strand.Ref)
  | syncSend (value : τ) (sender : Strand.Ref) (slot : Slot.Ref)
  | receive (receiver : Strand.Ref)
  | flush (sender : Strand.Ref) (slot : Slot.Ref) (coordinator : Coordinator.Ref)
  | failSend (f : Failure ε)
  | failReceive (f : Failure ε)
  deriving DecidableEq

/-- What a worker learns from an operation. -/
inductive Outcome (τ ε : Type) where
  /-- Sends and reports of failures are done at once. -/
  | done
  /-- Whether a synchronous send or a flush is over. If not, the sender is suspended. -/
  | completed (ended : Bool)
  /-- What was received. -/
  | received (r : Received τ ε)
  deriving DecidableEq

instance {τ ε : Type} [Inspect τ] [Inspect ε] : Inspect (Outcome τ ε) :=
  ⟨fun
    | .done => "Done"
    | .completed ended => Text.application "Completed" [inspect ended]
    | .received r => Text.application "Received" [inspect r]⟩

/-- Everything that can be done to a network. -/
inductive Call (τ ε : Type) where
  | createReadySet
  | createStrand (name : Option String) (home : ReadySet.Ref)
  | createSlot
  | createChannel (options : ChannelOptions)
  | createDrainLog
  | createBarrier (strand : Strand.Ref) (slot : Slot.Ref) (expected : Nat)
  | createTable (options : ChannelOptions)
  | dropScheduler (q : ReadySet.Ref)
  | dropConsumer (q : ReadySet.Ref)
  | dispatch (q : ReadySet.Ref)
  | poll (q : ReadySet.Ref) (held : List Strand.Ref)
  | wake (s : Strand.Ref)
  | markRunning (s : Strand.Ref)
  | resume (s : Strand.Ref)
  | offer (d : Slot.Ref) (r : Resolution ε)
  | take (d : Slot.Ref)
  | operate (c : Channel.Ref) (op : Operation τ ε)
  | notifyDrained (k : Coordinator.Ref) (id : ChannelId)
  /-- One step, although it flushes the channels one after the other. -/
  | flushAll (cs : List Channel.Ref) (s : Strand.Ref) (d : Slot.Ref)
  | lookup (t : Table.Ref) (name : String)
  | lookupOrCreate (t : Table.Ref) (name : String)
  | unlink (t : Table.Ref) (name : String)
  deriving DecidableEq

/-- What a call answers. -/
def Call.Answer {τ ε : Type} : Call τ ε → Type
  | .createReadySet => ReadySet.Ref
  | .createStrand .. => Strand.Ref
  | .createSlot => Slot.Ref
  | .createChannel .. => Channel.Ref
  | .createDrainLog => Coordinator.Ref
  | .createBarrier .. => Coordinator.Ref
  | .createTable .. => Table.Ref
  | .dropScheduler .. => Unit
  | .dropConsumer .. => Unit
  | .dispatch .. => Option Strand.Ref
  | .poll .. => Poll
  | .wake .. => Bool
  | .markRunning .. => Bool
  | .resume .. => Unit
  | .offer .. => Option (Resolution ε)
  | .take .. => Option (Resolution ε)
  | .operate .. => Outcome τ ε
  | .notifyDrained .. => Unit
  | .flushAll .. => Bool
  | .lookup .. => Option Channel.Ref
  | .lookupOrCreate .. => Channel.Ref
  | .unlink .. => Option Channel.Ref

namespace Network

variable {τ ε : Type}

/-- Performs an operation that is given as data. -/
def operate (n : Network τ ε) (c : Channel.Ref) : Operation τ ε → Network τ ε × Outcome τ ε
  | .send value s => (n.send c value s, .done)
  | .syncSend value s d => (n.syncSend c value s d).map id .completed
  | .receive s => (n.receive c s).map id .received
  | .flush s d k => (n.flush c s d k).map id .completed
  | .failSend f => (n.failSend c f, .done)
  | .failReceive f => (n.failReceive c f, .done)

/-- Performs a call. Waking a strand and taking back its suspension answer whether the strand was
suspended. -/
def perform (n : Network τ ε) : (call : Call τ ε) → Network τ ε × call.Answer
  | .createReadySet => n.createReadySet
  | .createStrand name home => n.createStrand name home
  | .createSlot => n.createSlot
  | .createChannel options => n.createChannel options
  | .createDrainLog => n.createDrainLog
  | .createBarrier s d expected => n.createBarrier s d expected
  | .createTable options => n.createTable options
  | .dropScheduler q => (n.setReadySet q (n.readySet q).dropScheduler, ())
  | .dropConsumer q => (n.setReadySet q (n.readySet q).dropConsumer, ())
  | .dispatch q => n.dispatch q
  | .poll q held => n.poll q held
  | .wake s => (n.wake s, n.isSuspended s)
  | .markRunning s => (n.markRunning s, n.isSuspended s)
  | .resume s => (n.resume s, ())
  | .offer d r => n.offer d r
  | .take d => n.take d
  | .operate c op => n.operate c op
  | .notifyDrained k id => (n.notifyDrained k id, ())
  | .flushAll cs s d => n.flushAll cs s d
  | .lookup t name => (n, n.lookup t name)
  | .lookupOrCreate t name => n.lookupOrCreate t name
  | .unlink t name => n.unlink t name

/-- Performs calls one after the other. -/
def run (n : Network τ ε) (calls : List (Call τ ε)) : Network τ ε :=
  calls.foldl (fun n call => (n.perform call).1) n

@[simp] theorem run_nil (n : Network τ ε) : n.run [] = n := rfl

@[simp] theorem run_cons (n : Network τ ε) (call : Call τ ε) (calls : List (Call τ ε)) :
    n.run (call :: calls) = (n.perform call).1.run calls := rfl

theorem run_append (n : Network τ ε) (a b : List (Call τ ε)) :
    n.run (a ++ b) = (n.run a).run b := by
  simp [run, List.foldl_append]

end Network

end Rendezvous
