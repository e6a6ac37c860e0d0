import Rendezvous.Network.Transfer

/-!
# Failing workers

A worker that gives up reports so on its channels.

* `failSend`: the failure of the sending worker takes the next place of the stream, behind
  everything sent before it.
* `failReceive`: the failure of the receiving worker releases the sender that waits, a flushing one
  before one that waits for its value. A sender whose slot is resolved already does not count. If
  no sender is left, the channel's options decide whether the failure is kept.
-/

namespace Rendezvous.Network

variable {τ ε : Type}

/-- Keeps a failure until somebody consumes it. -/
def storeFailure (n : Network τ ε) (c : Channel.Ref) (f : Failure ε) : Network τ ε :=
  let overwritten := (n.channel c).pending.get f.kind
  let n := n.updateChannel c fun channel => { channel with pending := channel.pending.put f }
  if overwritten.isSome then n.emit (.failureOverwritten (n.channelTag c)) else n

/-- The sending worker failed. -/
def failSend (n : Network τ ε) (c : Channel.Ref) (f : Failure ε) : Network τ ε :=
  let n := n.updateChannel c (·.countSent)
  let n := n.emit (.sendFailed (n.channelTag c) f.kind (n.channel c).sendCount)
  (n.storeFailure c f).wakeReceiver c

/-- The flushing sender gets the failure; what is left of it goes on to the next candidate. -/
def failFlushSender (n : Network τ ε) (c : Channel.Ref) (f : Failure ε) :
    Network τ ε × Option (Failure ε) :=
  match (n.channel c).flushSender with
  | none => (n, some f)
  | some p =>
    let n := n.updateChannel c fun channel => { channel with flushSender := none }
    match n.deliver p.toParty (.failed f) with
    | (n, none) => (n.emit (.flushSenderFailed (n.channelTag c) (n.strandTag p.strand)), none)
    | (n, some refused) =>
      match refused.failure? with
      | some f =>
        (n.emit (.staleFlushDiscarded (n.channelTag c) (n.strandTag p.strand)), some f)
      | none => (n, none)

/-- The sender that waits for its value gets the failure; what is left of it goes on. The value
stays on its way, and nobody waits for it any more. -/
def failSyncSender (n : Network τ ε) (c : Channel.Ref) (f : Failure ε) :
    Network τ ε × Option (Failure ε) :=
  match (n.channel c).syncSender with
  | none => (n, some f)
  | some p =>
    let n := n.updateChannel c fun channel => { channel with syncSender := none }
    match n.deliver p (.failed f) with
    | (n, none) =>
      let n := n.emit (.syncSenderFailed (n.channelTag c) (n.strandTag p.strand))
      (n.updateChannel c (·.releaseSync), none)
    | (n, some refused) => (n, refused.failure?)

/-- Nobody waits for the failure, so it is kept or lost as the channel's options say. -/
def retainFailure (n : Network τ ε) (c : Channel.Ref) (f : Failure ε) : Network τ ε :=
  if (n.channel c).retainReceiveFailures then
    (n.emit (.failureRetained (n.channelTag c))).storeFailure c f
  else n.emit (.failureDropped (n.channelTag c))

/-- The receiving worker failed. -/
def failReceive (n : Network τ ε) (c : Channel.Ref) (f : Failure ε) : Network τ ε :=
  let n := n.updateChannel c (·.countReceived)
  let n := n.emit (.receiveFailed (n.channelTag c) f.kind (n.channel c).recvCount)
  match n.failFlushSender c f with
  | (n, none) => n
  | (n, some f) =>
    match n.failSyncSender c f with
    | (n, none) => n
    | (n, some f) => n.retainFailure c f

end Rendezvous.Network
