import Rendezvous.Strand
import Rendezvous.Failure

/-!
# Log events

Everything a network reports while it works. An event says what happened, to whom, and with which
counts; how it reads is decided here and nowhere else.

* `Event`: one constructor for each kind of report.
* `Event.level`: how severe it is. Warnings tell of parties displaced and failures lost.
* `Event.message`, `Event.fields`: its text and its labelled values.
-/

namespace Rendezvous

/-- How severe an event is. -/
inductive Level where
  | warn
  | debug
  | trace
  deriving DecidableEq, Inhabited

namespace Level

def name : Level → String
  | warn => "WARN"
  | debug => "DEBUG"
  | trace => "TRACE"

/-- The less severe, the higher. -/
def rank : Level → Nat
  | warn => 0
  | debug => 1
  | trace => 2

/-- Whether a log that is kept down to one level shows events of another. -/
def shows (lowest level : Level) : Bool := level.rank ≤ lowest.rank

end Level

/-- A labelled value of an event. -/
inductive FieldValue where
  | text (s : String)
  | count (n : Nat)
  | flag (b : Bool)
  deriving DecidableEq, Inhabited

/-- A report of a network at work. -/
inductive Event where
  /-- A channel was created. -/
  | created (channel : ChannelTag)
  /-- A value was sent. -/
  | sent (channel : ChannelTag) (sender : StrandTag) (sendCount : UInt64)
  /-- A value was sent whose sender waits until it is received. -/
  | syncSent (channel : ChannelTag) (sender : StrandTag) (sendCount : UInt64)
  /-- The waiting receiver is about to be woken. -/
  | wakingReceiver (channel : ChannelTag) (receiver : StrandTag)
  /-- A pending failure ended a synchronous send on the spot. -/
  | syncSendFailed (channel : ChannelTag) (sender : StrandTag) (kind : FailureKind)
  /-- A sender that waits for its value took the place of another. -/
  | syncSenderReplaced (channel : ChannelTag) (displaced : StrandTag)
  /-- A value was received. -/
  | received (channel : ChannelTag) (receiver : StrandTag) (recvCount : UInt64)
  /-- The value received is the one its sender waits for. -/
  | syncReceived (channel : ChannelTag) (sender : StrandTag)
  /-- Nobody waits for the value received, although somebody should. -/
  | syncOrphaned (channel : ChannelTag)
  /-- A channel with a flushing sender has drained. -/
  | flushDrained (channel : ChannelTag) (sender : StrandTag)
  /-- The sender's failure was received. -/
  | failureReceived (channel : ChannelTag) (receiver : StrandTag) (kind : FailureKind)
      (recvCount : UInt64)
  /-- A receiver took the place of another. -/
  | receiverDisplaced (channel : ChannelTag) (displaced receiver : StrandTag)
  /-- A receiver found nothing and waits. -/
  | receiveParked (channel : ChannelTag) (receiver : StrandTag)
  /-- A pending failure ended a flush on the spot. -/
  | flushFailed (channel : ChannelTag) (sender : StrandTag) (kind : FailureKind)
  /-- There was nothing to wait for in a flush. -/
  | flushNothing (channel : ChannelTag) (sender : StrandTag)
  /-- A flushing sender waits. -/
  | flushParked (channel : ChannelTag) (sender : StrandTag) (threshold recvCount : UInt64)
  /-- A flushing sender took the place of another, whose flush was over (`stale`) or not. -/
  | flushSenderReplaced (channel : ChannelTag) (displaced : StrandTag) (stale : Bool)
  /-- The sending worker failed. -/
  | sendFailed (channel : ChannelTag) (kind : FailureKind) (sendCount : UInt64)
  /-- The receiving worker failed. -/
  | receiveFailed (channel : ChannelTag) (kind : FailureKind) (recvCount : UInt64)
  /-- The receiver's failure released the flushing sender. -/
  | flushSenderFailed (channel : ChannelTag) (sender : StrandTag)
  /-- The receiver's failure released the sender that waits for its value. -/
  | syncSenderFailed (channel : ChannelTag) (sender : StrandTag)
  /-- The flush of the waiting sender was over already. -/
  | staleFlushDiscarded (channel : ChannelTag) (sender : StrandTag)
  /-- The receiver's failure is kept for the next blocking send. -/
  | failureRetained (channel : ChannelTag)
  /-- The receiver's failure is lost. -/
  | failureDropped (channel : ChannelTag)
  /-- A flushing sender no longer waits here, because its flush is over. -/
  | flushWithdrawn (channel : ChannelTag)
  /-- A pending failure is lost because another of its kind took its place. -/
  | failureOverwritten (channel : ChannelTag)
  /-- A resolution came too late for a waiting sender. -/
  | alreadyResolved (strand : StrandTag)
  /-- A strand that was to be suspended was not running. -/
  | suspendIgnored (strand : StrandTag) (phase : Phase)
  /-- A suspended strand was woken. -/
  | woken (strand : StrandTag)
  /-- A strand that was to be woken was not suspended. -/
  | wakeIgnored (strand : StrandTag) (phase : Phase)
  /-- A strand was woken that nobody will dispatch. -/
  | readySetGone (strand : StrandTag)
  /-- A barrier heard of a channel for the second time. -/
  | drainRepeated (channel : ChannelId) (strand : StrandTag)
  /-- A barrier heard of a channel for the first time. -/
  | drainNoted (channel : ChannelId) (strand : StrandTag) (drained expected : Nat)
  /-- A barrier released its sender. -/
  | flushComplete (strand : StrandTag)
  deriving DecidableEq

namespace Event

def level : Event → Level
  | syncSenderReplaced .. | syncOrphaned .. | receiverDisplaced .. | failureDropped ..
  | failureOverwritten .. | readySetGone .. | drainRepeated .. => .warn
  | flushSenderReplaced _ _ stale => if stale then .trace else .warn
  | syncSendFailed .. | flushDrained .. | failureReceived .. | flushFailed .. | sendFailed ..
  | receiveFailed .. | flushSenderFailed .. | syncSenderFailed .. | failureRetained ..
  | flushComplete .. => .debug
  | created .. | sent .. | syncSent .. | wakingReceiver .. | received .. | syncReceived ..
  | receiveParked .. | flushNothing .. | flushParked .. | staleFlushDiscarded ..
  | flushWithdrawn .. | alreadyResolved .. | suspendIgnored .. | woken .. | wakeIgnored ..
  | drainNoted .. => .trace

def message : Event → String
  | created .. => "created"
  | sent .. => "send"
  | syncSent .. => "sync send"
  | wakingReceiver .. => "waking receiver"
  | syncSendFailed _ _ kind => "sync send completed by pending " ++ kind.noun
  | syncSenderReplaced .. => "sync sender replaced"
  | received .. => "receive"
  | syncReceived .. => "sync send received"
  | syncOrphaned .. => "sync message received with no waiting sender"
  | flushDrained .. => "flush drained"
  | failureReceived _ _ kind _ => "receive " ++ kind.noun
  | receiverDisplaced .. => "second receiver registered on channel, displacing the first"
  | receiveParked .. => "receive parked"
  | flushFailed _ _ kind => "flush completed by pending " ++ kind.noun
  | flushNothing .. => "flush on drained channel"
  | flushParked .. => "flush parked"
  | flushSenderReplaced _ _ stale =>
    if stale then "stale flush sender replaced" else "flush sender replaced"
  | sendFailed .. => "send-side failure"
  | receiveFailed .. => "receive-side failure"
  | flushSenderFailed .. => "failure resolves flushing sender"
  | syncSenderFailed .. => "failure resolves sync sender"
  | staleFlushDiscarded .. => "discarding stale flush sender"
  | failureRetained .. => "no waiting sender, retaining receive-side failure"
  | failureDropped .. => "no waiting sender, dropping receive-side failure"
  | flushWithdrawn .. => "flush registration withdrawn"
  | failureOverwritten .. => "pending failure overwritten before it was consumed"
  | alreadyResolved .. => "waiting party already resolved"
  | suspendIgnored .. => "suspend left strand as it was"
  | woken .. => "unblock"
  | wakeIgnored .. => "unblock ignored, strand not suspended"
  | readySetGone .. => "ready queue closed, dropping unblocked strand"
  | drainRepeated .. => "duplicate drain notification"
  | drainNoted .. => "channel drained"
  | flushComplete .. => "flush complete"

/-- A value shown by its text. -/
def shown {α : Type} [ToString α] (label : String) (x : α) : String × FieldValue :=
  (label, .text (toString x))

/-- A word shown as a number. -/
def counted (label : String) (n : UInt64) : String × FieldValue := (label, .count n.toNat)

/-- Whether a failure is a panic, shown as a truth value. -/
def panicking (kind : FailureKind) : String × FieldValue := ("panic", .flag (kind == .panic))

def fields : Event → List (String × FieldValue)
  | created c | syncOrphaned c | failureRetained c | failureDropped c | flushWithdrawn c
  | failureOverwritten c => [shown "channel" c]
  | sent c s n | syncSent c s n =>
    [shown "channel" c, shown "sender" s, counted "send_count" n]
  | wakingReceiver c r | receiveParked c r => [shown "channel" c, shown "receiver" r]
  | syncSendFailed c s _ | syncReceived c s | flushDrained c s | flushFailed c s _
  | flushNothing c s | flushSenderFailed c s | syncSenderFailed c s | staleFlushDiscarded c s =>
    [shown "channel" c, shown "sender" s]
  | syncSenderReplaced c s | flushSenderReplaced c s _ => [shown "channel" c, shown "displaced" s]
  | received c r n | failureReceived c r _ n =>
    [shown "channel" c, shown "receiver" r, counted "recv_count" n]
  | receiverDisplaced c d r => [shown "channel" c, shown "displaced" d, shown "receiver" r]
  | flushParked c s threshold n =>
    [shown "channel" c, shown "sender" s, counted "threshold" threshold,
     counted "recv_count" n]
  | sendFailed c kind n => [shown "channel" c, panicking kind, counted "send_count" n]
  | receiveFailed c kind n => [shown "channel" c, panicking kind, counted "recv_count" n]
  | alreadyResolved s | woken s | readySetGone s | flushComplete s => [shown "strand" s]
  | suspendIgnored s p | wakeIgnored s p => [shown "strand" s, ("state", .text (inspect p))]
  | drainRepeated c s => [shown "channel" c, shown "strand" s]
  | drainNoted c s drained expected =>
    [shown "channel" c, shown "strand" s, ("drained", .count drained),
     ("expected", .count expected)]

end Event

end Rendezvous
