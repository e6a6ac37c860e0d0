import Rendezvous.Text.Inspect

/-!
# Options of a channel

What can be chosen when a channel is created: a name for reports, and whether a failure of the
receiving worker is kept while no sender waits for it.
-/

namespace Rendezvous

/-- The choices made when a channel is created. -/
structure ChannelOptions where
  /-- A name for logs and diagnostic text. -/
  name : Option String := none
  /-- Whether a receive-side failure that nobody waits for is kept for the next blocking send. -/
  retainReceiveFailures : Bool := false
  deriving DecidableEq, Inhabited

namespace ChannelOptions

/-- The same choices under another name. -/
def withName (options : ChannelOptions) (name : String) : ChannelOptions :=
  { options with name := some name }

/-- The same choices but for the failures that nobody waits for. -/
def withRetainReceiveFailures (options : ChannelOptions) (retain : Bool) : ChannelOptions :=
  { options with retainReceiveFailures := retain }

end ChannelOptions

instance : Inspect ChannelOptions :=
  ⟨fun options =>
    Text.record "ChannelOptions"
      [("name", inspect options.name),
       ("retain_receive_failures", inspect options.retainReceiveFailures)]⟩

end Rendezvous
