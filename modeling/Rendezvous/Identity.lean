import Rendezvous.Store
import Rendezvous.Text.Inspect

/-!
# Identity

How the objects of a network are told apart, inside it and in what it reports.

* `Strand.Ref`, `ReadySet.Ref`, `Slot.Ref`, `Channel.Ref`, `Coordinator.Ref`, `Table.Ref`: one
  type of references for each kind of object, so that references of two kinds never mix. Two
  references are equal exactly if they mean the same object.
* `ChannelId`, `StrandId`: the numbers under which channels and strands are reported. They are
  counted from one in the order of creation, in 64-bit words.
* `ChannelTag`, `StrandTag`: the number together with the name, as log events show it.
-/

namespace Rendezvous

/-! ## References -/

/-- A reference to a strand. -/
structure Strand.Ref where
  index : Nat
  deriving DecidableEq, Inhabited

/-- A reference to a ready set. -/
structure ReadySet.Ref where
  index : Nat
  deriving DecidableEq, Inhabited

/-- A reference to a slot. -/
structure Slot.Ref where
  index : Nat
  deriving DecidableEq, Inhabited

/-- A reference to a channel. -/
structure Channel.Ref where
  index : Nat
  deriving DecidableEq, Inhabited

/-- A reference to a flush coordinator. -/
structure Coordinator.Ref where
  index : Nat
  deriving DecidableEq, Inhabited

/-- A reference to a channel table. -/
structure Table.Ref where
  index : Nat
  deriving DecidableEq, Inhabited

instance : Reference Strand.Ref := ⟨.mk, (·.index), fun _ => rfl, fun _ => rfl⟩
instance : Reference ReadySet.Ref := ⟨.mk, (·.index), fun _ => rfl, fun _ => rfl⟩
instance : Reference Slot.Ref := ⟨.mk, (·.index), fun _ => rfl, fun _ => rfl⟩
instance : Reference Channel.Ref := ⟨.mk, (·.index), fun _ => rfl, fun _ => rfl⟩
instance : Reference Coordinator.Ref := ⟨.mk, (·.index), fun _ => rfl, fun _ => rfl⟩
instance : Reference Table.Ref := ⟨.mk, (·.index), fun _ => rfl, fun _ => rfl⟩

/-! ## Reported numbers -/

/-- The number under which a channel is reported. -/
structure ChannelId where
  number : UInt64
  deriving DecidableEq, Inhabited

/-- The number under which a strand is reported. -/
structure StrandId where
  number : UInt64
  deriving DecidableEq, Inhabited

instance : Ord ChannelId := ⟨fun a b => compare a.number b.number⟩
instance : Ord StrandId := ⟨fun a b => compare a.number b.number⟩

instance : ToString ChannelId := ⟨fun a => "chan#" ++ inspect a.number⟩
instance : ToString StrandId := ⟨fun a => "strand#" ++ inspect a.number⟩

instance : Inspect ChannelId := ⟨fun a => Text.application "ChannelId" [inspect a.number]⟩
instance : Inspect StrandId := ⟨fun a => Text.application "StrandId" [inspect a.number]⟩

/-- The channel created first has number one, the next two, and so on. -/
def Channel.Ref.id (c : Channel.Ref) : ChannelId := ⟨UInt64.ofNat (c.index + 1)⟩

/-- The strand created first has number one, the next two, and so on. -/
def Strand.Ref.id (s : Strand.Ref) : StrandId := ⟨UInt64.ofNat (s.index + 1)⟩

/-- As long as the count fits a word, different channels have different numbers. -/
theorem Channel.Ref.id_inj {a b : Channel.Ref} (ha : a.index + 1 < UInt64.size)
    (hb : b.index + 1 < UInt64.size) : a.id = b.id ↔ a = b := by
  cases a with | mk i => cases b with | mk j =>
  constructor
  · intro h
    have h' := congrArg (fun x : ChannelId => x.number.toNat) h
    simp only [Channel.Ref.id, UInt64.toNat_ofNat'] at h'
    rw [Nat.mod_eq_of_lt ha, Nat.mod_eq_of_lt hb] at h'
    exact congrArg Channel.Ref.mk (Nat.succ.inj h')
  · rintro h
    rw [h]

/-! ## Tags -/

/-- How a log event names a channel. -/
structure ChannelTag where
  id : ChannelId
  name : Option String
  deriving DecidableEq, Inhabited

/-- How a log event names a strand. -/
structure StrandTag where
  id : StrandId
  name : Option String
  deriving DecidableEq, Inhabited

instance : ToString ChannelTag := ⟨fun t => Text.named (toString t.id) t.name⟩
instance : ToString StrandTag := ⟨fun t => Text.named (toString t.id) t.name⟩

end Rendezvous
