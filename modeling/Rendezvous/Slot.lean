import Rendezvous.Failure

/-!
# Slots

A slot is the one-shot cell into which the resolution of a suspended operation is delivered.

* `Slot.offer`: the first resolution offered is accepted, and every later one is handed back.
* `Slot.take`: the accepted resolution can be taken once. A slot whose resolution was taken stays
  resolved, so it still refuses every offer.
-/

namespace Rendezvous

/-- A one-shot cell for a resolution. -/
inductive Slot (ε : Type) where
  /-- Nothing has been delivered. -/
  | empty
  /-- A resolution has been delivered and waits to be taken. -/
  | filled (r : Resolution ε)
  /-- The resolution that was delivered has been taken. -/
  | taken
  deriving DecidableEq

namespace Slot

variable {ε : Type}

instance : Inhabited (Slot ε) := ⟨.empty⟩

/-- Whether a resolution has been delivered, taken or not. -/
def isResolved : Slot ε → Bool
  | empty => false
  | filled _ => true
  | taken => true

/-- Delivers a resolution into an empty slot; any other slot hands it back. -/
def offer (slot : Slot ε) (r : Resolution ε) : Except (Resolution ε) (Slot ε) :=
  match slot with
  | empty => .ok (filled r)
  | filled _ => .error r
  | taken => .error r

/-- Takes the delivered resolution, if there is one to take. -/
def take : Slot ε → Option (Resolution ε) × Slot ε
  | empty => (none, empty)
  | filled r => (some r, taken)
  | taken => (none, taken)

/-- A resolved slot hands back exactly what is offered. -/
theorem offer_of_isResolved {slot : Slot ε} (h : slot.isResolved = true) (r : Resolution ε) :
    slot.offer r = .error r := by
  cases slot <;> simp_all [isResolved, offer]

/-- An unresolved slot accepts what is offered. -/
theorem offer_of_not_isResolved {slot : Slot ε} (h : slot.isResolved = false)
    (r : Resolution ε) : slot.offer r = .ok (filled r) := by
  cases slot <;> simp_all [isResolved, offer]

/-- Taking never makes a slot unresolved, nor the other way round. -/
@[simp] theorem isResolved_take (slot : Slot ε) : slot.take.2.isResolved = slot.isResolved := by
  cases slot <;> rfl

end Slot

instance {ε : Type} [Inspect ε] : Inspect (Slot ε) :=
  ⟨fun slot =>
    Text.application "DestSlot" [match slot with
      | .empty => "<empty>"
      | .filled r => inspect r
      | .taken => "<taken>"]⟩

end Rendezvous
