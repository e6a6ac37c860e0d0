import Rendezvous.Failure

/-!
# Pending failures

A channel has room for one failure of each kind that nobody has consumed yet.

* `Pending.put`: a new failure takes the place of an older one of its kind.
* `Pending.take?`: a panic is consumed before an error.
-/

namespace Rendezvous

/-- The failures of a channel that nobody has consumed yet, at most one of each kind. -/
structure Pending (ε : Type) where
  panic : Option ε := none
  error : Option ε := none
  deriving DecidableEq

namespace Pending

variable {ε : Type}

instance : Inhabited (Pending ε) := ⟨{}⟩

/-- The payload of the pending failure of one kind. -/
def get (p : Pending ε) : FailureKind → Option ε
  | .panic => p.panic
  | .error => p.error

/-- Whether no failure is pending. -/
def isEmpty (p : Pending ε) : Bool := p.panic.isNone && p.error.isNone

/-- Keeps a failure, in place of an older one of its kind. -/
def put (p : Pending ε) (f : Failure ε) : Pending ε :=
  match f.kind with
  | .panic => { p with panic := some f.payload }
  | .error => { p with error := some f.payload }

/-- Consumes a failure, a panic before an error. -/
def take? (p : Pending ε) : Option (Failure ε × Pending ε) :=
  match p.panic, p.error with
  | some e, _ => some (.panic e, { p with panic := none })
  | none, some e => some (.error e, { p with error := none })
  | none, none => none

theorem get_put (p : Pending ε) (f : Failure ε) (k : FailureKind) :
    (p.put f).get k = if k = f.kind then some f.payload else p.get k := by
  cases f with | mk kind e => cases kind <;> cases k <;> rfl

/-- There is a failure to consume exactly if one is pending. -/
theorem isSome_take? (p : Pending ε) : p.take?.isSome = !p.isEmpty := by
  cases p with | mk panic error => cases panic <;> cases error <;> rfl

/-- What is consumed was pending, and the rest stays. -/
theorem get_of_take? {p rest : Pending ε} {f : Failure ε} (h : p.take? = some (f, rest)) :
    p.get f.kind = some f.payload ∧ rest.get f.kind = none ∧
      ∀ k, k ≠ f.kind → rest.get k = p.get k := by
  cases p with | mk panic error =>
  cases panic <;> cases error <;>
    simp only [take?, Option.some.injEq, Prod.mk.injEq, reduceCtorEq] at h
  all_goals
    obtain ⟨rfl, rfl⟩ := h
    refine ⟨rfl, rfl, fun k hk => ?_⟩
    cases k <;> first | rfl | exact absurd rfl hk

end Pending

end Rendezvous
