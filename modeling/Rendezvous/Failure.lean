import Rendezvous.Text.Inspect

/-!
# Failures and what they end

* `Failure`: a worker gave up. An error is an ordinary result for the peer; a panic has to end
  the peer's continuation as well. Both carry a payload of the same type.
* `Resolution`: how a suspended sender was released, normally or by the peer's failure.
* `Received`: what an attempt to receive brings: a value, the sender's failure, or the advice to
  try again once woken.
-/

namespace Rendezvous

/-- The two ways in which a worker gives up. -/
inductive FailureKind where
  /-- The peer gets it as an ordinary result. -/
  | error
  /-- The peer has to be ended by it. -/
  | panic
  deriving DecidableEq, Inhabited

/-- A worker gave up. -/
structure Failure (ε : Type) where
  kind : FailureKind
  payload : ε
  deriving DecidableEq

namespace Failure

variable {ε : Type}

/-- An ordinary failure. -/
abbrev error (e : ε) : Failure ε := ⟨.error, e⟩

/-- A failure that ends the peer too. -/
abbrev panic (e : ε) : Failure ε := ⟨.panic, e⟩

def isPanic (f : Failure ε) : Bool := f.kind == .panic

/-- What a user is told. -/
def message [ToString ε] (f : Failure ε) : String :=
  match f.kind with
  | .error => "worker failed: " ++ toString f.payload
  | .panic => "worker panicked: " ++ toString f.payload

end Failure

/-- The name of a kind of failure in diagnostic text. -/
def FailureKind.title : FailureKind → String
  | .error => "Error"
  | .panic => "Panic"

/-- The name of a kind of failure inside a sentence. -/
def FailureKind.noun : FailureKind → String
  | .error => "error"
  | .panic => "panic"

instance {ε : Type} [Inspect ε] : Inspect (Failure ε) :=
  ⟨fun f => Text.application f.kind.title [inspect f.payload]⟩

/-- How a suspended sender was released. -/
inductive Resolution (ε : Type) where
  /-- What it waited for has happened. -/
  | done
  /-- The peer failed. -/
  | failed (f : Failure ε)
  deriving DecidableEq

namespace Resolution

variable {ε : Type}

def isDone : Resolution ε → Bool
  | done => true
  | failed _ => false

/-- The failure that a resolution carries. -/
def failure? : Resolution ε → Option (Failure ε)
  | done => none
  | failed f => some f

/-- A resolution as a result: failures of both kinds are on the error side. -/
def toExcept : Resolution ε → Except (Failure ε) Unit
  | done => .ok ()
  | failed f => .error f

/-- A failure that is turned into a resolution can be read back from it. -/
@[simp] theorem failure?_failed (f : Failure ε) : (failed f).failure? = some f := rfl

end Resolution

instance {ε : Type} [Inspect ε] : Inspect (Resolution ε) :=
  ⟨fun
    | .done => "Done"
    | .failed f => inspect f⟩

/-- What an attempt to receive brings. -/
inductive Received (τ ε : Type) where
  /-- The next value in the order of sending. -/
  | value (v : τ)
  /-- Nothing yet: the receiver is suspended, and repeats the attempt once it is woken. -/
  | retry
  /-- The sender failed at this place of the stream. -/
  | failed (f : Failure ε)
  deriving DecidableEq

namespace Received

variable {τ ε : Type}

def isRetry : Received τ ε → Bool
  | retry => true
  | _ => false

/-- What was received as a result; nothing for an attempt that has to be repeated. -/
def toExcept? : Received τ ε → Option (Except (Failure ε) τ)
  | value v => some (.ok v)
  | retry => none
  | failed f => some (.error f)

end Received

instance {τ ε : Type} [Inspect τ] [Inspect ε] : Inspect (Received τ ε) :=
  ⟨fun
    | .value v => Text.application "Value" [inspect v]
    | .retry => "Retry"
    | .failed f => inspect f⟩

end Rendezvous
