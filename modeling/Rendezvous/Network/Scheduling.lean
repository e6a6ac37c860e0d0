import Rendezvous.Network.Basic

/-!
# Scheduling

How strands are suspended, woken and dispatched. Waking a strand only puts it into its ready set;
nothing here runs a strand.

* `suspend`: a running strand is suspended, and any other is left as it is. In particular a strand
  that is ready stays so, since it is queued already.
* `wake`: a suspended strand becomes ready and is queued once; any other is left as it is.
* `dispatch`, `poll`: the strand that was queued first is handed out, and runs.
-/

namespace Rendezvous

/-- What a consumer that is prepared to wait finds in a ready set. -/
inductive Poll where
  /-- A strand to run. -/
  | strand (s : Strand.Ref)
  /-- Nothing, now or later. -/
  | closed
  /-- Nothing yet. -/
  | pending
  deriving DecidableEq, Inhabited

namespace Network

variable {τ ε : Type}

def isSuspended (n : Network τ ε) (s : Strand.Ref) : Bool := (n.strand s).phase == .suspended

def setPhase (n : Network τ ε) (s : Strand.Ref) (p : Phase) : Network τ ε :=
  n.setStrand s { n.strand s with phase := p }

/-- Suspends a running strand. -/
def suspend (n : Network τ ε) (s : Strand.Ref) : Network τ ε :=
  if (n.strand s).phase = .running then n.setPhase s .suspended
  else n.emit (.suspendIgnored (n.strandTag s) (n.strand s).phase)

/-- Puts a strand at the end of its ready set, unless nobody dispatches from there any more. -/
def enqueue (n : Network τ ε) (s : Strand.Ref) : Network τ ε :=
  let q := (n.strand s).home
  if (n.readySet q).hasConsumer then
    n.setReadySet q { n.readySet q with queue := (n.readySet q).queue ++ [s] }
  else n.emit (.readySetGone (n.strandTag s))

/-- Hands a suspended strand back to its scheduler. -/
def wake (n : Network τ ε) (s : Strand.Ref) : Network τ ε :=
  if n.isSuspended s then
    ((n.setPhase s .ready).emit (.woken (n.strandTag s))).enqueue s
  else n.emit (.wakeIgnored (n.strandTag s) (n.strand s).phase)

/-- Takes back a suspension before anybody has woken the strand. -/
def markRunning (n : Network τ ε) (s : Strand.Ref) : Network τ ε :=
  if n.isSuspended s then n.setPhase s .running else n

/-- A dispatched strand runs, whatever it did before. -/
def resume (n : Network τ ε) (s : Strand.Ref) : Network τ ε := n.setPhase s .running

/-- Hands out the strand that was queued first, if there is one. -/
def dispatch (n : Network τ ε) (q : ReadySet.Ref) : Network τ ε × Option Strand.Ref :=
  match (n.readySet q).queue with
  | [] => (n, none)
  | s :: rest => ((n.setReadySet q { n.readySet q with queue := rest }).resume s, some s)

/-- Whether no strand can enter the ready set any more, where `held` are the strands that are
still in use: none of them is at home there, and none can be created. -/
def isClosed (n : Network τ ε) (q : ReadySet.Ref) (held : List Strand.Ref) : Bool :=
  !(n.readySet q).hasScheduler && held.all fun s => (n.strand s).home != q

/-- Hands out the strand that was queued first, or says whether it is worth waiting for one. -/
def poll (n : Network τ ε) (q : ReadySet.Ref) (held : List Strand.Ref) : Network τ ε × Poll :=
  match n.dispatch q with
  | (n, some s) => (n, .strand s)
  | (n, none) => (n, if n.isClosed q held then .closed else .pending)

end Network

end Rendezvous
