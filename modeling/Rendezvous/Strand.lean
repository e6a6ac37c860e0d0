import Rendezvous.Identity

/-!
# Strands and ready sets

* `Strand`: a cooperative task. It runs, or it is suspended on some channel, or it has been woken
  and is ready to be dispatched.
* `ReadySet`: the queue into which woken strands are put, and from which they are dispatched.
  Every strand has one ready set as its home.
-/

namespace Rendezvous

/-- What a strand is doing. -/
inductive Phase where
  /-- It is executing, or may go on doing so without being dispatched. -/
  | running
  /-- It is registered somewhere and waits to be woken. -/
  | suspended
  /-- It has been woken and not yet been dispatched. -/
  | ready
  deriving DecidableEq, Inhabited

instance : Inspect Phase :=
  ⟨fun
    | .running => "Running"
    | .suspended => "Suspended"
    | .ready => "Ready"⟩

/-- A cooperative task. -/
structure Strand where
  name : Option String := none
  /-- The ready set in which the strand is put when it is woken. -/
  home : ReadySet.Ref := ⟨0⟩
  phase : Phase := .running
  deriving DecidableEq, Inhabited

/-- How log events name the strand to which `s` refers. -/
def Strand.tag (strand : Strand) (s : Strand.Ref) : StrandTag := ⟨s.id, strand.name⟩

/-- The diagnostic text of the strand to which `s` refers. -/
def Strand.describe (strand : Strand) (s : Strand.Ref) : String :=
  Text.record "Strand"
    [("id", inspect s.id), ("name", inspect strand.name), ("state", inspect strand.phase)]

/-- The strands of one home that have been woken and not yet been dispatched, first come, first
served. -/
structure ReadySet where
  queue : List Strand.Ref := []
  /-- Whether somebody still holds the end at which strands are dispatched. -/
  hasConsumer : Bool := true
  /-- Whether the creator still holds the end with which strands are created. -/
  hasScheduler : Bool := true
  deriving DecidableEq, Inhabited

/-- Nobody dispatches from here any more, so the strands still queued are given up. -/
def ReadySet.dropConsumer (set : ReadySet) : ReadySet :=
  { set with queue := [], hasConsumer := false }

/-- No strand is created here any more. -/
def ReadySet.dropScheduler (set : ReadySet) : ReadySet := { set with hasScheduler := false }

end Rendezvous
