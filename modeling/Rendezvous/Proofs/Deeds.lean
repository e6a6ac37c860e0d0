import Rendezvous.Proofs.FlushAll
import Rendezvous.Proofs.History

/-!
# Deeds

What happens to channels, one step at a time. A flush of several channels is one call, but flushes
each of its channels, and withdraws from them if it is over early.

* **Deeds** (`Deed`): a step on one channel, together with the network in which it is made.
* **Deeds of a run** (`Network.deeds`): those of its calls (`Network.deedsOf`). The deeds of a flush
  of several channels lead from the network with the new barrier to the one at the end
  (`flushAll_deeds`).
* **One channel** (`deedsOn`, `Network.channel_deeds`): what holds of a channel in every run, if
  each of the deeds on it keeps it.
-/

namespace Rendezvous

variable {τ ε : Type}

/-- What is done to a channel in one step. -/
inductive Act (τ ε : Type) where
  | operate (op : Operation τ ε)
  /-- The sender that flushes with that slot withdraws. -/
  | withdraw (d : Slot.Ref)

/-- A step on a channel, with the network in which it is made. -/
structure Deed (τ ε : Type) where
  before : Network τ ε
  channel : Channel.Ref
  act : Act τ ε

namespace Deed

/-- The network after a deed. -/
def after (x : Deed τ ε) : Network τ ε :=
  match x.act with
  | .operate op => (x.before.operate x.channel op).1
  | .withdraw d => x.before.withdrawFlush d x.channel

/-- Whether a deed flushes the channel. -/
def isFlush (x : Deed τ ε) : Bool :=
  match x.act with
  | .operate (.flush ..) => true
  | _ => false

/-- A deed changes one channel only. -/
theorem channel_after_of_ne (x : Deed τ ε) {c : Channel.Ref} (h : c ≠ x.channel) :
    x.after.channel c = x.before.channel c := by
  obtain ⟨n, y, act⟩ := x
  cases act with
  | operate op =>
    have hmove : (Call.operate y op : Call τ ε).isMove = true := rfl
    exact (Network.Moves.performAny n hmove).channel fun hc => h (List.mem_singleton.1 hc)
  | withdraw d => exact (n.channel_withdrawFlush y c d).trans (if_neg h)

end Deed

/-- The deeds on one channel. -/
def deedsOn (c : Channel.Ref) (deeds : List (Deed τ ε)) : List (Deed τ ε) :=
  deeds.filter (·.channel = c)

theorem deedsOn_append (c : Channel.Ref) (a b : List (Deed τ ε)) :
    deedsOn c (a ++ b) = deedsOn c a ++ deedsOn c b := List.filter_append ..

theorem deedsOn_cons (c : Channel.Ref) (x : Deed τ ε) (deeds : List (Deed τ ε)) :
    deedsOn c (x :: deeds) = if x.channel = c then x :: deedsOn c deeds else deedsOn c deeds := by
  simp [deedsOn, List.filter_cons]

namespace Network

/-! ## Flushing several channels -/

/-- The deeds of a flush that withdraws from some channels. -/
def withdrawals (n : Network τ ε) (d : Slot.Ref) : List Channel.Ref → List (Deed τ ε)
  | [] => []
  | c :: cs => ⟨n, c, .withdraw d⟩ :: (n.withdrawFlush d c).withdrawals d cs

/-- The deeds of a flush that goes on to the channels `rest` after those in `asked`. -/
def flushings (n : Network τ ε) (s : Strand.Ref) (d : Slot.Ref) (k : Coordinator.Ref)
    (asked : List Channel.Ref) : List Channel.Ref → List (Deed τ ε)
  | [] => []
  | c :: rest =>
    let m := (n.flush c s d k).1
    ⟨n, c, .operate (.flush s d k)⟩ ::
      if (m.slot d).isResolved then m.withdrawals d (asked ++ [c])
      else m.flushings s d k (asked ++ [c]) rest

/-- The deeds of a call. -/
def deedsOf (n : Network τ ε) : Call τ ε → List (Deed τ ε)
  | .operate c op => [⟨n, c, .operate op⟩]
  | .flushAll cs s d =>
    if cs = [] then []
    else
      let (m, k) := n.createBarrier s d (cs.map (·.id)).eraseDups.length
      m.flushings s d k [] cs
  | _ => []

/-- The deeds of a run, oldest first. -/
def deeds (n : Network τ ε) : List (Call τ ε) → List (Deed τ ε)
  | [] => []
  | call :: calls => n.deedsOf call ++ (n.perform call).1.deeds calls

theorem deeds_append (n : Network τ ε) (a b : List (Call τ ε)) :
    n.deeds (a ++ b) = n.deeds a ++ (n.run a).deeds b := by
  induction a generalizing n with
  | nil => rfl
  | cons call a ih => rw [List.cons_append, deeds, deeds, ih, List.append_assoc, run_cons]

/-- Deeds that lead from one network to another: each begins where the one before it ended. -/
def Leads (n : Network τ ε) : List (Deed τ ε) → Network τ ε → Prop
  | [], m => m = n
  | x :: l, m => x.before = n ∧ x.after.Leads l m

theorem leads_withdrawals (n : Network τ ε) (d : Slot.Ref) (cs : List Channel.Ref) :
    n.Leads (n.withdrawals d cs) (cs.foldl (·.withdrawFlush d) n) := by
  induction cs generalizing n with
  | nil => rfl
  | cons c cs ih => exact ⟨rfl, ih _⟩

/-- Flushing one channel after the other is done by these deeds, but for the suspension that may be
taken back at the end. -/
theorem leads_flushings (n : Network τ ε) (s : Strand.Ref) (d : Slot.Ref) (k : Coordinator.Ref)
    (asked rest : List Channel.Ref) (parked : Bool) :
    ∃ m, n.Leads (n.flushings s d k asked rest) m ∧
      ((n.flushEach s d k asked rest parked).1 = m ∨
        (n.flushEach s d k asked rest parked).1 = m.markRunning s) := by
  induction rest generalizing n asked parked with
  | nil => exact ⟨n, rfl, .inl rfl⟩
  | cons c rest ih =>
    rw [flushEach, flushings]
    dsimp only
    by_cases hd : ((n.flush c s d k).1.slot d).isResolved = true
    · rw [if_pos hd, if_pos hd]
      refine ⟨_, ⟨rfl, leads_withdrawals _ d (asked ++ [c])⟩, ?_⟩
      split
      · exact .inr rfl
      · exact .inl rfl
    · rw [if_neg hd, if_neg hd]
      obtain ⟨m, hleads, hm⟩ :=
        ih (n.flush c s d k).1 (asked ++ [c]) (parked || !(n.flush c s d k).2)
      exact ⟨m, ⟨rfl, hleads⟩, hm⟩

/-- A flush of several channels creates its barrier and is done by its deeds, but for the suspension
that may be taken back at the end. -/
theorem flushAll_deeds (n : Network τ ε) {cs : List Channel.Ref} (hcs : cs ≠ []) (s : Strand.Ref)
    (d : Slot.Ref) :
    ∃ m, (n.createBarrier s d (cs.map (·.id)).eraseDups.length).1.Leads
        (n.deedsOf (.flushAll cs s d)) m ∧
      ((n.flushAll cs s d).1 = m ∨ (n.flushAll cs s d).1 = m.markRunning s) := by
  obtain ⟨c, cs, rfl⟩ := List.exists_cons_of_ne_nil hcs
  have hexpected : (((c :: cs).map (·.id)).eraseDups).length ≠ 0 := by
    rw [List.map_cons, List.eraseDups_cons]
    exact Nat.succ_ne_zero _
  unfold flushAll deedsOf
  dsimp only
  rw [if_neg hexpected, if_neg hcs]
  exact leads_flushings _ s d _ [] (c :: cs) false

/-! ## One channel -/

/-- What each deed on a channel keeps, a list of deeds keeps. -/
theorem Leads.channel {P : List (Deed τ ε) → Channel τ ε → Prop} {c : Channel.Ref}
    (act : ∀ l (x : Deed τ ε), x.channel = c → P l (x.before.channel c) →
      P (l ++ [x]) (x.after.channel c))
    {n m : Network τ ε} {deeds : List (Deed τ ε)} (h : n.Leads deeds m) {l : List (Deed τ ε)}
    (hn : P l (n.channel c)) : P (l ++ deedsOn c deeds) (m.channel c) := by
  induction deeds generalizing n l with
  | nil =>
    obtain rfl : m = n := h
    rw [deedsOn, List.filter_nil, List.append_nil]
    exact hn
  | cons x deeds ih =>
    obtain ⟨rfl, hleads⟩ := h
    rw [deedsOn_cons]
    split
    · rename_i hx
      have hP := ih hleads (act l x hx hn)
      rwa [List.append_assoc] at hP
    · rename_i hx
      exact ih hleads ((x.channel_after_of_ne (Ne.symm hx)).symm ▸ hn)

/-- What its creation and each of the deeds on a channel keeps, a call keeps. -/
theorem channel_deedsOf {P : List (Deed τ ε) → Channel τ ε → Prop} {c : Channel.Ref}
    (create : ∀ l options, P l default → P l (.create options))
    (act : ∀ l (x : Deed τ ε), x.channel = c → P l (x.before.channel c) →
      P (l ++ [x]) (x.after.channel c))
    (n : Network τ ε) (call : Call τ ε) {l : List (Deed τ ε)} (hn : P l (n.channel c)) :
    P (l ++ deedsOn c (n.deedsOf call)) ((n.perform call).1.channel c) := by
  have none_on : c ∉ call.channels → P l ((n.perform call).1.channel c) := by
    intro hc
    obtain hsame | ⟨hdefault, options, hcreated⟩ := n.channel_perform_of_notMem call hc
    · exact hsame ▸ hn
    · exact hcreated ▸ create l options (hdefault ▸ hn)
  cases call with
  | operate y op =>
    have hleads : n.Leads [⟨n, y, .operate op⟩] (n.operate y op).1 := ⟨rfl, rfl⟩
    exact hleads.channel act hn
  | flushAll cs s d =>
    by_cases hcs : cs = []
    · subst hcs
      rw [deedsOf, if_pos rfl, deedsOn, List.filter_nil, List.append_nil]
      exact none_on List.not_mem_nil
    · obtain ⟨m, hleads, hm⟩ := n.flushAll_deeds hcs s d
      have hP := hleads.channel act (l := l) hn
      change P _ ((n.flushAll cs s d).1.channel c)
      obtain hm | hm := hm
      · exact hm ▸ hP
      · rw [hm, channel_markRunning]
        exact hP
  | _ => exact (List.append_nil l).symm ▸ none_on List.not_mem_nil

/-- What holds of a channel in every run: what its creation and each of the deeds on it keeps. -/
theorem channel_deeds {P : List (Deed τ ε) → Channel τ ε → Prop} {c : Channel.Ref}
    (start : P [] default) (create : ∀ l options, P l default → P l (.create options))
    (act : ∀ l (x : Deed τ ε), x.channel = c → P l (x.before.channel c) →
      P (l ++ [x]) (x.after.channel c))
    (calls : List (Call τ ε)) : P (deedsOn c (({} : Network τ ε).deeds calls))
      ((({} : Network τ ε).run calls).channel c) := by
  induction calls using List.reverseRecOn with
  | nil => exact start
  | append_singleton calls call ih =>
    have hdeeds : ({} : Network τ ε).deeds (calls ++ [call]) =
        ({} : Network τ ε).deeds calls ++ (({} : Network τ ε).run calls).deedsOf call := by
      rw [deeds_append, deeds, deeds, List.append_nil]
    rw [hdeeds, deedsOn_append, run_append]
    exact channel_deedsOf create act _ call ih

end Network

end Rendezvous
