import Rendezvous.Proofs.ParkedFlush

/-!
# A parked flush ends once, and with the right result

* **Others** (`Network.Others`): what others may do meanwhile. Anything, but they are passed neither
  the strand nor the slot, and flush none of its channels.
* **One call** (`Parked.step`): the flush goes on, or the call ends it.
* **Runs** (`Parked.run`, `Over.run`, `parked_flushAll_ends`): so it is after any calls of others.
-/

namespace Rendezvous

namespace Network

variable {τ ε : Type} {n : Network τ ε} {s : Strand.Ref} {d : Slot.Ref} {k : Coordinator.Ref}
  {cs : List Channel.Ref} {left flushed : Channel.Ref → Nat} {call : Call τ ε} {r : Resolution ε}

/-- What others may do while the strand waits with the slot for a flush of the channels. -/
def Others (s : Strand.Ref) (d : Slot.Ref) (cs : List Channel.Ref) (n : Network τ ε)
    (call : Call τ ε) : Prop :=
  n.Elsewhere s d call ∧ ∀ c ∈ call.flushed, c ∉ cs

instance (n : Network τ ε) (call : Call τ ε) : Decidable (Others s d cs n call) :=
  inferInstanceAs (Decidable (_ ∧ ∀ c ∈ _, _))

/-- The result has just been delivered: the strand is ready and queued once, at its home, if anybody
dispatches from there. -/
structure Woken (n : Network τ ε) (s : Strand.Ref) (d : Slot.Ref) (r : Resolution ε) : Prop where
  slot : n.slot d = .filled r
  ready : (n.strand s).phase = .ready
  queued : ∀ q, (n.readySet q).queue.count s =
    if (n.strand s).home = q ∧ (n.readySet q).hasConsumer = true then 1 else 0

/-- A strand that is ready was woken. -/
theorem Over.woken (h : n.Over s d r) (hq : n.Queued s) (hready : (n.strand s).phase = .ready) :
    n.Woken s d r where
  slot := h.slot
  ready := hready
  queued q := by
    rw [hq q]
    simp only [hready, true_and]

/-- A call of others keeps the flush going, or ends it: with the failure of a receiver that had
values left to receive, or with the last of all values. -/
theorem Parked.step (h : n.Parked s d k cs left) (hq : n.Queued s) (ho : n.Others s d cs call) :
    (∃ c f, call = .operate c (.failReceive f) ∧ c ∈ cs ∧ 0 < left c ∧
      (n.perform call).1.Over s d (.failed f) ∧ ((n.perform call).1.strand s).phase = .ready) ∨
    (∀ c f, call = .operate c (.failReceive f) → c ∈ cs → left c = 0) ∧
      ((n.perform call).1.Parked s d k cs (fun c => left c - received c [n.exchange call]) ∨
        (∀ c ∈ cs, left c - received c [n.exchange call] = 0) ∧
          (n.perform call).1.Over s d .done ∧ ((n.perform call).1.strand s).phase = .ready) := by
  by_cases hfail : ∀ c f, call = .operate c (.failReceive f) → c ∈ cs → left c = 0
  · refine .inr ⟨hfail, ?_⟩
    by_cases hlast : ∀ c t, call = .operate c (.receive t) → c ∈ cs → left c ≠ 1
    · exact .inl (h.miss hq ho.1 ho.2 hlast hfail)
    · simp only [ne_eq, not_forall, not_not] at hlast
      obtain ⟨c, t, rfl, hc, hone⟩ := hlast
      by_cases hall : ∀ x ∈ cs, x = c ∨ left x = 0
      · refine .inr ⟨fun x hx => ?_, h.last_done hc hone t hall⟩
        obtain ⟨hreceived, -⟩ := h.drain hc hone t
        rcases hall x hx with rfl | hzero
        · omega
        · omega
      · simp only [not_forall, not_or] at hall
        obtain ⟨x, hx, hne, hpos⟩ := hall
        exact .inl (h.last_wait hc hone t ⟨x, hx, hne, Nat.pos_of_ne_zero hpos⟩)
  · simp only [not_forall] at hfail
    obtain ⟨c, f, rfl, hc, hpos⟩ := hfail
    have hpos := Nat.pos_of_ne_zero hpos
    exact .inl ⟨c, f, rfl, hc, hpos, h.fail hc hpos f⟩

/-- Others do not resume the strand. -/
theorem Queued.others (h : n.Queued s) {calls : List (Call τ ε)}
    (hk : n.Keeps (Others s d cs) calls) : (n.run calls).Queued s := by
  induction calls generalizing n with
  | nil => exact h
  | cons call calls ih =>
    refine ih (h.perform ?_) hk.2
    rintro rfl
    exact hk.1.1.strand (List.mem_singleton.2 rfl)

/-- A flush that is over stays so. -/
theorem Over.run (h : n.Over s d r) (hq : n.Queued s) {calls : List (Call τ ε)}
    (hk : n.Keeps (Others s d cs) calls) : (n.run calls).Over s d r ∧
      ((n.strand s).phase = .running → ((n.run calls).strand s).phase = .running) := by
  induction calls using List.reverseRecOn with
  | nil => exact ⟨h, id⟩
  | append_singleton a call ih =>
    obtain ⟨ha, hcall, -⟩ := keeps_append.1 hk
    obtain ⟨hover, hrun⟩ := ih ha
    obtain ⟨hover', hrun'⟩ := hover.step (hq.others ha) hcall.1
    rw [run_append]
    exact ⟨hover', fun hs => hrun' (hrun hs)⟩

/-- After any calls of others the flush goes on or is over, as the callers can tell from what they
have received and which receivers have failed. -/
theorem Parked.run (h : n.Parked s d k cs flushed) (hq : n.Queued s) {calls : List (Call τ ε)}
    (hk : n.Keeps (Others s d cs) calls) :
    Ongoing cs flushed (n.history calls) ∧
        (n.run calls).Parked s d k cs (remaining flushed (n.history calls)) ∨
      ¬ Ongoing cs flushed (n.history calls) ∧ ∃ r, (n.run calls).Over s d r := by
  induction calls using List.reverseRecOn with
  | nil =>
    have hall : remaining flushed (n.history []) = flushed := by
      funext c
      exact Nat.sub_zero _
    refine .inl ⟨⟨fun a e b _ _ hsplit => ?_, ?_⟩, ?_⟩
    · cases a <;> cases hsplit
    · rw [hall]
      exact h.some
    · rw [hall]
      exact h
  | append_singleton a call ih =>
    obtain ⟨ha, hcall, -⟩ := keeps_append.1 hk
    have hleft : remaining flushed (n.history (a ++ [call])) = fun c =>
        remaining flushed (n.history a) c - received c [(n.run a).exchange call] := by
      funext c
      rw [history_append]
      exact remaining_snoc ..
    have hundisturbed : Undisturbed cs flushed (n.history (a ++ [call])) ↔
        Undisturbed cs flushed (n.history a) ∧ ∀ c f, call = .operate c (.failReceive f) → c ∈ cs →
          remaining flushed (n.history a) c = 0 := by
      rw [history_append]
      exact undisturbed_snoc
    rw [Ongoing, hundisturbed, hleft, run_append]
    rcases ih ha with ⟨hongoing, hparked⟩ | ⟨hended, r, hover⟩
    · rcases hparked.step (hq.others ha) hcall with
        ⟨c, f, rfl, hc, hpos, hover, -⟩ | ⟨hfail, hparked' | ⟨hzero, hover, -⟩⟩
      · refine .inr ⟨fun hand => ?_, _, hover⟩
        exact Nat.ne_of_gt hpos (hand.1.2 c f rfl hc)
      · exact .inl ⟨⟨⟨hongoing.1, hfail⟩, hparked'.some⟩, hparked'⟩
      · refine .inr ⟨?_, _, hover⟩
        rintro ⟨-, c, hc, hpos⟩
        exact Nat.ne_of_gt hpos (hzero c hc)
    · refine .inr ⟨?_, r, (hover.step (hq.others ha) hcall.1).1⟩
      rintro ⟨⟨hu, -⟩, c, hc, hpos⟩
      exact hended ⟨hu, c, hc, Nat.lt_of_lt_of_le hpos (Nat.sub_le ..)⟩

/-! ## The outcome -/

namespace Parked

variable {a b calls : List (Call τ ε)}

/-- As long as the flush goes on, the strand waits. -/
theorem waits (h : n.Parked s d k cs flushed) (hq : n.Queued s)
    (hk : n.Keeps (Others s d cs) calls) (ho : Ongoing cs flushed (n.history calls)) :
    ((n.run calls).slot d).isResolved = false ∧ ((n.run calls).strand s).phase = .suspended ∧
      ∀ q, s ∉ ((n.run calls).readySet q).queue := by
  rcases h.run hq hk with ⟨-, hparked⟩ | ⟨hended, -⟩
  · refine ⟨hparked.unresolved, hparked.suspended, fun q => ?_⟩
    rw [← List.count_eq_zero, hq.others hk q, if_neg]
    rintro ⟨-, hready, -⟩
    rw [hparked.suspended] at hready
    cases hready
  · exact absurd ho hended

/-- The call after which nothing is left wakes it. -/
theorem woken_done (h : n.Parked s d k cs flushed) (hq : n.Queued s)
    (hk : n.Keeps (Others s d cs) (a ++ [call])) (ho : Ongoing cs flushed (n.history a))
    (hu : Undisturbed cs flushed (n.history (a ++ [call])))
    (hzero : ∀ c ∈ cs, remaining flushed (n.history (a ++ [call])) c = 0) :
    (n.run (a ++ [call])).Woken s d .done := by
  obtain ⟨ha, hcall, -⟩ := keeps_append.1 hk
  rw [history_append] at hu hzero
  rcases h.run hq ha with ⟨-, hparked⟩ | ⟨hended, -⟩
  · rcases hparked.step (hq.others ha) hcall with
      ⟨c, f, rfl, hc, hpos, -⟩ | ⟨-, hparked' | ⟨-, hover, hready⟩⟩
    · exact absurd ((undisturbed_snoc.1 hu).2 c f rfl hc) (Nat.ne_of_gt hpos)
    · obtain ⟨c, hc, hpos⟩ := hparked'.some
      rw [← remaining_snoc] at hpos
      exact absurd (hzero c hc) (Nat.ne_of_gt hpos)
    · have hqueued := hq.others hk
      rw [run_append] at hqueued ⊢
      exact hover.woken hqueued hready
  · exact absurd ho hended

/-- So does the first failure of a receiver that had values left to receive. -/
theorem woken_failed {c : Channel.Ref} {f : Failure ε} (h : n.Parked s d k cs flushed)
    (hq : n.Queued s) (hk : n.Keeps (Others s d cs) (a ++ [.operate c (.failReceive f)]))
    (ho : Ongoing cs flushed (n.history a)) (hc : c ∈ cs)
    (hpos : 0 < remaining flushed (n.history a) c) :
    (n.run (a ++ [.operate c (.failReceive f)])).Woken s d (.failed f) := by
  obtain ⟨ha, hcall, -⟩ := keeps_append.1 hk
  rcases h.run hq ha with ⟨-, hparked⟩ | ⟨hended, -⟩
  · obtain ⟨hover, hready⟩ := hparked.fail hc hpos f
    have hqueued := hq.others hk
    rw [run_append] at hqueued ⊢
    exact hover.woken hqueued hready
  · exact absurd ho hended

/-- From then on nothing changes. -/
theorem once (h : n.Parked s d k cs flushed) (hq : n.Queued s)
    (hk : n.Keeps (Others s d cs) (a ++ b)) (ho : ¬ Ongoing cs flushed (n.history a)) :
    ∃ r, (n.run a).slot d = .filled r ∧ (n.run (a ++ b)).slot d = .filled r ∧
      ((n.run (a ++ b)).strand s).phase ≠ .suspended ∧
      (((n.run a).strand s).phase = .running → ((n.run (a ++ b)).strand s).phase = .running) := by
  obtain ⟨ha, hb⟩ := keeps_append.1 hk
  rcases h.run hq ha with ⟨hongoing, -⟩ | ⟨-, r, hover⟩
  · exact absurd hongoing ho
  · obtain ⟨hover', hrun⟩ := hover.run (hq.others ha) hb
    rw [run_append]
    exact ⟨r, hover.slot, hover'.slot, hover'.awake, hrun⟩

end Parked

/-- A flush that waits ends exactly once. It is made by a running strand with a fresh slot, after a
run without failures on its channels. Whatever others do from then on:

- as long as values that were queued at the flush are left, and no receiver has failed where some
  were left, the slot is unresolved and the strand is suspended and not queued;
- the receipt of the last of these values delivers `done` and wakes the strand;
- the first failure of a receiver that had such values left is delivered and wakes the strand;
- after either, the slot keeps its result. The strand is not suspended again, and once it has been
  dispatched it is not queued again. -/
theorem parked_flushAll_ends (before after : List (Call τ ε)) (cs : List Channel.Ref)
    (s : Strand.Ref) (d : Slot.Ref) (hcreated : ({} : Network τ ε).Keeps Created before)
    (hresume : .resume s ∉ before) (hunfailed : ∀ call ∈ before, ∀ c ∈ cs, ¬ call.Fails c)
    (hlen : before.length < UInt64.size) {n p : Network τ ε}
    (hn : ({} : Network τ ε).run before = n) (hcs : ∀ c ∈ cs, n.Exists c)
    (hs : (n.strand s).phase = .running) (hd : (n.slot d).isResolved = false)
    (hclear : n.Clear s d fun _ => False) (hp : n.flushAll cs s d = (p, false))
    (hafter : p.Keeps (Others s d cs) after) :
    let m := p.run after
    let flushed := fun c => (n.channel c).size
    Ongoing cs flushed (p.history []) ∧
      (Ongoing cs flushed (p.history after) → (m.slot d).isResolved = false ∧
        (m.strand s).phase = .suspended ∧ ∀ q, s ∉ (m.readySet q).queue) ∧
      (∀ a call, after = a ++ [call] → Ongoing cs flushed (p.history a) →
        Undisturbed cs flushed (p.history after) →
        (∀ c ∈ cs, remaining flushed (p.history after) c = 0) → m.Woken s d .done) ∧
      (∀ a c f, after = a ++ [.operate c (.failReceive f)] → Ongoing cs flushed (p.history a) →
        c ∈ cs → 0 < remaining flushed (p.history a) c → m.Woken s d (.failed f)) ∧
      (∀ a b, after = a ++ b → ¬ Ongoing cs flushed (p.history a) → ∃ r,
        (p.run a).slot d = .filled r ∧ m.slot d = .filled r ∧ (m.strand s).phase ≠ .suspended ∧
          (((p.run a).strand s).phase = .running → (m.strand s).phase = .running)) ∧
      ∀ q, (m.readySet q).queue.count s =
        if (m.strand s).home = q ∧ (m.strand s).phase = .ready ∧ (m.readySet q).hasConsumer = true
          then 1 else 0 := by
  intro m flushed
  have hid : ∀ a ∈ cs, ∀ b ∈ cs, a.id = b.id → a = b := by
    have hsize : n.channels.size ≤ 0 + before.length := hn ▸ size_run_le hcreated
    exact fun a ha b hb => id_inj_of_exists (by omega) (hcs a ha) (hcs b hb)
  have hparked : p.Parked s d n.coordinators.fresh cs flushed := by
    have hfresh : ∀ x q, (n.channel x).flushSender = some q → q.slot ≠ d := by
      rintro x q hq rfl
      exact ((hclear.flushSender x q hq id).2 hd).2 rfl
    have hcases := n.flushAll_cases cs hs hd hfresh hid
    rw [hp] at hcases
    cases hcases with
    | parked hnone hsome hasked =>
      refine hasked.parked hsome hd hid hclear (fun c q hq => ?_) fun c hc => ?_
      · subst hn
        exact hasCoordinator_run hcreated c q hq
      · subst hn
        exact Fifo.unfailed (fun call hcall => hunfailed call hcall c hc) hlen
  have hqueued : p.Queued s := by
    have hq : n.Queued s := hn ▸ (Queued.start s).run hresume
    have hflush : (n.perform (.flushAll cs s d)).1 = p := congrArg Prod.fst hp
    exact hflush ▸ hq.perform nofun
  refine ⟨?_, hparked.waits hqueued hafter, ?_, ?_, ?_, hqueued.others hafter⟩
  · have hnone : p.Keeps (Others s d cs) [] := trivial
    rcases hparked.run hqueued hnone with ⟨hongoing, -⟩ | ⟨-, r, hover⟩
    · exact hongoing
    · exact absurd hparked.suspended hover.awake
  · rintro a call rfl ho
    exact hparked.woken_done hqueued hafter ho
  · rintro a c f rfl ho hc
    exact hparked.woken_failed hqueued hafter ho hc
  · rintro a b rfl ho
    exact hparked.once hqueued hafter ho

/-- Values that are sent later do not delay the end of a flush, a receiver that fails where nothing
is left does not matter, and a channel that is given twice counts once. -/
theorem parked_flushAll_ends_done :
    let before : List (Call Nat String) := [
      .createReadySet,
      .createStrand (some "tx") ⟨0⟩,
      .createStrand (some "rx") ⟨0⟩,
      .createStrand (some "other") ⟨0⟩,
      .createSlot,
      .createChannel {},
      .createChannel {},
      .operate ⟨0⟩ (.send 1 ⟨0⟩),
      .operate ⟨1⟩ (.send 2 ⟨0⟩)]
    let after : List (Call Nat String) := [
      .operate ⟨0⟩ (.send 3 ⟨2⟩),
      .operate ⟨0⟩ (.receive ⟨1⟩),
      .operate ⟨0⟩ (.failReceive (.error "lost")),
      .operate ⟨1⟩ (.receive ⟨1⟩)]
    let n := ({} : Network Nat String).run before
    let p := (n.flushAll [⟨0⟩, ⟨1⟩, ⟨0⟩] ⟨0⟩ ⟨0⟩).1
    p.Keeps (Others ⟨0⟩ ⟨0⟩ [⟨0⟩, ⟨1⟩, ⟨0⟩]) after ∧ (p.run after).Woken ⟨0⟩ ⟨0⟩ .done := by
  intro before after n p
  have hclear : n.Clear ⟨0⟩ ⟨0⟩ fun _ => False :=
    .of_none ((n.channels.forall_get (P := fun channel =>
      channel.receiver = none ∧ channel.syncSender = none ∧ channel.flushSender = none)).2
      ⟨⟨rfl, rfl, rfl⟩, by decide⟩)
  have hwaits : (n.flushAll [⟨0⟩, ⟨1⟩, ⟨0⟩] ⟨0⟩ ⟨0⟩).2 = false := by decide
  have hp : n.flushAll [⟨0⟩, ⟨1⟩, ⟨0⟩] ⟨0⟩ ⟨0⟩ = (p, false) := by
    rw [← hwaits]
  have hafter : p.Keeps (Others ⟨0⟩ ⟨0⟩ [⟨0⟩, ⟨1⟩, ⟨0⟩]) after := by decide
  obtain ⟨-, -, hdone, -⟩ := parked_flushAll_ends before after [⟨0⟩, ⟨1⟩, ⟨0⟩] ⟨0⟩ ⟨0⟩ (by decide)
    (by decide) (by simp [before, Call.Fails]) (by decide) rfl (by decide) rfl rfl hclear hp hafter
  refine ⟨hafter, hdone (after.take 3) (.operate ⟨1⟩ (.receive ⟨1⟩)) rfl ?_ ?_ ?_⟩
  · decide
  · decide
  · decide

end Network

end Rendezvous
