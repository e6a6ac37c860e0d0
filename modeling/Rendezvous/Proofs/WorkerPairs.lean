import Rendezvous.Proofs.Tables

/-!
# Channels of worker pairs

The channel from one worker to another is found in a table under a name that is made of the names
of both, with an arrow in between.

* **Names** (`Table.pairName_eq_iff`): the name tells the pair, unless a worker's name has an arrow
  in it. Then the arrow of the pair may be taken for that one (`Table.Confused`).
* **Channels** (`pairs_share_iff`): the pairs that share a channel are those that share a name.
-/

namespace Rendezvous

/-! ## Names -/

namespace Table

/-- The arrow of either pair is inside the name of a worker of the other pair: what is a sender and
the beginning of a receiver for the one is a sender for the other. -/
def Confused (sender receiver sender' receiver' : String) : Prop :=
  ∃ part, (sender' = pairName sender part ∧ receiver = pairName part receiver') ∨
    (sender = pairName sender' part ∧ receiver' = pairName part receiver)

theorem toList_pairName (sender receiver : String) :
    (pairName sender receiver).toList = sender.toList ++ '-' :: '>' :: receiver.toList := by
  simp [pairName, String.toList_append]

/-- A name is that of a pair if its characters are those of the workers' names with an arrow in
between. -/
theorem eq_pairName {name sender receiver : String}
    (h : name.toList = sender.toList ++ '-' :: '>' :: receiver.toList) :
    name = pairName sender receiver :=
  String.toList_inj.1 (h.trans (toList_pairName sender receiver).symm)

/-- An arrow in front is the next arrow, or it is in front of that. -/
theorem arrow_cut {r r' k : List Char} (h : '-' :: '>' :: r = k ++ '-' :: '>' :: r') :
    (k = [] ∧ r = r') ∨ ∃ v, k = '-' :: '>' :: v ∧ r = v ++ '-' :: '>' :: r' := by
  match k with
  | [] => exact .inl ⟨rfl, (List.cons.inj (List.cons.inj h).2).2⟩
  | [_] =>
    -- Two arrows do not overlap.
    have hchar : '>' = '-' := (List.cons.inj (List.cons.inj h).2).1
    exact absurd hchar (by decide)
  | a :: b :: v =>
    obtain ⟨hfirst, htail⟩ := List.cons.inj h
    obtain ⟨hsecond, hrest⟩ := List.cons.inj htail
    exact .inr ⟨v, by rw [hfirst, hsecond], hrest⟩

/-- The sender's name in front is the other sender's name, or an arrow follows it there. -/
theorem pair_cut {sender receiver sender' receiver' : String} {k : List Char}
    (hsender : sender'.toList = sender.toList ++ k)
    (hrest : '-' :: '>' :: receiver.toList = k ++ '-' :: '>' :: receiver'.toList) :
    (sender = sender' ∧ receiver = receiver') ∨
      ∃ part, sender' = pairName sender part ∧ receiver = pairName part receiver' := by
  rcases arrow_cut hrest with ⟨rfl, hr⟩ | ⟨v, rfl, hr⟩
  · rw [List.append_nil] at hsender
    exact .inl ⟨String.toList_inj.1 hsender.symm, String.toList_inj.1 hr⟩
  · refine .inr ⟨String.ofList v, eq_pairName ?_, eq_pairName ?_⟩
    · rw [String.toList_ofList]
      exact hsender
    · rw [String.toList_ofList]
      exact hr

/-- Pairs go by one name exactly if they are one pair or confused. -/
theorem pairName_eq_iff {sender receiver sender' receiver' : String} :
    pairName sender receiver = pairName sender' receiver' ↔
      (sender = sender' ∧ receiver = receiver') ∨ Confused sender receiver sender' receiver' := by
  constructor
  · intro h
    have hlist := congrArg String.toList h
    rw [toList_pairName, toList_pairName] at hlist
    rcases List.append_eq_append_iff.1 hlist with ⟨k, hsender, hrest⟩ | ⟨k, hsender, hrest⟩
    · rcases pair_cut hsender hrest with hsame | ⟨part, hpart⟩
      · exact .inl hsame
      · exact .inr ⟨part, .inl hpart⟩
    · rcases pair_cut hsender hrest with ⟨hs, hr⟩ | ⟨part, hpart⟩
      · exact .inl ⟨hs.symm, hr.symm⟩
      · exact .inr ⟨part, .inr hpart⟩
  · rintro (⟨rfl, rfl⟩ | ⟨part, ⟨rfl, rfl⟩ | ⟨rfl, rfl⟩⟩)
    · rfl
    all_goals simp only [pairName, String.append_assoc]

/-- An arrow is in the worker's name. -/
def Arrowed (worker : String) : Prop := ∃ u v, worker = pairName u v

/-- It takes an arrow in the sender's name of one pair and one in the receiver's name of the other
to confuse them. -/
theorem Confused.arrowed {sender receiver sender' receiver' : String}
    (h : Confused sender receiver sender' receiver') :
    (Arrowed sender ∧ Arrowed receiver') ∨ (Arrowed sender' ∧ Arrowed receiver) := by
  obtain ⟨part, ⟨hs, hr⟩ | ⟨hs, hr⟩⟩ := h
  · exact .inr ⟨⟨sender, part, hs⟩, ⟨part, receiver', hr⟩⟩
  · exact .inl ⟨⟨sender', part, hs⟩, ⟨part, receiver, hr⟩⟩

end Table

/-! ## Channels -/

variable {τ ε : Type}

/-- The call for the channel from one worker to another. -/
def Call.between (t : Table.Ref) (sender receiver : String) : Call τ ε :=
  .lookupOrCreate t (Table.pairName sender receiver)

theorem Exchange.found?_between (t : Table.Ref) (sender receiver : String) (c : Channel.Ref) :
    (⟨.between t sender receiver, c⟩ : Exchange τ ε).found? t (Table.pairName sender receiver) =
      some c :=
  if_pos ⟨rfl, rfl⟩

namespace Network

open Table (Arrowed Confused pairName)

/-- In every run that works with a table, with other tables and with anything else, two workers and
two others get the same channel exactly if they are the same, or confused, and nothing was removed
under their name in between. Asking for a channel between workers removes nothing. So different
pairs have different channels, unless a sender's name and a receiver's name have an arrow in
them. -/
theorem pairs_share_iff (before calls : List (Call τ ε)) (template : ChannelOptions) :
    let created := (({} : Network τ ε).run before).createTable template
    let t := created.2
    ∀ past mid rest sender receiver sender' receiver' (c d : Channel.Ref),
      created.1.history calls = past ++ ⟨.between t sender receiver, c⟩ ::
        (mid ++ ⟨.between t sender' receiver', d⟩ :: rest) →
      (c = d ↔ ((sender = sender' ∧ receiver = receiver') ∨
          Confused sender receiver sender' receiver') ∧
        ∀ z ∈ mid, z.removed? t (pairName sender receiver) = none) ∧
      (c = d → (sender = sender' ∧ receiver = receiver') ∨
        (Arrowed sender ∧ Arrowed receiver') ∨ (Arrowed sender' ∧ Arrowed receiver)) := by
  intro created t past mid rest sender receiver sender' receiver' c d hsplit
  have hstart := listed_createTable (({} : Network τ ε).run before) template
  have hshared := hstart.given_eq_iff hsplit (Exchange.found?_between t sender receiver c)
    (Exchange.found?_between t sender' receiver' d)
  rw [Table.pairName_eq_iff] at hshared
  exact ⟨hshared, fun hsame => (hshared.1 hsame).1.imp_right Confused.arrowed⟩

/-- Two pairs are confused and share a channel, until it is removed. -/
theorem pairs_share_iff_until_removed :
    let calls : List (Call Nat String) := [.between ⟨0⟩ "a->b" "c", .between ⟨0⟩ "a" "b->c",
      .unlink ⟨0⟩ "a->b->c", .between ⟨0⟩ "a" "b->c"]
    let created := ({} : Network Nat String).createTable {}
    let removed : Exchange Nat String := ⟨.unlink ⟨0⟩ "a->b->c", some (⟨0⟩ : Channel.Ref)⟩
    created.1.history calls = [
        ⟨.between ⟨0⟩ "a->b" "c", (⟨0⟩ : Channel.Ref)⟩,
        ⟨.between ⟨0⟩ "a" "b->c", (⟨0⟩ : Channel.Ref)⟩, removed,
        ⟨.between ⟨0⟩ "a" "b->c", (⟨1⟩ : Channel.Ref)⟩] ∧
      Confused "a->b" "c" "a" "b->c" ∧
      ((Arrowed "a->b" ∧ Arrowed "b->c") ∨ (Arrowed "a" ∧ Arrowed "c")) ∧
      ¬ ∀ z ∈ [removed], z.removed? ⟨0⟩ (pairName "a" "b->c") = none := by
  intro calls created removed
  have hhistory : created.1.history calls = [
      ⟨.between ⟨0⟩ "a->b" "c", (⟨0⟩ : Channel.Ref)⟩,
      ⟨.between ⟨0⟩ "a" "b->c", (⟨0⟩ : Channel.Ref)⟩, removed,
      ⟨.between ⟨0⟩ "a" "b->c", (⟨1⟩ : Channel.Ref)⟩] := by rfl
  have hdifferent : ¬ ("a->b" = "a" ∧ "c" = "b->c") := by decide
  obtain ⟨hshared, harrows⟩ := pairs_share_iff [] calls {} [] []
    [removed, ⟨.between ⟨0⟩ "a" "b->c", (⟨1⟩ : Channel.Ref)⟩]
    "a->b" "c" "a" "b->c" ⟨0⟩ ⟨0⟩ hhistory
  obtain ⟨hparted, -⟩ := pairs_share_iff [] calls {}
    [⟨.between ⟨0⟩ "a->b" "c", (⟨0⟩ : Channel.Ref)⟩] [removed] []
    "a" "b->c" "a" "b->c" ⟨0⟩ ⟨1⟩ hhistory
  refine ⟨hhistory, (hshared.1 rfl).1.resolve_left hdifferent,
    (harrows rfl).resolve_left hdifferent, fun hkept => ?_⟩
  exact absurd (hparted.2 ⟨.inl ⟨rfl, rfl⟩, hkept⟩) (by decide)

/-- Two pairs of workers get one channel, from a table that is asked for nothing else. -/
theorem different_pairs_share :
    let created := ({} : Network Nat String).createTable {}
    let t := created.2
    created.1.history [.between t "a->b" "c", .between t "a" "b->c"] =
        [⟨.between t "a->b" "c", (⟨0⟩ : Channel.Ref)⟩,
          ⟨.between t "a" "b->c", (⟨0⟩ : Channel.Ref)⟩] ∧
      ¬ ("a->b" = "a" ∧ "c" = "b->c") :=
  ⟨rfl, by decide⟩

end Network

end Rendezvous
