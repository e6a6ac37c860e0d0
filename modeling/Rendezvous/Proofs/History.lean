import Mathlib.Data.List.Induction
import Rendezvous.Proofs.Moves

/-!
# Histories

What the callers of a network have seen: each call with its answer, oldest first.

* **Exchanges** (`Exchange`, `Network.history`): the calls of a run with their answers.
* **One channel** (`operationsOn`): the operations performed on one channel, with their outcomes.
* **The stream of a channel**: what an operation puts into it (`Operation.item?`) and what its
  outcome takes out of it (`Outcome.item?`). An item is a value or a failure.
* **Invariants of one channel** (`Network.channel_run`).
* **Rules** (`Network.Keeps`): a run keeps a rule if each call is allowed in the network in which it
  is made. `Keeps.invariant`: what holds at the start and is kept by each allowed call holds at the
  end.
-/

namespace Rendezvous

variable {τ ε : Type}

/-- A call with its answer. -/
structure Exchange (τ ε : Type) where
  call : Call τ ε
  answer : call.Answer

/-- What goes through a channel: a value, or the failure of the sending worker. -/
abbrev Item (τ ε : Type) := Except (Failure ε) τ

/-! ## Items -/

/-- What an operation puts into the stream. -/
def Operation.item? : Operation τ ε → Option (Item τ ε)
  | .send value _ => some (.ok value)
  | .syncSend value _ _ => some (.ok value)
  | .failSend f => some (.error f)
  | _ => none

/-- What an outcome took out of the stream. -/
def Outcome.item? : Outcome τ ε → Option (Item τ ε)
  | .received r => r.toExcept?
  | _ => none

/-- The value of an item that is one. -/
def Item.value? : Item τ ε → Option τ
  | .ok value => some value
  | .error _ => none

/-- The failure of an item that is one. -/
def Item.failure? : Item τ ε → Option (Failure ε)
  | .ok _ => none
  | .error f => some f

/-- The values among some items. -/
def valuesOf (items : List (Item τ ε)) : List τ := items.filterMap Item.value?

/-- The failures among some items. -/
def failuresOf (items : List (Item τ ε)) : List (Failure ε) := items.filterMap Item.failure?

/-- An item is a value or a failure. -/
theorem length_items (items : List (Item τ ε)) :
    items.length = (valuesOf items).length + (failuresOf items).length := by
  induction items with
  | nil => rfl
  | cons item items ih =>
    cases item <;>
      simp only [valuesOf, failuresOf, List.filterMap_cons, Item.value?, Item.failure?,
        List.length_cons] at ih ⊢ <;> omega

@[simp] theorem valuesOf_append (a b : List (Item τ ε)) :
    valuesOf (a ++ b) = valuesOf a ++ valuesOf b := List.filterMap_append ..

/-- Whether an operation sends a value. -/
def Operation.isSend : Operation τ ε → Bool
  | .send .. => true
  | .syncSend .. => true
  | _ => false

/-- Whether an operation reports a failure of the sending worker. -/
def Operation.isFailSend : Operation τ ε → Bool
  | .failSend _ => true
  | _ => false

/-- Whether an operation reports a failure of the receiving worker. -/
def Operation.isFailReceive : Operation τ ε → Bool
  | .failReceive _ => true
  | _ => false

/-! ## One channel -/

/-- The operation on `c` that an exchange is about, with its outcome. -/
def Exchange.operation? (c : Channel.Ref) : Exchange τ ε → Option (Operation τ ε × Outcome τ ε)
  | ⟨.operate x op, outcome⟩ => if x = c then some (op, outcome) else none
  | _ => none

/-- The operations performed on `c`, with their outcomes. -/
def operationsOn (c : Channel.Ref) (h : List (Exchange τ ε)) :
    List (Operation τ ε × Outcome τ ε) := h.filterMap (·.operation? c)

@[simp] theorem operationsOn_append (c : Channel.Ref) (a b : List (Exchange τ ε)) :
    operationsOn c (a ++ b) = operationsOn c a ++ operationsOn c b := List.filterMap_append ..

theorem length_operationsOn_le (c : Channel.Ref) (h : List (Exchange τ ε)) :
    (operationsOn c h).length ≤ h.length := List.length_filterMap_le ..

/-- The items submitted to the stream of a channel. -/
def submitted (ops : List (Operation τ ε × Outcome τ ε)) : List (Item τ ε) :=
  ops.filterMap (·.1.item?)

/-- The items obtained from the stream of a channel. -/
def obtained (ops : List (Operation τ ε × Outcome τ ε)) : List (Item τ ε) :=
  ops.filterMap (·.2.item?)

/-- How many values were sent. -/
def sends (ops : List (Operation τ ε × Outcome τ ε)) : Nat := ops.countP (·.1.isSend)

/-- How often the sending worker was reported to have failed. -/
def sendFailures (ops : List (Operation τ ε × Outcome τ ε)) : Nat := ops.countP (·.1.isFailSend)

/-- How often the receiving worker was reported to have failed. -/
def receiveFailures (ops : List (Operation τ ε × Outcome τ ε)) : Nat :=
  ops.countP (·.1.isFailReceive)

theorem length_valuesOf_submitted (ops : List (Operation τ ε × Outcome τ ε)) :
    (valuesOf (submitted ops)).length = sends ops := by
  rw [valuesOf, submitted, List.filterMap_filterMap, List.length_filterMap_eq_countP, sends]
  congr
  funext o
  cases o.1 <;> rfl

theorem length_failuresOf_submitted (ops : List (Operation τ ε × Outcome τ ε)) :
    (failuresOf (submitted ops)).length = sendFailures ops := by
  rw [failuresOf, submitted, List.filterMap_filterMap, List.length_filterMap_eq_countP,
    sendFailures]
  congr
  funext o
  cases o.1 <;> rfl

/-- What is submitted are the values sent and the failures of the sending worker. -/
theorem length_submitted (ops : List (Operation τ ε × Outcome τ ε)) :
    (submitted ops).length = sends ops + sendFailures ops := by
  rw [length_items, length_valuesOf_submitted, length_failuresOf_submitted]

@[simp] theorem submitted_append (a b : List (Operation τ ε × Outcome τ ε)) :
    submitted (a ++ b) = submitted a ++ submitted b := List.filterMap_append ..

@[simp] theorem obtained_append (a b : List (Operation τ ε × Outcome τ ε)) :
    obtained (a ++ b) = obtained a ++ obtained b := List.filterMap_append ..

/-! ## Runs -/

namespace Network

/-- A call with the answer that it gets. -/
def exchange (n : Network τ ε) (call : Call τ ε) : Exchange τ ε := ⟨call, (n.perform call).2⟩

@[simp] theorem call_exchange (n : Network τ ε) (call : Call τ ε) :
    (n.exchange call).call = call := rfl

/-- An operation is seen on its channel with its outcome. -/
@[simp] theorem operationsOn_exchange_operate (n : Network τ ε) (c : Channel.Ref)
    (op : Operation τ ε) :
    operationsOn c [n.exchange (.operate c op)] = [(op, (n.operate c op).2)] := by
  simp [operationsOn, Exchange.operation?, exchange, perform]

/-- A call that is not passed a channel is no operation on it. -/
theorem operationsOn_exchange_eq_nil (n : Network τ ε) {c : Channel.Ref} {call : Call τ ε}
    (h : c ∉ call.channels) : operationsOn c [n.exchange call] = [] := by
  cases call with
  | operate x op =>
    have hx : x ≠ c := fun hx => h (hx ▸ List.mem_singleton.2 rfl)
    simp [operationsOn, Exchange.operation?, exchange, hx]
  | _ => rfl

/-- The calls of a run with their answers. -/
def history (n : Network τ ε) : List (Call τ ε) → List (Exchange τ ε)
  | [] => []
  | call :: calls => n.exchange call :: (n.perform call).1.history calls

@[simp] theorem history_nil (n : Network τ ε) : n.history [] = [] := rfl

@[simp] theorem history_cons (n : Network τ ε) (call : Call τ ε) (calls : List (Call τ ε)) :
    n.history (call :: calls) = n.exchange call :: (n.perform call).1.history calls := rfl

theorem history_append (n : Network τ ε) (a b : List (Call τ ε)) :
    n.history (a ++ b) = n.history a ++ (n.run a).history b := by
  induction a generalizing n with
  | nil => rfl
  | cons call a ih => rw [List.cons_append, history_cons, history_cons, run_cons, ih]; rfl

/-- Each exchange of a history is made in the network to which the calls before it lead. -/
theorem history_split {n : Network τ ε} {calls : List (Call τ ε)} {past rest : List (Exchange τ ε)}
    {x : Exchange τ ε} (h : n.history calls = past ++ x :: rest) :
    ∃ before call after, calls = before ++ call :: after ∧ n.history before = past ∧
      (n.run before).exchange call = x ∧
      ((n.run before).perform call).1.history after = rest := by
  induction past generalizing n calls with
  | nil =>
    cases calls with
    | nil => cases h
    | cons call calls =>
      obtain ⟨rfl, rfl⟩ := List.cons.inj h
      exact ⟨[], call, calls, rfl, rfl, rfl, rfl⟩
  | cons y past ih =>
    cases calls with
    | nil => cases h
    | cons call calls =>
      obtain ⟨rfl, htail⟩ := List.cons.inj h
      obtain ⟨before, last, after, rfl, rfl, hx, hrest⟩ := ih htail
      exact ⟨call :: before, last, after, rfl, rfl, hx, hrest⟩

@[simp] theorem map_call_history (n : Network τ ε) (calls : List (Call τ ε)) :
    (n.history calls).map (·.call) = calls := by
  induction calls generalizing n with
  | nil => rfl
  | cons call calls ih => rw [history_cons, List.map_cons, ih, call_exchange]

@[simp] theorem length_history (n : Network τ ε) (calls : List (Call τ ε)) :
    (n.history calls).length = calls.length := by
  rw [← List.length_map, map_call_history]

/-- The operations of a run on a channel are those of its first call and those of the others. -/
theorem operationsOn_history_cons (n : Network τ ε) (call : Call τ ε) (calls : List (Call τ ε))
    (c : Channel.Ref) : operationsOn c (n.history (call :: calls)) =
      operationsOn c [n.exchange call] ++ operationsOn c ((n.perform call).1.history calls) := by
  rw [← operationsOn_append]
  rfl

/-- So they are if the run goes on. -/
theorem operationsOn_history_append (n : Network τ ε) (a b : List (Call τ ε)) (c : Channel.Ref) :
    operationsOn c (n.history (a ++ b)) =
      operationsOn c (n.history a) ++ operationsOn c ((n.run a).history b) := by
  rw [history_append, operationsOn_append]

theorem operationsOn_history_snoc (n : Network τ ε) (calls : List (Call τ ε)) (call : Call τ ε)
    (c : Channel.Ref) : operationsOn c (n.history (calls ++ [call])) =
      operationsOn c (n.history calls) ++ operationsOn c [(n.run calls).exchange call] :=
  operationsOn_history_append n calls [call] c

/-- An operation that comes last is the last one of its channel. -/
theorem operationsOn_history_operate (n : Network τ ε) (calls : List (Call τ ε)) (c : Channel.Ref)
    (op : Operation τ ε) : operationsOn c (n.history (calls ++ [.operate c op])) =
      operationsOn c (n.history calls) ++ [(op, ((n.run calls).operate c op).2)] := by
  rw [operationsOn_history_snoc, operationsOn_exchange_operate]

/-- The operations of a run on a channel are not more than its calls. -/
theorem length_operationsOn_history_le (n : Network τ ε) (calls : List (Call τ ε))
    (c : Channel.Ref) : (operationsOn c (n.history calls)).length ≤ calls.length :=
  length_history n calls ▸ length_operationsOn_le c _

/-- What holds of a channel in every run: what its creation, each operation and each flush keeps,
and the withdrawal of a flush too. -/
theorem channel_run {P : List (Operation τ ε × Outcome τ ε) → Channel τ ε → Prop} {c : Channel.Ref}
    (start : P [] default) (create : ∀ ops options, P ops default → P ops (.create options))
    (operate : ∀ (calls : List (Call τ ε)) (op : Operation τ ε),
      let n := ({} : Network τ ε).run calls
      let ops := operationsOn c (({} : Network τ ε).history calls)
      P ops (n.channel c) →
        P (ops ++ [(op, (n.operate c op).2)]) ((n.operate c op).1.channel c))
    (flush : ∀ (n : Network τ ε) ops s d k, P ops (n.channel c) →
      P ops ((n.flush c s d k).1.channel c))
    (withdraw : ∀ ops (channel : Channel τ ε) (d : Slot.Ref), P ops channel →
      P ops { channel with flushSender := channel.flushSender.filter (·.slot ≠ d) })
    (calls : List (Call τ ε)) : P (operationsOn c (({} : Network τ ε).history calls))
      ((({} : Network τ ε).run calls).channel c) := by
  induction calls using List.reverseRecOn with
  | nil => exact start
  | append_singleton calls call ih =>
    rw [operationsOn_history_snoc, run_append]
    by_cases hc : c ∈ call.channels
    · cases call with
      | operate x op =>
        obtain rfl : c = x := List.mem_singleton.1 hc
        rw [operationsOn_exchange_operate]
        exact operate calls op ih
      | flushAll cs s d =>
        have hnone : operationsOn c [(({} : Network τ ε).run calls).exchange (.flushAll cs s d)] =
          [] := rfl
        rw [hnone, List.append_nil]
        exact flushAll_keeps _ (fun m s d k => flush m _ s d k) (fun b d => withdraw _ b d) cs s d
          ih
      | _ => cases hc
    · rw [operationsOn_exchange_eq_nil _ hc, List.append_nil]
      obtain hsame | ⟨hdefault, options, hcreated⟩ := channel_perform_of_notMem _ call hc
      · change P _ (((({} : Network τ ε).run calls).perform call).1.channel c)
        rw [hsame]
        exact ih
      · change P _ (((({} : Network τ ε).run calls).perform call).1.channel c)
        rw [hcreated]
        exact create _ options (hdefault ▸ ih)

/-- Each call of a run is allowed in the network in which it is made. -/
def Keeps (rule : Network τ ε → Call τ ε → Prop) (n : Network τ ε) : List (Call τ ε) → Prop
  | [] => True
  | call :: calls => rule n call ∧ (n.perform call).1.Keeps rule calls

variable {rule : Network τ ε → Call τ ε → Prop}

instance decidableKeeps [∀ n call, Decidable (rule n call)] :
    (n : Network τ ε) → (calls : List (Call τ ε)) → Decidable (n.Keeps rule calls)
  | _, [] => instDecidableTrue
  | n, call :: calls =>
    have : Decidable ((n.perform call).1.Keeps rule calls) := decidableKeeps ..
    inferInstanceAs (Decidable (rule n call ∧ (n.perform call).1.Keeps rule calls))

theorem keeps_append {n : Network τ ε} {a b : List (Call τ ε)} :
    n.Keeps rule (a ++ b) ↔ n.Keeps rule a ∧ (n.run a).Keeps rule b := by
  induction a generalizing n with
  | nil => simp [Keeps]
  | cons call a ih => simp only [List.cons_append, Keeps, run_cons, ih, and_assoc]

/-- What holds at the start and is kept by each allowed call holds at the end. -/
theorem Keeps.invariant {P : Network τ ε → Prop}
    (step : ∀ n call, P n → rule n call → P (n.perform call).1) {n : Network τ ε}
    {calls : List (Call τ ε)} (h : n.Keeps rule calls) (hn : P n) : P (n.run calls) := by
  induction calls generalizing n with
  | nil => exact hn
  | cons call calls ih => exact ih h.2 (step n call hn h.1)

end Network

end Rendezvous
