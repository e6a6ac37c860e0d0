import Rendezvous.Proofs.OperationSteps

/-!
# The directory

Which channels go by which names, and what the channels are, is settled by tables and by creation.
No channel, strand, slot or coordinator has a say in it.

* **The directory** (`Network.directory`): the tables, and what each channel was created with.
* **Steps** (`Network.Inert`): a step leaves the directory as it is if it asks no table and keeps
  what its channel was created with (`Steps.directory`). Operations are made of such steps.
* **Calls** (`directory_perform`): so does every call that creates no channel and asks no table.
-/

namespace Rendezvous

variable {τ ε : Type}

namespace Network

/-- The tables, and what each channel was created with. -/
def directory (n : Network τ ε) : Store Table.Ref Table × (Channel.Ref → ChannelOptions) :=
  (n.tables, fun c => (n.channel c).options)

variable {n m : Network τ ε}

theorem tables_of_directory (h : m.directory = n.directory) : m.tables = n.tables :=
  congrArg Prod.fst h

theorem options_of_directory (h : m.directory = n.directory) (c : Channel.Ref) :
    (m.channel c).options = (n.channel c).options :=
  congrFun (congrArg Prod.snd h) c

/-! ## Steps -/

/-- Whether a step asks no table, and keeps what its channel was created with. -/
def Inert (n : Network τ ε) : Step τ ε → Prop
  | .update c f => (f (n.channel c)).options = (n.channel c).options
  | .setTable .. => False
  | _ => True

theorem tables_suspend (n : Network τ ε) (s : Strand.Ref) : (n.suspend s).tables = n.tables := by
  unfold suspend
  split <;> rfl

theorem tables_markRunning (n : Network τ ε) (s : Strand.Ref) :
    (n.markRunning s).tables = n.tables := by
  unfold markRunning
  split <;> rfl

theorem tables_wake (n : Network τ ε) (s : Strand.Ref) : (n.wake s).tables = n.tables := by
  unfold wake
  split
  · unfold enqueue
    dsimp only
    split <;> rfl
  · rfl

theorem Steps.directory (h : Steps Inert n m) : m.directory = n.directory := by
  have tables : m.tables = n.tables := by
    induction h with
    | refl => rfl
    | @step m _ x hx ih =>
      rw [← ih]
      cases x with
      | suspend s => exact tables_suspend m s
      | markRunning s => exact tables_markRunning m s
      | wake s => exact tables_wake m s
      | setTable => cases hx
      | emit | fill | update | coordinate => rfl
  exact Prod.ext tables (funext (h.channel_eq fun hx => hx))

theorem tolerant_inert : Tolerant (Inert (τ := τ) (ε := ε)) where
  emit _ := trivial
  update _ hf := hf.options
  free {_ x} hx := by cases x <;> trivial
  again := trivial

theorem steps_inert (n : Network τ ε) (c : Channel.Ref) (op : Operation τ ε) :
    Steps Inert n (n.operate c op).1 := by
  refine steps_operate (fun hx => ?_) fun hx => ?_
  · cases hx with
    | update _ ho => exact ho
    | emit => trivial
  · cases hx with
    | update hf => exact hf.options
    | _ => trivial

end Network

/-! ## Calls -/

/-- Whether a call creates a channel by itself. -/
def Call.createsChannel : Call τ ε → Bool
  | .createChannel _ => true
  | _ => false

namespace Network

variable (n : Network τ ε)

theorem directory_dispatch (q : ReadySet.Ref) : (n.dispatch q).1.directory = n.directory := by
  unfold dispatch
  split <;> rfl

/-- A call that asks no table and creates no channel leaves the directory as it is. -/
theorem directory_perform {call : Call τ ε} (ht : call.isOnTable = false)
    (hc : call.createsChannel = false) : (n.perform call).1.directory = n.directory := by
  have moved : call.isMove = true → (n.perform call).1.directory = n.directory := fun h =>
    (Steps.perform h tolerant_inert (fun htable => by rw [ht] at htable; cases htable)
      (fun m c s d k => m.steps_inert c (.flush s d k)) fun c op _ => n.steps_inert c op).directory
  cases call with
  | dispatch q => exact directory_dispatch n q
  | poll q held =>
    change (n.poll q held).1.directory = n.directory
    rw [fst_poll, directory_dispatch]
  | createChannel => cases hc
  | lookupOrCreate => cases ht
  | createReadySet | createStrand | createSlot | dropScheduler | dropConsumer | resume | take => rfl
  | _ => exact moved rfl

end Network

end Rendezvous
