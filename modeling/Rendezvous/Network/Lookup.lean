import Rendezvous.Network.Basic

/-!
# Lookup of channels

* `lookup`: the channel of a name, if there is one.
* `lookupOrCreate`: the channel of a name, created with the options of the table if there is none.
  A created channel goes by its key, whatever name these options carry.
* `unlink`: takes a channel out of a table. The channel itself goes on to exist.
-/

namespace Rendezvous.Network

variable {τ ε : Type}

/-- The channel of that name. -/
def lookup (n : Network τ ε) (t : Table.Ref) (name : String) : Option Channel.Ref :=
  (n.table t).get? name

/-- The channel of that name, which is created if there is none. -/
def lookupOrCreate (n : Network τ ε) (t : Table.Ref) (name : String) :
    Network τ ε × Channel.Ref :=
  match n.lookup t name with
  | some c => (n, c)
  | none =>
    let (n, c) := n.createChannel ((n.table t).options.withName name)
    (n.setTable t ((n.table t).insert name c), c)

/-- Takes the channel of that name out of the table. -/
def unlink (n : Network τ ε) (t : Table.Ref) (name : String) :
    Network τ ε × Option Channel.Ref :=
  (n.setTable t ((n.table t).erase name), n.lookup t name)

end Rendezvous.Network
