import Rendezvous.Store
import Rendezvous.Text.Quoted
import Rendezvous.Text.Inspect
import Rendezvous.Identity
import Rendezvous.Failure
import Rendezvous.Slot
import Rendezvous.Strand
import Rendezvous.Channel.Options
import Rendezvous.Channel.Pending
import Rendezvous.Channel.Basic
import Rendezvous.Coordinator
import Rendezvous.Table
import Rendezvous.Event
import Rendezvous.Network.Basic
import Rendezvous.Network.Scheduling
import Rendezvous.Network.Delivery
import Rendezvous.Network.Transfer
import Rendezvous.Network.Flushing
import Rendezvous.Network.Failing
import Rendezvous.Network.Lookup
import Rendezvous.Network.Call
import Rendezvous.Proofs.Frame
import Rendezvous.Proofs.ChannelEffects
import Rendezvous.Proofs.History
import Rendezvous.Proofs.Stream
import Rendezvous.Proofs.Fifo
import Rendezvous.Proofs.Steps
import Rendezvous.Proofs.OperationSteps
import Rendezvous.Proofs.Moves
import Rendezvous.Proofs.ReadySets
import Rendezvous.Proofs.FlushAll
import Rendezvous.Proofs.Waiting
import Rendezvous.Proofs.Orderly
import Rendezvous.Proofs.Wakeups
import Rendezvous.Proofs.Creation
import Rendezvous.Proofs.Bystanders
import Rendezvous.Proofs.ParkedFlush
import Rendezvous.Proofs.FlushOutcome
import Rendezvous.Proofs.Tally
import Rendezvous.Proofs.Parking
import Rendezvous.Proofs.FailureFates
import Rendezvous.Proofs.FlushSoundness
import Rendezvous.Proofs.OneWay
import Rendezvous.Proofs.SenderFailures
import Rendezvous.Proofs.SyncMessages
import Rendezvous.Proofs.SyncCompletion
import Rendezvous.Proofs.DispatchOrder
import Rendezvous.Proofs.ParkedReceiver
import Rendezvous.Proofs.StaleFlush
import Rendezvous.Proofs.Deeds
import Rendezvous.Proofs.FlushFates
import Rendezvous.Proofs.FailureRouting
import Rendezvous.Proofs.FlushAnswer
import Rendezvous.Proofs.Anomalies
import Rendezvous.Proofs.SlotHistory
import Rendezvous.Proofs.RetainedFailures
import Rendezvous.Proofs.Barriers
import Rendezvous.Proofs.AuditTrail
import Rendezvous.Proofs.Matching
import Rendezvous.Proofs.ReceivesCommute
import Rendezvous.Proofs.Directory
import Rendezvous.Proofs.Tables
import Rendezvous.Proofs.WorkerPairs
