import Fleetwire.Broadcast
import Fleetwire.Directory.Session
import Fleetwire.Router.Session
import Fleetwire.Session
import Fleetwire.Proofs.Actions
import Fleetwire.Proofs.Lifecycle.Simulation
import Fleetwire.Proofs.Lifecycle.Staff
import Fleetwire.Proofs.Lifecycle.Sound
import Fleetwire.Proofs.Lifecycle.Entries
import Fleetwire.Proofs.Lifecycle.Affairs
import Fleetwire.Proofs.Presence
import Fleetwire.Proofs.Replay
import Fleetwire.Proofs.Lifecycle.History
import Fleetwire.Proofs.Notices
import Fleetwire.Proofs.Membership
import Fleetwire.Proofs.Router
import Fleetwire.Proofs.Router.Correlation
import Fleetwire.Proofs.Traffic
import Fleetwire.Proofs.Traffic.View
import Fleetwire.Proofs.Traffic.Calls
import Fleetwire.Proofs.Traffic.Tasks
import Fleetwire.Proofs.Traffic.Simulation
import Fleetwire.Proofs.Traffic.Sound
import Fleetwire.Proofs.Traffic.Tracking
import Fleetwire.Proofs.Calls
import Fleetwire.Proofs.Pending
import Fleetwire.Proofs.Lifecycle.Departures
import Fleetwire.Proofs.Jobs
import Fleetwire.Proofs.Jobs.View
import Fleetwire.Proofs.Jobs.Tasks
import Fleetwire.Proofs.Jobs.Simulation
import Fleetwire.Proofs.Jobs.Sound
import Fleetwire.Proofs.Jobs.Latest
import Fleetwire.Proofs.Shutdown
import Fleetwire.Proofs.Recording
import Fleetwire.Proofs.Framing
import Fleetwire.Proofs.Framing.Reader
import Fleetwire.Proofs.Framing.Laws
import Fleetwire.Proofs.Framing.Stream
import Fleetwire.Proofs.Flow
import Fleetwire.Proofs.Flow.View
import Fleetwire.Proofs.Flow.Tasks
import Fleetwire.Proofs.Flow.Simulation
import Fleetwire.Proofs.Outbound
import Fleetwire.Proofs.Inbound
import Fleetwire.Proofs.Lifecycle.Waiting
import Fleetwire.Proofs.Quiescence
import Fleetwire.Proofs.MessagePack
import Fleetwire.Proofs.MessagePack.Shapes
import Fleetwire.Proofs.Envelopes
import Fleetwire.Proofs.MessagePack.Canonical
import Fleetwire.Proofs.Catalog
import Fleetwire.Proofs.Pool
import Fleetwire.Proofs.Pool.Accounting
import Fleetwire.Proofs.Pool.Fates
import Fleetwire.Proofs.Flow.Senders
import Fleetwire.Proofs.Flow.Lines
import Fleetwire.Proofs.Flow.Open
import Fleetwire.Proofs.Traffic.Requests
import Fleetwire.Proofs.Dialogue
import Fleetwire.Proofs.Dialogue.Sound
import Fleetwire.Proofs.Dialogue.Progress
import Fleetwire.Proofs.Dialogue.Results
import Fleetwire.Proofs.Dialogue.Rest
import Fleetwire.Proofs.TypedCalls
import Fleetwire.Proofs.Tasks
import Fleetwire.Proofs.Likeness
import Fleetwire.Proofs.Isolation.Frame
import Fleetwire.Proofs.Isolation
import Fleetwire.Proofs.Indifference.Layer
import Fleetwire.Proofs.Indifference
import Fleetwire.Proofs.MessagePack.Values
import Fleetwire.Proofs.MessagePack.Forms
import Fleetwire.Proofs.Evolution
import Fleetwire.Proofs.Rejection
import Fleetwire.Proofs.Closing.Work
import Fleetwire.Proofs.Closing.Dismissal
import Fleetwire.Proofs.Closing
import Fleetwire.Proofs.Oversize.Calls
import Fleetwire.Proofs.Oversize
import Fleetwire.Proofs.Toml
import Fleetwire.Proofs.Capacity
import Fleetwire.Proofs.Registration
