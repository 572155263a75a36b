import StratumBridge.Transition.History
import StratumBridge.Transition.Run
import StratumBridge.Transition.Observe
import StratumBridge.Transition.Custody
import StratumBridge.Data.PartialMap
import StratumBridge.Data.IndexMap
import StratumBridge.Data.RoundRobin
import StratumBridge.Data.Table
import StratumBridge.Sequence.Greedy
import StratumBridge.Sequence.Schedule
import StratumBridge.Rpc.Types
import StratumBridge.Wire.Messages
import StratumBridge.Wire.Codec
import StratumBridge.Registry.Contributions
import StratumBridge.Registry.Core
import StratumBridge.Speculative.Round
import StratumBridge.Speculative.Engine
import StratumBridge.Speculative.System
import StratumBridge.Speculative.Outcomes
import StratumBridge.Speculative.Text
import StratumBridge.Speculative.Position
import StratumBridge.Speculative.Length
import StratumBridge.Speculative.Sessions
import StratumBridge.Speculative.Drops
import StratumBridge.Speculative.Acks
import StratumBridge.Speculative.Phases
import StratumBridge.Shard.Engine
import StratumBridge.Shard.System
import StratumBridge.Shard.Outcomes
import StratumBridge.Shard.Intake
import StratumBridge.Shard.Serial
import StratumBridge.Shard.Hand
import StratumBridge.Shard.Drops
import StratumBridge.Shard.Sessions
import StratumBridge.Shard.Plan
import StratumBridge.Shard.Layers
import StratumBridge.Shard.Credit
import StratumBridge.Shard.Submits
import StratumBridge.Shard.Dense
import StratumBridge.Bridge.Affinity
import StratumBridge.Bridge.World
import StratumBridge.Bridge.Custody
import StratumBridge.Bridge.Ownership
import StratumBridge.Bridge.Recovery
import StratumBridge.Lifecycle.Rows
import StratumBridge.Lifecycle.Commit
import StratumBridge.Lifecycle.System
import StratumBridge.Lifecycle.Statuses
import StratumBridge.Lifecycle.Monotone
import StratumBridge.Lifecycle.Attempts
import StratumBridge.Lifecycle.Remembered
import StratumBridge.Lifecycle.Reveals
import StratumBridge.Expert.Combine
import StratumBridge.Expert.Dispatcher
import StratumBridge.Expert.System
import StratumBridge.Transition.WaitFor
import StratumBridge.Expert.Replies
import StratumBridge.Expert.Groups
import StratumBridge.Expert.Deadlock
import StratumBridge.Expert.Join
import StratumBridge.Opoi.Engine
import StratumBridge.Opoi.System
import StratumBridge.Transition.Beside
import StratumBridge.Bridge.Routing
import StratumBridge.Bridge.Delegation
import StratumBridge.Lifecycle.Requests
import StratumBridge.Payout.Batch
import StratumBridge.Payout.System
import StratumBridge.Payout.Once
import StratumBridge.Payout.Rewards
import StratumBridge.Opoi.SpokenFor
import StratumBridge.Audit.Auditor
import StratumBridge.Audit.System
import StratumBridge.Bridge.Recipients
import StratumBridge.Bridge.Pool
import StratumBridge.Bridge.Bans
import StratumBridge.Expert.Floors
import StratumBridge.Expert.Keys
import StratumBridge.Payout.Marks
import StratumBridge.Audit.Answers
import StratumBridge.Audit.Tables
import StratumBridge.Audit.Convictions
import StratumBridge.Bridge.Ejections
import StratumBridge.Expert.Gguf
import StratumBridge.Expert.Vram
import StratumBridge.Data.Frames
import StratumBridge.Audit.Signatures
import StratumBridge.Audit.Tampering
import StratumBridge.Bridge.Receipts
import StratumBridge.Bridge.Withholding
import StratumBridge.Payout.Counts
import StratumBridge.Data.Reader
import StratumBridge.Expert.Header
import StratumBridge.Expert.Sizes
import StratumBridge.Expert.Layers
import StratumBridge.Speculative.Panics
import StratumBridge.Audit.Coverage
import StratumBridge.Sequence.Assignment
import StratumBridge.Expert.Hosts
import StratumBridge.Expert.Shapes
import StratumBridge.Rpc.Json
import StratumBridge.Data.Outbox
import StratumBridge.Proxy.Session
import StratumBridge.Proxy.Relay
import StratumBridge.Stake.Renewal
import StratumBridge.Stake.Pacing
import StratumBridge.Proxy.Confirmed
import StratumBridge.Proxy.Sessions
import StratumBridge.Proxy.Mirror
import StratumBridge.Expert.Truncation
import StratumBridge.Stake.Pool
import StratumBridge.Shard.Graph
import StratumBridge.Lifecycle.Rounds
import StratumBridge.Opoi.Submission
import StratumBridge.Opoi.Provisional
import StratumBridge.Shard.Refusals
import StratumBridge.Rpc.Client
import StratumBridge.Opoi.Startup
import StratumBridge.Shard.WholeRange
import StratumBridge.Speculative.Outstanding
import StratumBridge.Shard.Outstanding
import StratumBridge.Bridge.Floor
import StratumBridge.Wire.Hex
import StratumBridge.Bridge.Encodings
import StratumBridge.Data.Metered
import StratumBridge.Expert.Calls
import StratumBridge.Sequence.Windows
import StratumBridge.Http.RateLimit
import StratumBridge.Data.Latest
import StratumBridge.Expert.Topology
import StratumBridge.Data.Settings
import StratumBridge.Setup.Wizard
import StratumBridge.Setup.Survival
import StratumBridge.Data.Record
import StratumBridge.Wire.Format
import StratumBridge.Proxy.Lines
import StratumBridge.Http.Client
import StratumBridge.Expert.Prefix
import StratumBridge.Sequence.Ranking
import StratumBridge.Expert.Ranking
import StratumBridge.Shard.Sources
import StratumBridge.Opoi.Provenance
import StratumBridge.Shard.Provenance
import StratumBridge.Bridge.Front
import StratumBridge.Shard.Topology
import StratumBridge.Shard.Report
import StratumBridge.Data.Overwrite
import StratumBridge.Speculative.Tokenizer
import StratumBridge.Shard.Grounds
import StratumBridge.Speculative.Grounds
import StratumBridge.Opoi.Grounds
import StratumBridge.Bridge.Sentences
import StratumBridge.Speculative.Rounds
import StratumBridge.Bridge.Wages
