import KarelLab.Main
import KarelLab.Service.Api
import KarelLab.Service.Variables
import KarelLab.Proofs.Execution.Record
import KarelLab.Proofs.World.WellFormed
import KarelLab.Proofs.Document.RoundTrip
import KarelLab.Proofs.Isolation.Record
import KarelLab.Proofs.Playback.Bookkeeping
import KarelLab.Proofs.Playback.Coherence
import KarelLab.Proofs.Playback.Consistency
import KarelLab.Proofs.Playback.Schedule
import KarelLab.Proofs.Playback.Tasks
import KarelLab.Proofs.Program.Language
import KarelLab.Proofs.Program.Review
import KarelLab.Proofs.Program.Outline
import KarelLab.Proofs.Execution.Names
import KarelLab.Proofs.Execution.Ending
import KarelLab.Proofs.Execution.Points
import KarelLab.Proofs.Execution.Budget
import KarelLab.Proofs.Document.Accepted
import KarelLab.World.Call
import KarelLab.Proofs.World.Calls
import KarelLab.Proofs.Execution.Time
import KarelLab.Proofs.Isolation.InPlace
import KarelLab.Proofs.Playback.Isolation
import KarelLab.Proofs.Playback.Freshness
import KarelLab.Proofs.Isolation.Restrictions
import KarelLab.Proofs.Playback.Rejected
import KarelLab.Proofs.Playback.Restrictions
import KarelLab.Proofs.Service.Rejected
import KarelLab.Proofs.World.Reach
import KarelLab.Proofs.World.Beepers
import KarelLab.Proofs.World.Alike
import KarelLab.Proofs.Execution.Alike
import KarelLab.Proofs.Playback.Alone
import KarelLab.Proofs.Playback.Order
import KarelLab.Proofs.Isolation.Messages
import KarelLab.Proofs.Playback.Tests
import KarelLab.Proofs.Service.Tests
import KarelLab.Proofs.Json.Spelling
import KarelLab.Proofs.Document.Survival
import KarelLab.Proofs.World.Conservation
import KarelLab.Proofs.Playback.Conservation
import KarelLab.Proofs.Program.Filter
import KarelLab.Proofs.Playback.Telling
import KarelLab.Proofs.Execution.Numbering
import KarelLab.Proofs.Program.LineEnds
import KarelLab.Proofs.Playback.Quiet
import KarelLab.Proofs.Playback.Script
import KarelLab.Proofs.Playback.Timely
import KarelLab.Proofs.CommandLine.Proceed
import KarelLab.Proofs.Service.FrontEnds
import KarelLab.Proofs.World.Rotation
import KarelLab.Proofs.World.Undo
import KarelLab.Proofs.World.Goals
import KarelLab.Proofs.Program.Counters
import KarelLab.Proofs.Execution.Kept
import KarelLab.Proofs.Execution.Numbers
import KarelLab.Proofs.Execution.Counters
import KarelLab.Proofs.World.Guards
import KarelLab.Proofs.World.Normal
import KarelLab.Proofs.Execution.Calls
import KarelLab.Proofs.Service.Limits
import KarelLab.Proofs.Playback.Subscriptions
import KarelLab.Proofs.Playback.Performance
import KarelLab.Proofs.Program.Prefix
import KarelLab.Proofs.Execution.Renewal
