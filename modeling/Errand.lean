import Errand.Main
import Errand.Rehearsal.World
import Errand.Session.Key
import Errand.Proofs.Dialogue.Play
import Errand.Proofs.Dialogue.Timing
import Errand.Proofs.Session.Steps
import Errand.Proofs.Session.Legs
import Errand.Proofs.Session.Account
import Errand.Proofs.Session.Polling
import Errand.Proofs.Execution.Tiers
import Errand.Proofs.Agent.Conduct
import Errand.Proofs.Agent.Reporting
import Errand.Proofs.Gate.History
import Errand.Proofs.Agent.Consistency
import Errand.Proofs.Session.Closing
import Errand.Proofs.Session.Opening
import Errand.Proofs.Session.Loads
import Errand.Proofs.ToolServer.Exchange
import Errand.Proofs.Text.Pattern
import Errand.Proofs.Text.Spacing
import Errand.Proofs.Query.Residue
import Errand.Proofs.Execution.Agreement
import Errand.Proofs.Execution.Soundness
import Errand.Proofs.Execution.Automation
import Errand.Proofs.ToolServer.Verdict
import Errand.Proofs.Plan.Travel
import Errand.Proofs.Session.Truncation
import Errand.Proofs.Session.Inert
import Errand.Proofs.Plan.Rules
import Errand.Proofs.Execution.Answer
import Errand.Proofs.Session.Schedule
import Errand.Proofs.Session.Candidates
import Errand.Proofs.Session.Shares
import Errand.Proofs.ToolServer.Noise
import Errand.Proofs.Query.Shape
import Errand.Proofs.Plan.Extraction
import Errand.Proofs.Platform.Search
import Errand.Proofs.Execution.Playback
import Errand.Proofs.Platform.Peeling
import Errand.Proofs.Platform.Address
import Errand.Proofs.Execution.Surfacing
import Errand.Proofs.Web.Reference
import Errand.Proofs.Execution.Completion
import Errand.Proofs.Web.Markup
import Errand.Proofs.Web.ResultList
import Errand.Proofs.Platform.Sweep
import Errand.Proofs.Plan.Parameters
import Errand.Proofs.Platform.Table
import Errand.Proofs.Web.Target
