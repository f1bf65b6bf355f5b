import NodeCanvas.Catalog
import NodeCanvas.CharSet.Basic
import NodeCanvas.CharSet.Written
import NodeCanvas.Character.Added
import NodeCanvas.Character.Age
import NodeCanvas.Character.Break
import NodeCanvas.Character.Category
import NodeCanvas.Character.CategoryTable
import NodeCanvas.Character.Combining
import NodeCanvas.Character.Folding
import NodeCanvas.Character.Property
import NodeCanvas.Character.PropertyTable
import NodeCanvas.Character.Script
import NodeCanvas.Character.ScriptTable
import NodeCanvas.Character.Written
import NodeCanvas.Choices.Cache
import NodeCanvas.Choices.Key
import NodeCanvas.Command
import NodeCanvas.Dict
import NodeCanvas.Document.Basic
import NodeCanvas.Document.Calendar
import NodeCanvas.Failure
import NodeCanvas.Form.Basic
import NodeCanvas.Form.Check
import NodeCanvas.Form.Edit
import NodeCanvas.Form.Fetching
import NodeCanvas.Form.Kind
import NodeCanvas.Form.View
import NodeCanvas.Graph.Basic
import NodeCanvas.Graph.Warnings
import NodeCanvas.Invocation
import NodeCanvas.Json.Numeral
import NodeCanvas.Json.Printer
import NodeCanvas.Json.Record
import NodeCanvas.Json.Source
import NodeCanvas.Json.Tagged
import NodeCanvas.Json.Token
import NodeCanvas.Json.Value
import NodeCanvas.Main
import NodeCanvas.NodeType.Basic
import NodeCanvas.NodeType.Written
import NodeCanvas.Number.Binary64
import NodeCanvas.Number.Double
import NodeCanvas.Number.Reading
import NodeCanvas.Number.Shortest
import NodeCanvas.Pattern.Basic
import NodeCanvas.Pattern.Bracketed
import NodeCanvas.Pattern.Escape
import NodeCanvas.Pattern.Octets
import NodeCanvas.Pattern.Parser
import NodeCanvas.Pattern.Property
import NodeCanvas.Pattern.Reading
import NodeCanvas.Pattern.Search
import NodeCanvas.Pattern.Weight
import NodeCanvas.Plan.Basic
import NodeCanvas.Plan.Rules
import NodeCanvas.Proofs.Dict
import NodeCanvas.Proofs.Graph.WellFormed
import NodeCanvas.Proofs.Plan.Nodes
import NodeCanvas.Proofs.Plan.Parameters
import NodeCanvas.Run.Report
import NodeCanvas.Service.Exchange
import NodeCanvas.Service.Fault
import NodeCanvas.Service.Settings
import NodeCanvas.Session.Basic
import NodeCanvas.Session.Event
import NodeCanvas.Staging
import NodeCanvas.Text.Blank
import NodeCanvas.Text.Case
import NodeCanvas.Text.CaseTable
import NodeCanvas.Text.Hex
import NodeCanvas.Url.Basic
import NodeCanvas.Url.Domain.Basic
import NodeCanvas.Url.Domain.Composition
import NodeCanvas.Url.Domain.Direction
import NodeCanvas.Url.Domain.Joining
import NodeCanvas.Url.Domain.Mapping
import NodeCanvas.Url.Domain.MappingTable
import NodeCanvas.Url.Domain.Punycode
import NodeCanvas.Url.Host
import NodeCanvas.Url.Parser
import NodeCanvas.Url.Percent
import NodeCanvas.Workflow.Dialogue
import NodeCanvas.Workflow.Stored
import NodeCanvas.Proofs.Plan.Names
import NodeCanvas.Proofs.Plan.Outcome
import NodeCanvas.Proofs.Graph.Parameters
import NodeCanvas.Proofs.Session.Agreement
import NodeCanvas.Proofs.Session.Runs
import NodeCanvas.Proofs.Session.Submission
import NodeCanvas.Proofs.Form.Reconcile
import NodeCanvas.Proofs.Session.Panel
import NodeCanvas.Proofs.Form.Arrivals
import NodeCanvas.Proofs.Equality
import NodeCanvas.Proofs.Except
import NodeCanvas.Proofs.Form.Chains
import NodeCanvas.Proofs.Plan.Congruence
import NodeCanvas.Proofs.Document.Restoring
import NodeCanvas.Proofs.Run.Shown
import NodeCanvas.Proofs.Command.Results
import NodeCanvas.Proofs.Json.Record
import NodeCanvas.Proofs.Service.Failures
import NodeCanvas.Proofs.Json.Rereading
import NodeCanvas.Proofs.NodeType.Rereading
import NodeCanvas.Proofs.Document.Rereading
import NodeCanvas.Proofs.Run.Rereading
import NodeCanvas.Proofs.Session.Rereading
import NodeCanvas.Proofs.Document.Stability
import NodeCanvas.Proofs.Session.Exporting
import NodeCanvas.Proofs.Session.Steps
import NodeCanvas.Proofs.Session.OpenPanel
import NodeCanvas.Proofs.Session.Failures
import NodeCanvas.Proofs.Session.Mirror
import NodeCanvas.Proofs.Session.Unsaved
import NodeCanvas.Proofs.Choices.Requests
import NodeCanvas.Proofs.Choices.Fetches
import NodeCanvas.Proofs.Choices.Overtaking
import NodeCanvas.Proofs.Graph.Cycle
import NodeCanvas.Proofs.Plan.Rearranged
import NodeCanvas.Proofs.Form.Settling
import NodeCanvas.Proofs.Form.Offering
import NodeCanvas.Proofs.Form.Resolving
import NodeCanvas.Proofs.Plan.Blanks
import NodeCanvas.Proofs.Form.Planning
import NodeCanvas.Proofs.Form.Histories
import NodeCanvas.Proofs.Form.Sharing
import NodeCanvas.Proofs.Number.Clamping
import NodeCanvas.Proofs.Form.Showing
import NodeCanvas.Proofs.Form.Limits
import NodeCanvas.Proofs.Run.Projecting
import NodeCanvas.Proofs.Graph.EdgeIds
import NodeCanvas.Proofs.Url.Encoding
import NodeCanvas.Proofs.Url.Segments
import NodeCanvas.Proofs.Url.Parts
import NodeCanvas.Proofs.Url.Endpoints
import NodeCanvas.Proofs.Service.Addresses
import NodeCanvas.Proofs.Catalog
import NodeCanvas.Proofs.Graph.Repeats
import NodeCanvas.Proofs.Session.Deletion
import NodeCanvas.Proofs.Command.Verdicts
