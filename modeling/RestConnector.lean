import RestConnector.Main
import RestConnector.Connector.Decode
import RestConnector.Threaded
import RestConnector.Proofs.Outcome
import RestConnector.Proofs.Registration
import RestConnector.Proofs.Site
import RestConnector.Proofs.Closure
import RestConnector.Proofs.Session
import RestConnector.Proofs.Trace
import RestConnector.Proofs.Sources
import RestConnector.Proofs.Registries
import RestConnector.Proofs.Dangling
import RestConnector.Proofs.WireForms
import RestConnector.Proofs.Building
import RestConnector.Proofs.Termination
import RestConnector.Proofs.Reachability
import RestConnector.Proofs.Entries
import RestConnector.Proofs.Agreement
import RestConnector.Proofs.DistinctNames
import RestConnector.Proofs.Reordering
import RestConnector.Proofs.Nullability
import RestConnector.Proofs.Operations
import RestConnector.Proofs.Records
import RestConnector.Proofs.Answered
import RestConnector.Proofs.Destinations
import RestConnector.Proofs.Progress
import RestConnector.Proofs.Growth
import RestConnector.Proofs.Precedence
import RestConnector.Proofs.Slots
import RestConnector.Proofs.Readings
import RestConnector.Proofs.TypeForms
import RestConnector.Proofs.Shapes
import RestConnector.Proofs.References
import RestConnector.Proofs.Repetition
import RestConnector.Proofs.Presence
import RestConnector.Proofs.PlainParameters
import RestConnector.Proofs.RoundTrip
import RestConnector.Proofs.Assignments
import RestConnector.Proofs.Merging
import RestConnector.Proofs.Arguments
import RestConnector.Proofs.Representatives
import RestConnector.Proofs.Recasing
import RestConnector.Proofs.Titles
import RestConnector.Proofs.MediaTypes
import RestConnector.Proofs.Escapes
import RestConnector.Proofs.Pointers
import RestConnector.Proofs.Reports
import RestConnector.Proofs.OperationNames
import RestConnector.Proofs.Placeholders
import RestConnector.Proofs.Histories
import RestConnector.Proofs.Threading
