import DocumentQuery.Main
import DocumentQuery.CommandLine.Directory
import DocumentQuery.Service.Installation
import DocumentQuery.Proofs.Meaning.ConditionPreservation
import DocumentQuery.Proofs.Meaning.ProjectionPreservation
import DocumentQuery.Proofs.Acceptance.Request
import DocumentQuery.Proofs.Rendering.ReadBack
import DocumentQuery.Proofs.Binding.Faithful
import DocumentQuery.Proofs.Scoping.Request
import DocumentQuery.Proofs.Scoping.Trial
import DocumentQuery.Proofs.Typing.Statement
import DocumentQuery.Proofs.Independence.Request
import DocumentQuery.Proofs.Variables.Request
import DocumentQuery.Proofs.Declared.Request
import DocumentQuery.Proofs.Advertised.Request
import DocumentQuery.Proofs.Meaning.AggregateAnswer
import DocumentQuery.Proofs.Extension.Request
import DocumentQuery.Proofs.Advertised.Kinds
import DocumentQuery.Proofs.Meaning.RequestedAliases
import DocumentQuery.Proofs.Following.Agreement
import DocumentQuery.Proofs.Nullability.Request
import DocumentQuery.Proofs.Validity.Verdict
import DocumentQuery.Proofs.RoundTrip.Request
import DocumentQuery.Proofs.RoundTrip.Configuration
import DocumentQuery.Proofs.Service.Execution
import DocumentQuery.Proofs.Service.Credentials
import DocumentQuery.Proofs.Service.Layers
import DocumentQuery.Proofs.Service.Session
import DocumentQuery.Proofs.Drafting.History
import DocumentQuery.Proofs.Rendering.LiteralReading
