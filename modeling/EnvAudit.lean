import EnvAudit.Audit.Auditor
import EnvAudit.Audit.Ignored
import EnvAudit.Audit.Reference
import EnvAudit.Audit.Rules
import EnvAudit.Audit.Schema
import EnvAudit.Audit.Security
import EnvAudit.Audit.Trace
import EnvAudit.Binary64.Basic
import EnvAudit.Binary64.Decimal
import EnvAudit.Catalogue
import EnvAudit.CommandLine.Arguments
import EnvAudit.CommandLine.Breakdown
import EnvAudit.CommandLine.Command
import EnvAudit.CommandLine.Overview
import EnvAudit.Config.Basic
import EnvAudit.Config.Document
import EnvAudit.Config.Store
import EnvAudit.Document.Basic
import EnvAudit.Document.Checked
import EnvAudit.Document.Decode
import EnvAudit.EnvFile.Basic
import EnvAudit.EnvFile.Line
import EnvAudit.EnvFile.Parser
import EnvAudit.EnvFile.Printer
import EnvAudit.EnvFile.Store
import EnvAudit.Failure
import EnvAudit.Finding.Basic
import EnvAudit.Host
import EnvAudit.Json.Basic
import EnvAudit.Json.Reader
import EnvAudit.Json.Writer
import EnvAudit.Location
import EnvAudit.Log
import EnvAudit.Main
import EnvAudit.Numeral
import EnvAudit.Pattern
import EnvAudit.Pattern.Error
import EnvAudit.Pattern.Escape
import EnvAudit.Pattern.Matcher
import EnvAudit.Pattern.Node
import EnvAudit.Pattern.Parser
import EnvAudit.Pattern.Token
import EnvAudit.Predicate
import EnvAudit.Proofs.Audit.Basis
import EnvAudit.Proofs.Audit.Comparison
import EnvAudit.Proofs.Audit.Completion
import EnvAudit.Proofs.Audit.Conformance
import EnvAudit.Proofs.Audit.Counts
import EnvAudit.Proofs.Audit.Deferred
import EnvAudit.Proofs.Audit.Ignoring
import EnvAudit.Proofs.Audit.Malformed
import EnvAudit.Proofs.Audit.Modes
import EnvAudit.Proofs.Audit.Order
import EnvAudit.Proofs.Audit.Origin
import EnvAudit.Proofs.Audit.Overridden
import EnvAudit.Proofs.Audit.Places
import EnvAudit.Proofs.Audit.RepeatedKeys
import EnvAudit.Proofs.Audit.Rules
import EnvAudit.Proofs.Audit.Screening
import EnvAudit.Proofs.Audit.Secrecy
import EnvAudit.Proofs.Audit.Secrets
import EnvAudit.Proofs.Audit.Stages
import EnvAudit.Proofs.Binary64.Characters
import EnvAudit.Proofs.Binary64.Notation
import EnvAudit.Proofs.Binary64.Order
import EnvAudit.Proofs.Binary64.Overflow
import EnvAudit.Proofs.CommandLine.Arguments
import EnvAudit.Proofs.CommandLine.Exits
import EnvAudit.Proofs.Config.Loading
import EnvAudit.Proofs.Config.Overrides
import EnvAudit.Proofs.Config.RoundTrip
import EnvAudit.Proofs.Document.Keys
import EnvAudit.Proofs.Document.Reading
import EnvAudit.Proofs.Document.Stored
import EnvAudit.Proofs.EnvFile.Accounting
import EnvAudit.Proofs.EnvFile.Comment
import EnvAudit.Proofs.EnvFile.Escape
import EnvAudit.Proofs.EnvFile.Joining
import EnvAudit.Proofs.EnvFile.Key
import EnvAudit.Proofs.EnvFile.Layout
import EnvAudit.Proofs.EnvFile.LinePattern
import EnvAudit.Proofs.EnvFile.Lines
import EnvAudit.Proofs.EnvFile.Loading
import EnvAudit.Proofs.EnvFile.Matching
import EnvAudit.Proofs.EnvFile.Naming
import EnvAudit.Proofs.EnvFile.Resolution
import EnvAudit.Proofs.EnvFile.Rewriting
import EnvAudit.Proofs.EnvFile.RoundTrip
import EnvAudit.Proofs.EnvFile.Scanning
import EnvAudit.Proofs.EnvFile.Unescaping
import EnvAudit.Proofs.EnvFile.Value
import EnvAudit.Proofs.EnvFile.Winners
import EnvAudit.Proofs.Failure
import EnvAudit.Proofs.Finding.Reordering
import EnvAudit.Proofs.Finding.Severities
import EnvAudit.Proofs.Json.Numbers
import EnvAudit.Proofs.Json.RoundTrip
import EnvAudit.Proofs.Json.Strings
import EnvAudit.Proofs.Pattern.Anchoring
import EnvAudit.Proofs.Pattern.Backtracking
import EnvAudit.Proofs.Pattern.Equality
import EnvAudit.Proofs.Pattern.Repetition
import EnvAudit.Proofs.Report.Json
import EnvAudit.Proofs.Report.Junit
import EnvAudit.Proofs.Report.Markup
import EnvAudit.Proofs.Report.Rendering
import EnvAudit.Proofs.Report.Tally
import EnvAudit.Proofs.Report.Text
import EnvAudit.Proofs.Schema.Failures
import EnvAudit.Proofs.Schema.Loading
import EnvAudit.Proofs.Schema.Parts
import EnvAudit.Proofs.Schema.Predicates
import EnvAudit.Proofs.Schema.RoundTrip
import EnvAudit.Proofs.Text.Case
import EnvAudit.Proofs.Text.Split
import EnvAudit.Proofs.Text.Trim
import EnvAudit.Proofs.Text.Utf8
import EnvAudit.Proofs.Value.Email
import EnvAudit.Proofs.Value.Number
import EnvAudit.Proofs.Value.Reading
import EnvAudit.Proofs.Value.Secret
import EnvAudit.Proofs.Value.SecretPattern
import EnvAudit.Proofs.Value.Url
import EnvAudit.Proofs.Verdict.Document
import EnvAudit.Proofs.Verdict.Merging
import EnvAudit.Proofs.Verdict.WellFormed
import EnvAudit.Proofs.Workspace.Location
import EnvAudit.Proofs.Workspace.Saving
import EnvAudit.Proofs.Xml.Document
import EnvAudit.Proofs.Xml.Element
import EnvAudit.Proofs.Xml.Reader
import EnvAudit.Report.Basic
import EnvAudit.Report.Dialect
import EnvAudit.Report.Junit
import EnvAudit.Report.Markup
import EnvAudit.Report.Text
import EnvAudit.Report.Xml
import EnvAudit.Schema.Basic
import EnvAudit.Schema.Document
import EnvAudit.Schema.Store
import EnvAudit.Starter
import EnvAudit.Text.Blank
import EnvAudit.Text.Case
import EnvAudit.Text.Columns
import EnvAudit.Text.Identifier
import EnvAudit.Text.Letter
import EnvAudit.Text.Quoted
import EnvAudit.Text.Split
import EnvAudit.Text.Utf8
import EnvAudit.Value.Number
import EnvAudit.Value.Shape
import EnvAudit.Value.Url
import EnvAudit.VariableName
import EnvAudit.Verdict.Basic
import EnvAudit.Verdict.Document
import EnvAudit.Workspace
import EnvAudit.Yaml.Cursor
import EnvAudit.Yaml.Node
import EnvAudit.Yaml.Reader
import EnvAudit.Yaml.Scalar
import EnvAudit.Yaml.Token
import EnvAudit.Yaml.Writer
