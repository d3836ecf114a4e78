import StubHttp.Decimal.Shortest
import StubHttp.Failure
import StubHttp.Files
import StubHttp.Http.Capture
import StubHttp.Http.Document
import StubHttp.Http.Message
import StubHttp.Http.Query
import StubHttp.Http.Reply
import StubHttp.Http.Routes
import StubHttp.Http.Target
import StubHttp.Journal
import StubHttp.Json.Doc
import StubHttp.Json.Numeral
import StubHttp.Json.Parse
import StubHttp.Json.Quoted
import StubHttp.Json.Reader
import StubHttp.Json.Value
import StubHttp.Launch
import StubHttp.Main
import StubHttp.Matcher
import StubHttp.Metrics
import StubHttp.Metrics.Exposition
import StubHttp.Net.Address
import StubHttp.Pattern.Form
import StubHttp.Pattern.Meaning
import StubHttp.Pattern.Parser
import StubHttp.Pattern.Regex
import StubHttp.Pattern.Size
import StubHttp.Pattern.Syntax
import StubHttp.Predicate
import StubHttp.Presets
import StubHttp.Proofs.Except
import StubHttp.Proofs.Files
import StubHttp.Proofs.Http.Calls
import StubHttp.Proofs.Http.Headers
import StubHttp.Proofs.Http.LastRequest
import StubHttp.Proofs.Http.Override
import StubHttp.Proofs.Http.Pairs
import StubHttp.Proofs.Http.Query
import StubHttp.Proofs.Http.Reference
import StubHttp.Proofs.Http.Refusal
import StubHttp.Proofs.Http.Reply
import StubHttp.Proofs.Http.Weight
import StubHttp.Proofs.Journal
import StubHttp.Proofs.Journal.Account
import StubHttp.Proofs.Json.Numeral
import StubHttp.Proofs.Json.Quoted
import StubHttp.Proofs.Json.Reader
import StubHttp.Proofs.Json.Written
import StubHttp.Proofs.Launch
import StubHttp.Proofs.Metrics
import StubHttp.Proofs.Pattern.Classes
import StubHttp.Proofs.Pattern.Expr
import StubHttp.Proofs.Pattern.Groups
import StubHttp.Proofs.Pattern.Local
import StubHttp.Proofs.Pattern.Ordered
import StubHttp.Proofs.Pattern.Sets
import StubHttp.Proofs.Pattern.Spans
import StubHttp.Proofs.Pattern.Whole
import StubHttp.Proofs.Predicate
import StubHttp.Proofs.Predicate.Lines
import StubHttp.Proofs.Presets
import StubHttp.Proofs.Registry.Account
import StubHttp.Proofs.Registry.Identity
import StubHttp.Proofs.Registry.Invariant
import StubHttp.Proofs.Registry.Rank
import StubHttp.Proofs.Registry.Run
import StubHttp.Proofs.Request
import StubHttp.Proofs.Response
import StubHttp.Proofs.Rule.Line
import StubHttp.Proofs.Rule.Parse
import StubHttp.Proofs.Rule.Quotes
import StubHttp.Proofs.RuleDocument
import StubHttp.Proofs.Settings
import StubHttp.Proofs.Settings.Sources
import StubHttp.Proofs.Signal
import StubHttp.Proofs.Stub.Counts
import StubHttp.Proofs.Stub.Delays
import StubHttp.Proofs.Stub.Overlap
import StubHttp.Proofs.Stub.Reachable
import StubHttp.Proofs.Stub.Reset
import StubHttp.Proofs.Stub.Run
import StubHttp.Proofs.Stub.Serve
import StubHttp.Proofs.Text.Dict
import StubHttp.Proofs.Text.Search
import StubHttp.Proofs.Text.Utf8
import StubHttp.Proofs.Yaml.Reader
import StubHttp.Proofs.Yaml.Values
import StubHttp.Registry
import StubHttp.Request
import StubHttp.Response
import StubHttp.Rule
import StubHttp.RuleDocument
import StubHttp.Server
import StubHttp.Settings
import StubHttp.Settings.File
import StubHttp.Settings.Options
import StubHttp.Signal
import StubHttp.Stub
import StubHttp.Text.Dict
import StubHttp.Text.Hash
import StubHttp.Text.Inspect
import StubHttp.Text.Search
import StubHttp.Text.Utf8
import StubHttp.Unicode.Age
import StubHttp.Unicode.Break
import StubHttp.Unicode.Category
import StubHttp.Unicode.CharSet
import StubHttp.Unicode.Folding
import StubHttp.Unicode.Property
import StubHttp.Unicode.Script
import StubHttp.Yaml.Layout
import StubHttp.Yaml.Node
import StubHttp.Yaml.Reader
import StubHttp.Yaml.Scalar
import StubHttp.Yaml.Tag
import StubHttp.Yaml.Token
