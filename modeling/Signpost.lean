import Signpost.Code.Ident
import Signpost.Code.Item
import Signpost.Code.Path
import Signpost.Code.Token
import Signpost.CommandLine.Message
import Signpost.CommandLine.Reader
import Signpost.CommandLine.Render
import Signpost.CommandLine.Request
import Signpost.Decimal.Binary64
import Signpost.Decimal.Layout
import Signpost.Decimal.Order
import Signpost.Decimal.Shortest
import Signpost.Diagnosis
import Signpost.Endpoint.Basic
import Signpost.Endpoint.Diagnostics
import Signpost.Endpoint.HostLabel
import Signpost.Endpoint.Location
import Signpost.Endpoint.Partition
import Signpost.Endpoint.PartitionDocument
import Signpost.Endpoint.StandardPartitions
import Signpost.Endpoint.Substring
import Signpost.Hexadecimal
import Signpost.Json.Decode
import Signpost.Json.Fault
import Signpost.Json.Number
import Signpost.Json.Outline
import Signpost.Json.Quoted
import Signpost.Json.Value
import Signpost.Main
import Signpost.Naming.Words
import Signpost.Pattern.Basic
import Signpost.Pattern.Class
import Signpost.Pattern.Escape
import Signpost.Pattern.Matching
import Signpost.Pattern.Reader
import Signpost.Proofs.Query.Grammar
import Signpost.Proofs.Query.Word
import Signpost.Query.Basic
import Signpost.Query.Leaf
import Signpost.Query.Literal
import Signpost.Query.Parser
import Signpost.Query.Printer
import Signpost.Query.SyntaxError
import Signpost.Query.Token
import Signpost.Resolver.Attribute
import Signpost.Resolver.Compile
import Signpost.Resolver.Compiled
import Signpost.Resolver.Datum
import Signpost.Resolver.Expression
import Signpost.Resolver.Failure
import Signpost.Resolver.Items
import Signpost.Resolver.Level
import Signpost.Resolver.Library
import Signpost.Resolver.Parameters
import Signpost.Resolver.Registry
import Signpost.Resolver.Run
import Signpost.Resolver.Scope
import Signpost.Resolver.Statement
import Signpost.Resolver.Tests
import Signpost.Resolver.Ty
import Signpost.Resolver.Value
import Signpost.Rules.Document
import Signpost.Rules.Expr
import Signpost.Rules.Ruleset
import Signpost.Rules.Suite
import Signpost.Rules.Template
import Signpost.Samples.Inventory
import Signpost.Samples.Rulesets
import Signpost.Schema.Basic
import Signpost.Schema.Document
import Signpost.Table
import Signpost.Traversal.Call
import Signpost.Traversal.Classify
import Signpost.Traversal.Compile
import Signpost.Traversal.Computed
import Signpost.Traversal.Datum
import Signpost.Traversal.Failure
import Signpost.Traversal.Function
import Signpost.Traversal.Operators
import Signpost.Traversal.Projection
import Signpost.Traversal.Run
import Signpost.Traversal.Scope
import Signpost.Traversal.Steps
import Signpost.Traversal.Ty
import Signpost.Traversal.ValueShape
import Signpost.Unicode.Alphanumeric
import Signpost.Unicode.CaseMap
import Signpost.Unicode.Cased
import Signpost.Unicode.CharSet
import Signpost.Unicode.Direction
import Signpost.Unicode.Escape
import Signpost.Unicode.HostName
import Signpost.Unicode.Identifier
import Signpost.Unicode.Joining
import Signpost.Unicode.Pattern
import Signpost.Unicode.Printable
import Signpost.Web.HostName
import Signpost.Web.Ipv4
import Signpost.Web.Ipv6
import Signpost.Web.Percent
import Signpost.Web.Punycode
import Signpost.Web.Url
import Signpost.Proofs.Query.Success
import Signpost.Proofs.Query.Reading
import Signpost.Proofs.Query.Balance
import Signpost.Proofs.Query.Faithful
import Signpost.Proofs.Query.Weight
import Signpost.Proofs.Query.Rereading
import Signpost.Proofs.Query.Unquoted
import Signpost.Proofs.Resolver.Compiling
import Signpost.Proofs.Resolver.References
import Signpost.Proofs.Resolver.Conditions
import Signpost.Proofs.Resolver.Capture
import Signpost.Proofs.Resolver.Deciding
import Signpost.Proofs.Except
import Signpost.Proofs.Traversal.Coherence
import Signpost.Proofs.Traversal.Agreeing
import Signpost.Proofs.Traversal.Operations
import Signpost.Proofs.Traversal.Compiling
import Signpost.Proofs.Naming.SnakeCase
import Signpost.Proofs.Query.Parts
import Signpost.Proofs.Traversal.Yielding
import Signpost.Proofs.Traversal.Held
import Signpost.Proofs.Traversal.Blame
import Signpost.Proofs.Traversal.Stopping
import Signpost.Proofs.Traversal.Defects
import Signpost.Proofs.Traversal.Typing
import Signpost.Proofs.Traversal.Emitting
import Signpost.Proofs.Traversal.TypeSafety
import Signpost.Proofs.Traversal.Scoping
import Signpost.Proofs.Traversal.Drawing
import Signpost.Proofs.Traversal.Assigning
import Signpost.Proofs.Traversal.SingleAssignment
import Signpost.Proofs.Traversal.Conforming
import Signpost.Proofs.Traversal.Reaching
import Signpost.Proofs.Traversal.Streaming
import Signpost.Proofs.Traversal.Chains
import Signpost.Proofs.Traversal.Supported
import Signpost.Proofs.Resolver.Sites
import Signpost.Proofs.Resolver.Lookups
import Signpost.Proofs.Resolver.Used
import Signpost.Proofs.Resolver.Siblings
import Signpost.Proofs.Resolver.Failing
import Signpost.Proofs.Resolver.Known
import Signpost.Proofs.Resolver.Narrowing
import Signpost.Proofs.Decimal.Rounding
import Signpost.Proofs.Decimal.Shortest
import Signpost.Proofs.Json.Numerals
import Signpost.Proofs.Json.Grammar
import Signpost.Proofs.Json.Escapes
import Signpost.Proofs.Json.Sorting
import Signpost.Proofs.Json.Syntax
import Signpost.Proofs.Query.Literal
import Signpost.Proofs.Query.Quoting
import Signpost.Proofs.Query.Leaf
import Signpost.Proofs.Rules.Rereading
import Signpost.Proofs.Resolver.Layouts
import Signpost.Proofs.Traversal.Endless
import Signpost.Proofs.Json.Writing
import Signpost.Proofs.Json.Outlines
import Signpost.Proofs.Json.Decoding
import Signpost.Proofs.Schema.Documents
import Signpost.Proofs.Rules.Suites
import Signpost.Proofs.Traversal.Functions
import Signpost.Proofs.Query.Precedence
import Signpost.Proofs.Resolver.Properties
import Signpost.Proofs.Traversal.Flattening
import Signpost.Proofs.Traversal.Optionality
import Signpost.Proofs.Query.Calls
import Signpost.Proofs.Query.Phrases
import Signpost.Proofs.Rules.Loading
import Signpost.Proofs.Traversal.Nesting
import Signpost.Proofs.Traversal.Remarks
import Signpost.Proofs.Traversal.Annotating
import Signpost.Proofs.Resolver.Members
import Signpost.Proofs.Web.Hosts
import Signpost.Proofs.Endpoint.Locations
import Signpost.Proofs.Offsets
import Signpost.Proofs.Query.Lexemes
import Signpost.Proofs.Query.Tokens
import Signpost.Proofs.Query.Mistakes
import Signpost.Proofs.Query.Spacing
import Signpost.Proofs.Rules.Grammar
import Signpost.Proofs.Diagnoses
import Signpost.Proofs.Resolver.Forms
import Signpost.Proofs.Resolver.Ownership
import Signpost.Proofs.Resolver.Histories
import Signpost.Proofs.Resolver.Attributes
import Signpost.Proofs.Endpoint.Substrings
import Signpost.Proofs.Endpoint.HostLabels
import Signpost.Proofs.Web.Encoding
import Signpost.Proofs.Endpoint.Equality
import Signpost.Proofs.Pattern.Matching
import Signpost.Proofs.Endpoint.StandardPartitions
import Signpost.Proofs.Traversal.Grounded
import Signpost.Proofs.Traversal.Coercing
import Signpost.Proofs.Query.Stepping
import Signpost.Proofs.Query.Progress
