import TwoWay.Description
import TwoWay.Execution
import TwoWay.Failure
import TwoWay.Fault
import TwoWay.Identity
import TwoWay.Inversion
import TwoWay.Issue.Basic
import TwoWay.Issue.Code
import TwoWay.Issue.Context
import TwoWay.Issue.Report
import TwoWay.Logging.Inversion
import TwoWay.Logging.Line
import TwoWay.Logging.Record
import TwoWay.Number.Conversion
import TwoWay.Number.Double
import TwoWay.Number.Format
import TwoWay.Number.Reading
import TwoWay.Number.Shortest
import TwoWay.Parse.Basic
import TwoWay.Parse.Engine
import TwoWay.Parse.Leaf
import TwoWay.Parse.Links
import TwoWay.Parse.Merge
import TwoWay.Pattern.Basic
import TwoWay.Pattern.Fault
import TwoWay.Pattern.Folding
import TwoWay.Pattern.Matching
import TwoWay.Pattern.Reader
import TwoWay.Pattern.Written
import TwoWay.Proofs.Forcing.Calling
import TwoWay.Proofs.Inversion.Backward
import TwoWay.Proofs.Inversion.Erasing
import TwoWay.Proofs.Inversion.Failing
import TwoWay.Proofs.Inversion.Journey
import TwoWay.Proofs.Inversion.Outcome
import TwoWay.Proofs.Inversion.Returning
import TwoWay.Proofs.Inversion.RoundTrip
import TwoWay.Proofs.Inversion.Routing
import TwoWay.Proofs.Inversion.Shape
import TwoWay.Proofs.Inversion.Twice
import TwoWay.Proofs.Issue.Flattening
import TwoWay.Proofs.Parse.Addresses
import TwoWay.Proofs.Parse.Alternatives
import TwoWay.Proofs.Parse.Both
import TwoWay.Proofs.Parse.Branches
import TwoWay.Proofs.Parse.Clean
import TwoWay.Proofs.Parse.Coinciding
import TwoWay.Proofs.Parse.Containers
import TwoWay.Proofs.Parse.Extending
import TwoWay.Proofs.Parse.Functions
import TwoWay.Proofs.Parse.Grouping
import TwoWay.Proofs.Parse.Independence
import TwoWay.Proofs.Parse.Locations
import TwoWay.Proofs.Parse.Lookup
import TwoWay.Proofs.Parse.Meeting
import TwoWay.Proofs.Parse.Modes
import TwoWay.Proofs.Parse.Partial
import TwoWay.Proofs.Parse.Pipelines
import TwoWay.Proofs.Parse.Policies
import TwoWay.Proofs.Parse.Recursion
import TwoWay.Proofs.Parse.Required
import TwoWay.Proofs.Parse.Sentinel
import TwoWay.Proofs.Parse.Total
import TwoWay.Proofs.Parse.Trimming
import TwoWay.Proofs.Settings.Expansion
import TwoWay.Proofs.Value.Regular
import TwoWay.Run
import TwoWay.Schema.Basic
import TwoWay.Schema.Blueprint
import TwoWay.Schema.Forcing
import TwoWay.Schema.Kind
import TwoWay.Schema.Making
import TwoWay.Schema.Malformed
import TwoWay.Schema.Method
import TwoWay.Schema.Name
import TwoWay.Schema.Numbering
import TwoWay.Schema.Tagged
import TwoWay.Script
import TwoWay.Session.Basic
import TwoWay.Session.Held
import TwoWay.Session.Settled
import TwoWay.Settings.Basic
import TwoWay.Settings.Converter
import TwoWay.Settings.Cursor
import TwoWay.Settings.Document
import TwoWay.Settings.Failure
import TwoWay.Settings.Flaw
import TwoWay.Settings.Json
import TwoWay.Settings.Layer
import TwoWay.Settings.Literal
import TwoWay.Settings.Loading
import TwoWay.Settings.Moment
import TwoWay.Settings.Node
import TwoWay.Settings.Placeholder
import TwoWay.Settings.Scalar
import TwoWay.Settings.Template
import TwoWay.Settings.Validation
import TwoWay.Stock.Basic
import TwoWay.Stock.Function
import TwoWay.Stock.Predicate
import TwoWay.Text.Blank
import TwoWay.Text.Capital
import TwoWay.Text.Case
import TwoWay.Text.Digit
import TwoWay.Text.Identifier
import TwoWay.Text.Letter
import TwoWay.Text.Lowercase
import TwoWay.Text.Name.Addition
import TwoWay.Text.Name.Alias
import TwoWay.Text.Name.Alphabet
import TwoWay.Text.Name.Ancient
import TwoWay.Text.Name.Basic
import TwoWay.Text.Name.Lookup
import TwoWay.Text.Name.Numbered
import TwoWay.Text.Name.Picture
import TwoWay.Text.Name.Syllable
import TwoWay.Text.Name.Symbol
import TwoWay.Text.Printable
import TwoWay.Text.Quoted
import TwoWay.Text.Range
import TwoWay.Text.Word
import TwoWay.Value.Basic
import TwoWay.Value.Equality
import TwoWay.Value.ListMethod
import TwoWay.Value.Mutation
import TwoWay.Value.Order
import TwoWay.Value.Place
import TwoWay.Value.Quoted
import TwoWay.Value.Sorting
import TwoWay.Vocabulary
