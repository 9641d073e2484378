import Formulary.Archive
import Formulary.Binary64.Exact
import Formulary.Binary64.Numeral
import Formulary.Binary64.Power
import Formulary.Binary64.Reading
import Formulary.Binary64.Shortest
import Formulary.Catalogue
import Formulary.Catalogue.Interleaving
import Formulary.CommandLine.Options
import Formulary.CommandLine.Report
import Formulary.CommandLine.Serve
import Formulary.Expr
import Formulary.Expr.Description
import Formulary.Expr.Evaluation
import Formulary.Expr.Parse
import Formulary.Expr.Walk
import Formulary.Fault
import Formulary.Http.Address
import Formulary.Http.Authority
import Formulary.Http.Desk
import Formulary.Http.Form
import Formulary.Http.Message
import Formulary.Http.Page
import Formulary.Http.Percent
import Formulary.Http.Route
import Formulary.Http.Target
import Formulary.Issue
import Formulary.Json
import Formulary.Json.Encoding
import Formulary.Json.Printer
import Formulary.Json.Reader
import Formulary.Moment
import Formulary.Rpn
import Formulary.Settings
import Formulary.Settings.File
import Formulary.Settings.Integer
import Formulary.Settings.Level
import Formulary.Settings.Value
import Formulary.Text
import Formulary.Text.DigitValue
import Formulary.Text.Hexadecimal
import Formulary.Text.Marks
import Formulary.Text.Printable
import Formulary.Text.Punycode
import Formulary.Text.Quoted
import Formulary.Text.Similarity
import Formulary.Text.UpperCase
import Formulary.Text.Utf8
import Formulary.Token
import Formulary.Token.Lexer
import Formulary.Yaml
import Formulary.Yaml.Content
import Formulary.Yaml.Cursor
import Formulary.Yaml.Fault
import Formulary.Yaml.Moment
import Formulary.Yaml.Node
import Formulary.Yaml.Scalar
import Formulary.Yaml.ScalarText
import Formulary.Yaml.Token
import Formulary.Main
import Formulary.Proofs.Outcome
import Formulary.Proofs.Run
import Formulary.Proofs.Fields
import Formulary.Proofs.Blank
import Formulary.Proofs.Grammar
import Formulary.Proofs.Listing
import Formulary.Proofs.Rpn.Conservation
import Formulary.Proofs.Rpn.Balance
import Formulary.Proofs.Rpn.Arrangement
import Formulary.Proofs.Grammar.Juxtaposition
import Formulary.Proofs.Listing.Offence
import Formulary.Proofs.Cutting
import Formulary.Proofs.Sentence
import Formulary.Proofs.Walk
import Formulary.Proofs.Equality
import Formulary.Proofs.Canonical
import Formulary.Proofs.Composition
import Formulary.Proofs.Symbol
import Formulary.Proofs.Symbol.Order
import Formulary.Proofs.Evaluation
import Formulary.Proofs.Walk.Order
import Formulary.Proofs.Evaluation.Binding
import Formulary.Proofs.Submission
import Formulary.Proofs.Malformed
import Formulary.Proofs.Archive
import Formulary.Proofs.Archive.Run
import Formulary.Proofs.Archive.Coherence
import Formulary.Proofs.Archive.Issuance
import Formulary.Proofs.Catalogue
import Formulary.Proofs.Catalogue.Deduplication
import Formulary.Proofs.Catalogue.Ledger
import Formulary.Proofs.Catalogue.Record
import Formulary.Proofs.Catalogue.Spelling
import Formulary.Proofs.Catalogue.Interleaving
import Formulary.Proofs.Catalogue.Linearization
import Formulary.Proofs.CommandLine.Report
import Formulary.Proofs.Http.Desk
import Formulary.Proofs.Http.Provenance
import Formulary.Proofs.Http.Target
import Formulary.Proofs.Http.Variables
import Formulary.Proofs.Http.Evaluation
import Formulary.Proofs.Cutting.Partition
import Formulary.Proofs.Cutting.Illegal
import Formulary.Proofs.Canonical.Nesting
import Formulary.Proofs.CommandLine.Views
import Formulary.Proofs.Evaluation.Reach
import Formulary.Proofs.Settings.Layering
import Formulary.Proofs.Binary64.Exact
import Formulary.Proofs.Binary64.Power
import Formulary.Proofs.CommandLine.Chain
