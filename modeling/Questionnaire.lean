import Questionnaire.AutoAdvance
import Questionnaire.Cache
import Questionnaire.Cache.Timeline
import Questionnaire.Checker
import Questionnaire.CommandLine
import Questionnaire.CommandLine.Arguments
import Questionnaire.CommandLine.Environment
import Questionnaire.Condition
import Questionnaire.Condition.Evaluation
import Questionnaire.Document
import Questionnaire.Document.Reading
import Questionnaire.Document.Writing
import Questionnaire.Draft
import Questionnaire.Draft.JsonText
import Questionnaire.Draft.YamlText
import Questionnaire.Entries
import Questionnaire.Failure
import Questionnaire.Files
import Questionnaire.Files.Loading
import Questionnaire.Files.Store
import Questionnaire.Format
import Questionnaire.Json
import Questionnaire.Json.Coercion
import Questionnaire.Json.Printer
import Questionnaire.Main
import Questionnaire.Number.Binary
import Questionnaire.Number.Literal
import Questionnaire.Number.Notation
import Questionnaire.Number.Shortest
import Questionnaire.Pattern
import Questionnaire.Pattern.CharacterClass
import Questionnaire.Pattern.Syntax
import Questionnaire.Proofs.Session.Derivation
import Questionnaire.Proofs.Session.Flight
import Questionnaire.Proofs.Session.Log
import Questionnaire.Proofs.Session.Sections
import Questionnaire.Proofs.Session.SingleFlight
import Questionnaire.Reading
import Questionnaire.Rule
import Questionnaire.Rule.Outcome
import Questionnaire.Session
import Questionnaire.Session.Run
import Questionnaire.Session.Timeline
import Questionnaire.Settings
import Questionnaire.Submission
import Questionnaire.Submission.Instant
import Questionnaire.Submission.Post
import Questionnaire.Submission.SessionId
import Questionnaire.Template
import Questionnaire.Text.Blank
import Questionnaire.Text.CaseFolding
import Questionnaire.Text.Category
import Questionnaire.Text.Property
import Questionnaire.Text.Quoted
import Questionnaire.Text.Ranges
import Questionnaire.Text.Script
import Questionnaire.Text.Split
import Questionnaire.Timeline
import Questionnaire.Validation
import Questionnaire.Variables
import Questionnaire.Web.Address
import Questionnaire.Web.Host
import Questionnaire.Web.Percent
import Questionnaire.Web.Punycode
import Questionnaire.Yaml.Glyph
import Questionnaire.Yaml.Node
import Questionnaire.Yaml.Scalar
import Questionnaire.Yaml.Tag
import Questionnaire.Yaml.Token
import Questionnaire.Yaml.Word
import Questionnaire.Proofs.Session.Serial
import Questionnaire.Proofs.Session.Answering
import Questionnaire.Proofs.Cache.Log
import Questionnaire.Proofs.Cache.Order
import Questionnaire.Proofs.Cache.Removal
import Questionnaire.Proofs.Cache.Coalescing
import Questionnaire.Proofs.Cache.Entry
import Questionnaire.Proofs.Session.Caching
import Questionnaire.Proofs.Session.Return
import Questionnaire.Proofs.Session.Submitting
import Questionnaire.Proofs.Session.Progress
import Questionnaire.Proofs.Session.Collaborators
import Questionnaire.Proofs.Session.Resuming
import Questionnaire.Proofs.Number.Bits
import Questionnaire.Proofs.Number.Whole
import Questionnaire.Proofs.Document.Conditions
import Questionnaire.Proofs.Document.Parts
import Questionnaire.Proofs.Document.Rereading
import Questionnaire.Proofs.Session.Ledger
import Questionnaire.Proofs.Document.Defects
import Questionnaire.Proofs.Session.Story
import Questionnaire.Proofs.Session.Strictness
import Questionnaire.Proofs.Session.Soundness
import Questionnaire.Proofs.Session.Bounds
import Questionnaire.Proofs.Session.Leaving
import Questionnaire.Proofs.Session.Redoing
import Questionnaire.Proofs.Number.Ratio
import Questionnaire.Proofs.Session.Showing
import Questionnaire.Proofs.Rule.Sequence
import Questionnaire.Proofs.Rule.Footprint
import Questionnaire.Proofs.Session.Trace
import Questionnaire.Proofs.Session.Pressing
import Questionnaire.Proofs.Session.Hiding
import Questionnaire.Proofs.Text.Trim
import Questionnaire.Proofs.Condition.Grammar
import Questionnaire.Proofs.Number.Order
import Questionnaire.Proofs.Number.Range
import Questionnaire.Proofs.Number.Numeral
import Questionnaire.Proofs.Condition.Comparison
import Questionnaire.Proofs.Condition.Equality
import Questionnaire.Proofs.Template.Pattern
import Questionnaire.Proofs.Template.Tokens
import Questionnaire.Proofs.Condition.Replacement
import Questionnaire.Proofs.Template.Shape
import Questionnaire.Proofs.Validation.FirstFailure
import Questionnaire.Proofs.Files.Sharing
