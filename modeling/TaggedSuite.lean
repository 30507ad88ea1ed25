import TaggedSuite.CommandLine.Arguments
import TaggedSuite.CommandLine.Command
import TaggedSuite.CommandLine.Program
import TaggedSuite.CommandLine.Runner
import TaggedSuite.Config.Basic
import TaggedSuite.Config.Document
import TaggedSuite.Config.Error
import TaggedSuite.Config.Expand
import TaggedSuite.Config.Loader
import TaggedSuite.Config.Loader.Run
import TaggedSuite.Config.Merge
import TaggedSuite.Config.VariablesFile
import TaggedSuite.Digest.Sha256
import TaggedSuite.Files.Disk
import TaggedSuite.Files.Path
import TaggedSuite.Files.Pattern
import TaggedSuite.Filter.Draft
import TaggedSuite.Filter.Eval
import TaggedSuite.Filter.Expr
import TaggedSuite.Filter.Parser
import TaggedSuite.Filter.Printer
import TaggedSuite.Filter.Token
import TaggedSuite.Json.Reader
import TaggedSuite.Levels
import TaggedSuite.Log
import TaggedSuite.Main
import TaggedSuite.Number.Binary64
import TaggedSuite.Number.Numeral
import TaggedSuite.Number.Printer
import TaggedSuite.Number.Shortest
import TaggedSuite.Run.Basic
import TaggedSuite.Run.Collection
import TaggedSuite.Scan.Basic
import TaggedSuite.Scan.Finding
import TaggedSuite.Scan.Text
import TaggedSuite.Schema.Basic
import TaggedSuite.Schema.Bundled
import TaggedSuite.Schema.Document
import TaggedSuite.Schema.Limit
import TaggedSuite.Schema.Registry
import TaggedSuite.Selection.Basic
import TaggedSuite.Selection.Choice
import TaggedSuite.Selection.Loose
import TaggedSuite.Selection.Title
import TaggedSuite.Session.Cache.Basic
import TaggedSuite.Session.Cache.Run
import TaggedSuite.Session.Cache.Step
import TaggedSuite.Session.CacheKey
import TaggedSuite.Session.Creation
import TaggedSuite.Session.Exchange
import TaggedSuite.Session.Fingerprint
import TaggedSuite.Session.Key
import TaggedSuite.Session.Login
import TaggedSuite.Source.Grammar.Basic
import TaggedSuite.Source.Grammar.Expression
import TaggedSuite.Source.Grammar.Pattern
import TaggedSuite.Source.Grammar.Statement
import TaggedSuite.Source.Lexer
import TaggedSuite.Source.Literal
import TaggedSuite.Source.Number
import TaggedSuite.Source.Token
import TaggedSuite.Source.Tree
import TaggedSuite.Tag.Basic
import TaggedSuite.Tag.Label
import TaggedSuite.Tag.Set
import TaggedSuite.Text.Base64
import TaggedSuite.Text.Blank
import TaggedSuite.Text.CaseTable
import TaggedSuite.Text.CharacterName
import TaggedSuite.Text.CharacterName.Aliases
import TaggedSuite.Text.CharacterName.Ancient
import TaggedSuite.Text.CharacterName.EastAsia
import TaggedSuite.Text.CharacterName.Notations
import TaggedSuite.Text.CharacterName.Pictures
import TaggedSuite.Text.CharacterName.Scripts
import TaggedSuite.Text.CharacterName.Symbols
import TaggedSuite.Text.CodeRange
import TaggedSuite.Text.Compatibility
import TaggedSuite.Text.CompatibilityTable
import TaggedSuite.Text.Digit
import TaggedSuite.Text.Halves
import TaggedSuite.Text.IdentifierTable
import TaggedSuite.Text.Lower
import TaggedSuite.Text.Printable
import TaggedSuite.Text.Quoted
import TaggedSuite.Text.Utf8
import TaggedSuite.Time.Day
import TaggedSuite.Time.Moment
import TaggedSuite.Time.Printer
import TaggedSuite.Time.Stamp
import TaggedSuite.Value.Basic
import TaggedSuite.Value.Conversion
import TaggedSuite.Value.Equality
import TaggedSuite.Value.Freeze
import TaggedSuite.Value.Printer
import TaggedSuite.Yaml.Cursor
import TaggedSuite.Yaml.Fault
import TaggedSuite.Yaml.Lexer
import TaggedSuite.Yaml.Node
import TaggedSuite.Yaml.Reader
import TaggedSuite.Yaml.Resolution
import TaggedSuite.Yaml.Scalar
import TaggedSuite.Yaml.Token
import TaggedSuite.Proofs.CommandLine.Handover
import TaggedSuite.Proofs.Config.Coherence
import TaggedSuite.Proofs.Config.Disclosure
import TaggedSuite.Proofs.Config.Enumeration
import TaggedSuite.Proofs.Config.Listing
import TaggedSuite.Proofs.Config.Loading
import TaggedSuite.Proofs.Config.Merging
import TaggedSuite.Proofs.Config.Overriding
import TaggedSuite.Proofs.Config.References
import TaggedSuite.Proofs.Config.Secrecy
import TaggedSuite.Proofs.Config.Selecting
import TaggedSuite.Proofs.Config.Surface
import TaggedSuite.Proofs.Config.Twins
import TaggedSuite.Proofs.Config.Validation
import TaggedSuite.Proofs.Except
import TaggedSuite.Proofs.Files.Places
import TaggedSuite.Proofs.Files.SameExcept
import TaggedSuite.Proofs.Filter.Completeness
import TaggedSuite.Proofs.Filter.Faults
import TaggedSuite.Proofs.Filter.Parentheses
import TaggedSuite.Proofs.Filter.Printing
import TaggedSuite.Proofs.Filter.Spelling
import TaggedSuite.Proofs.Filter.TermList
import TaggedSuite.Proofs.Json.Values
import TaggedSuite.Proofs.Number.Numeral
import TaggedSuite.Proofs.Run.SetUp
import TaggedSuite.Proofs.Scan.Branches
import TaggedSuite.Proofs.Scan.Marks
import TaggedSuite.Proofs.Scan.Reassignment
import TaggedSuite.Proofs.Scan.Sites
import TaggedSuite.Proofs.Schema.Bundled
import TaggedSuite.Proofs.Schema.Faults
import TaggedSuite.Proofs.Schema.Telling
import TaggedSuite.Proofs.Selection.Prefilter
import TaggedSuite.Proofs.Session.Accounting
import TaggedSuite.Proofs.Session.Cache.Custody
import TaggedSuite.Proofs.Session.Cache.Handles
import TaggedSuite.Proofs.Session.Cache.Linearizable
import TaggedSuite.Proofs.Session.Cache.Nested
import TaggedSuite.Proofs.Session.Cache.Progress
import TaggedSuite.Proofs.Session.Cache.Renaming
import TaggedSuite.Proofs.Session.Cache.Sequential
import TaggedSuite.Proofs.Session.Secrecy
import TaggedSuite.Proofs.SideBySide
import TaggedSuite.Proofs.Tag.Name
import TaggedSuite.Proofs.Value.Freezing
import TaggedSuite.Proofs.Value.SameExcept
import TaggedSuite.Proofs.Value.Writable
import TaggedSuite.Proofs.Run.Partition
import TaggedSuite.Proofs.Session.Cache.Scripts
import TaggedSuite.Proofs.Session.Cache.Registrations
import TaggedSuite.Proofs.Session.Cache.Unwinding
import TaggedSuite.Proofs.Session.Cache.Balance
import TaggedSuite.Proofs.Session.Cache.Failing
import TaggedSuite.Proofs.Config.ReadOnly
import TaggedSuite.Proofs.Filter.Splitting
import TaggedSuite.Proofs.Number.Overflow
import TaggedSuite.Proofs.Session.Cache.Provenance
import TaggedSuite.Proofs.Session.Ending
import TaggedSuite.Proofs.Session.Fingerprint
import TaggedSuite.Proofs.Session.Separation
