import CowView.CommandLine.Files
import CowView.CommandLine.Run
import CowView.CommandLine.Usage
import CowView.CommandLine.Words
import CowView.Declaration
import CowView.Declaration.Annotation
import CowView.Declaration.Names
import CowView.Declaration.Parser
import CowView.DocComment
import CowView.Fault
import CowView.Fault.Category
import CowView.Fault.Making
import CowView.Generated.Module
import CowView.Generated.Record
import CowView.Generated.Union
import CowView.Generation
import CowView.Journal
import CowView.Live.Clone
import CowView.Live.Cow
import CowView.Live.Describe
import CowView.Live.Dispatch
import CowView.Live.Equality
import CowView.Live.Failure
import CowView.Live.Kind
import CowView.Live.Load
import CowView.Live.Loaded
import CowView.Live.Member
import CowView.Live.Ownership
import CowView.Live.Passage
import CowView.Live.Script
import CowView.Live.Sequence
import CowView.Live.Snapshot
import CowView.Live.Store
import CowView.Live.Value
import CowView.Main
import CowView.Position
import CowView.Proofs.BorrowSafety
import CowView.Proofs.BoundNames
import CowView.Proofs.Buffering
import CowView.Proofs.Calls
import CowView.Proofs.CloneCounts
import CowView.Proofs.Cloning
import CowView.Proofs.Commands
import CowView.Proofs.Completeness
import CowView.Proofs.Constructors
import CowView.Proofs.Costs
import CowView.Proofs.Ending
import CowView.Proofs.Extension
import CowView.Proofs.Fields
import CowView.Proofs.Following
import CowView.Proofs.FollowingFields
import CowView.Proofs.FollowingTypes
import CowView.Proofs.Generation
import CowView.Proofs.Giving
import CowView.Proofs.Grammar
import CowView.Proofs.Histories
import CowView.Proofs.Instances
import CowView.Proofs.Lasts
import CowView.Proofs.Layout
import CowView.Proofs.Lending
import CowView.Proofs.Lexing
import CowView.Proofs.Loading
import CowView.Proofs.MacroGroup
import CowView.Proofs.Naming
import CowView.Proofs.Operations
import CowView.Proofs.Plainness
import CowView.Proofs.Printing
import CowView.Proofs.Reading
import CowView.Proofs.ReadingBack
import CowView.Proofs.Registering
import CowView.Proofs.Resolution
import CowView.Proofs.RoundTrip
import CowView.Proofs.Scanning
import CowView.Proofs.Sessions
import CowView.Proofs.Settling
import CowView.Proofs.SignificantTokens
import CowView.Proofs.Soundness
import CowView.Proofs.Spelling
import CowView.Proofs.Substituting
import CowView.Proofs.Termination
import CowView.Proofs.UnitGrammar
import CowView.Proofs.UnitRoundTrip
import CowView.Proofs.Verbatim
import CowView.Proofs.ViewParts
import CowView.Proofs.ViewRoundTrip
import CowView.Proofs.ViewTypes
import CowView.Proofs.Views
import CowView.Proofs.WellFormed
import CowView.Proofs.Words
import CowView.Proofs.Writable
import CowView.Settings
import CowView.Strategy
import CowView.Strategy.Requirements
import CowView.Template.Lookup
import CowView.Template.Packaged
import CowView.Text.Blank
import CowView.Text.Case
import CowView.Text.Identifier
import CowView.Text.Join
import CowView.Text.Letter
import CowView.Text.Lines
import CowView.Text.Numeral
import CowView.Text.Printable
import CowView.Text.Quoted
import CowView.Text.Ranges
import CowView.Token
import CowView.Token.Buffered
import CowView.Token.Lexer
import CowView.Token.Stream
import CowView.TypeExpr
import CowView.TypeExpr.Equality
import CowView.TypeExpr.Parser
import CowView.TypeExpr.Substitution
import CowView.TypeExpr.TokenGroup
import CowView.TypeExpr.Walk
import CowView.Version
import CowView.View
import CowView.View.Resolve
import CowView.Proofs.Outlines
import CowView.Proofs.Rewriting
import CowView.Proofs.Clauses
import CowView.Proofs.Flattening
import CowView.Proofs.Derivations
import CowView.Proofs.Consuming
import CowView.Proofs.Enclosure
import CowView.Proofs.Attribution
import CowView.Proofs.FieldFaults
import CowView.Proofs.Noting
import CowView.Proofs.Documenting
import CowView.Proofs.Docstrings
import CowView.Proofs.Delivering
import CowView.Proofs.Locating
import CowView.Proofs.Capabilities
import CowView.Proofs.Transfer
import CowView.Proofs.TransferTypes
import CowView.Proofs.Masking
import CowView.Proofs.Weaving
import CowView.Proofs.Distilling
import CowView.Proofs.MacroComments
import CowView.Proofs.Relexing
import CowView.Proofs.Searching
import CowView.Proofs.Counterparts
import CowView.Proofs.Converting
import CowView.Proofs.Escaping
