import RenderTemplate.Braces
import RenderTemplate.Compile
import RenderTemplate.Concatenation
import RenderTemplate.Diagnostic
import RenderTemplate.Diagnostic.Code
import RenderTemplate.Diagnostic.Fault
import RenderTemplate.Dictionary
import RenderTemplate.Directive
import RenderTemplate.Directive.Repeat
import RenderTemplate.Directive.ScopeClause
import RenderTemplate.Embedded
import RenderTemplate.Emission
import RenderTemplate.Entity
import RenderTemplate.Extraction
import RenderTemplate.Helper
import RenderTemplate.Host.Char
import RenderTemplate.Host.Elements
import RenderTemplate.Host.Expressions
import RenderTemplate.Host.Functions
import RenderTemplate.Host.Goal
import RenderTemplate.Host.Grammar
import RenderTemplate.Host.Lexer
import RenderTemplate.Host.Members
import RenderTemplate.Host.Outline
import RenderTemplate.Host.Recognizer
import RenderTemplate.Host.Statements
import RenderTemplate.Host.Token
import RenderTemplate.Host.Types
import RenderTemplate.HostLanguage
import RenderTemplate.Identifier
import RenderTemplate.Imports
import RenderTemplate.Interpolation
import RenderTemplate.Json
import RenderTemplate.Json.Reader
import RenderTemplate.Location
import RenderTemplate.Markup
import RenderTemplate.Markup.Cursor
import RenderTemplate.Markup.Lexeme
import RenderTemplate.Markup.Parser
import RenderTemplate.Markup.Whitespace
import RenderTemplate.ModuleFormat
import RenderTemplate.ModuleText
import RenderTemplate.Options
import RenderTemplate.Options.Json
import RenderTemplate.Proofs.Runs
import RenderTemplate.Props
import RenderTemplate.Quoted
import RenderTemplate.RenderTree
import RenderTemplate.Resolution
import RenderTemplate.Scope
import RenderTemplate.Style
import RenderTemplate.Tags
import RenderTemplate.Target
import RenderTemplate.Text.Blank
import RenderTemplate.Text.Search
import RenderTemplate.Text.Uppercase
import RenderTemplate.Text.WordChar
import RenderTemplate.TopLevel
import RenderTemplate.Version
import RenderTemplate.Proofs.Provenance
import RenderTemplate.Proofs.Closure
import RenderTemplate.Proofs.Dialect
import RenderTemplate.Proofs.Printing
import RenderTemplate.Proofs.Reading
import RenderTemplate.Proofs.RoundTrip
import RenderTemplate.Proofs.Lifting
import RenderTemplate.Proofs.References
import RenderTemplate.Proofs.Names
import RenderTemplate.Proofs.HelperNames
import RenderTemplate.Proofs.Bracketing
import RenderTemplate.Proofs.ClosedCode
import RenderTemplate.Proofs.ClosedModule
import RenderTemplate.Proofs.Pieces
import RenderTemplate.Proofs.Arguments
import RenderTemplate.Proofs.Whitespace
import RenderTemplate.Proofs.Regions
import RenderTemplate.Proofs.Positions
import RenderTemplate.Proofs.Placement
import RenderTemplate.Proofs.EmbeddedPlaces
import RenderTemplate.Proofs.Stateless
import RenderTemplate.Proofs.Verbatim
import RenderTemplate.Proofs.Groups
import RenderTemplate.Proofs.Layout
import RenderTemplate.Proofs.HiddenInterpolation
import RenderTemplate.Proofs.Reports
import RenderTemplate.Proofs.UnclosedExpressions
import RenderTemplate.Proofs.Isolation
import RenderTemplate.Proofs.Visits
import RenderTemplate.Proofs.PropKeys
import RenderTemplate.Proofs.HelperParameters
import RenderTemplate.Proofs.Hoisting
import RenderTemplate.Proofs.TreePass
import RenderTemplate.Proofs.Comments
import RenderTemplate.Proofs.Acceptance
import RenderTemplate.Proofs.Autobind
import RenderTemplate.Proofs.RuntimeNames
import RenderTemplate.Proofs.Declarations
import RenderTemplate.Proofs.Factory
import RenderTemplate.Proofs.DeclaredTemplates
import RenderTemplate.Proofs.StyleEntries
import RenderTemplate.Proofs.Quoting
import RenderTemplate.Proofs.Splitting
import RenderTemplate.Proofs.HelperOrder
import RenderTemplate.Proofs.NestedLiterals
import RenderTemplate.Proofs.CharacterReferences
import RenderTemplate.Proofs.Gaps
import RenderTemplate.Proofs.LoopGrammar
import RenderTemplate.Proofs.ScopeEntries
import RenderTemplate.Proofs.TextSums
import RenderTemplate.Proofs.Origins
import RenderTemplate.Proofs.WellFormed
import RenderTemplate.Proofs.RawText
import RenderTemplate.Proofs.BareValues
import RenderTemplate.Proofs.ClassOperands
import RenderTemplate.Proofs.Joining
import RenderTemplate.Proofs.Collapsing
import RenderTemplate.Proofs.JsonText
import RenderTemplate.Proofs.DottedVersions
import RenderTemplate.Proofs.ByOffset
import RenderTemplate.Proofs.ByteScans
import RenderTemplate.Proofs.OffsetReaders
import RenderTemplate.Proofs.OptionsText
import RenderTemplate.Proofs.Progress
import RenderTemplate.Proofs.CommentEnds
