import Schemata.CommandLine
import Schemata.Compile.Attributes
import Schemata.Compile.Basic
import Schemata.Compile.Builder
import Schemata.Compile.Catalog
import Schemata.Compile.Climb
import Schemata.Compile.ComplexTypes
import Schemata.Compile.Elements
import Schemata.Compile.Fault
import Schemata.Compile.Files
import Schemata.Compile.Folder
import Schemata.Compile.Members
import Schemata.Compile.SimpleTypes
import Schemata.Compile.Types
import Schemata.Declaration.Basic
import Schemata.Declaration.Reader
import Schemata.Declaration.Shorthand
import Schemata.Declaration.Writer
import Schemata.Diagnostic
import Schemata.Facets.Basic
import Schemata.Facets.Narrowing
import Schemata.Imports
import Schemata.Json.Basic
import Schemata.Json.Reader
import Schemata.Json.Record
import Schemata.Json.Token
import Schemata.Json.Writer
import Schemata.Kind
import Schemata.Ledger
import Schemata.Limits
import Schemata.Main
import Schemata.Name
import Schemata.Objects.Basic
import Schemata.Objects.Editing
import Schemata.Objects.Equality
import Schemata.Occurs
import Schemata.Outline.Basic
import Schemata.Outline.Reader
import Schemata.Outline.Writer
import Schemata.Pattern.Automaton
import Schemata.Pattern.Basic
import Schemata.Pattern.Bytes
import Schemata.Pattern.CharSet
import Schemata.Pattern.Literals
import Schemata.Pattern.Property
import Schemata.Pattern.Reader
import Schemata.Pattern.Room
import Schemata.Pattern.Shape
import Schemata.Proofs.Attributes
import Schemata.Proofs.Compilation
import Schemata.Proofs.ComplexTypes
import Schemata.Proofs.Defaults
import Schemata.Proofs.Derivation
import Schemata.Proofs.DerivedValues
import Schemata.Proofs.Facets
import Schemata.Proofs.Instances
import Schemata.Proofs.Invariant
import Schemata.Proofs.Members
import Schemata.Proofs.Narrowing
import Schemata.Proofs.Runs
import Schemata.Proofs.SimpleTypes
import Schemata.Proofs.Steps
import Schemata.Proofs.Symbols
import Schemata.Proofs.Values
import Schemata.Proofs.Walks
import Schemata.Schema.Basic
import Schemata.Schema.Children
import Schemata.Schema.Derivation
import Schemata.Schema.Symbol
import Schemata.Schema.Values
import Schemata.Text.Age
import Schemata.Text.Blank
import Schemata.Text.Category
import Schemata.Text.Digits
import Schemata.Text.Encoding
import Schemata.Text.Lowercase
import Schemata.Text.Property
import Schemata.Text.Ranges
import Schemata.Text.Script
import Schemata.Text.Segment
import Schemata.Text.Variant
import Schemata.Text.Word
import Schemata.Validation.Basic
import Schemata.Validation.Check
import Schemata.Validation.Finding
import Schemata.Validation.Matching
import Schemata.Validation.Mode
import Schemata.Validation.Visit
import Schemata.Value.Atomic
import Schemata.Value.Base64
import Schemata.Value.Decimal
import Schemata.Value.Double
import Schemata.Value.Duration
import Schemata.Value.Guid
import Schemata.Value.Moment
import Schemata.Value.Simple
import Schemata.Proofs.Trails
import Schemata.Proofs.Trees
import Schemata.Proofs.Copies
import Schemata.Proofs.Attachments
import Schemata.Proofs.WellFormed
import Schemata.Proofs.Operations
import Schemata.Proofs.BuiltTrees
import Schemata.Proofs.Loops
import Schemata.Proofs.Depths
import Schemata.Proofs.Finiteness
import Schemata.Proofs.Parts
import Schemata.Proofs.Refusals
import Schemata.Proofs.Sorts
import Schemata.Proofs.Outcomes
import Schemata.Proofs.Circles
import Schemata.Proofs.Mentions
import Schemata.Proofs.Reports
import Schemata.Proofs.SymbolReports
import Schemata.Proofs.SimpleReports
import Schemata.Proofs.ContentReports
import Schemata.Proofs.Verdicts
import Schemata.Proofs.Changes
import Schemata.Proofs.Sequences
import Schemata.Proofs.SimpleSequences
import Schemata.Proofs.ContentSequences
import Schemata.Proofs.Publication
import Schemata.Proofs.Integrity
import Schemata.Proofs.Rearrangement
import Schemata.Proofs.Renumbering
import Schemata.Proofs.Sources
import Schemata.Proofs.Remakes
import Schemata.Proofs.Agreement
import Schemata.Proofs.Repetition
import Schemata.Proofs.SymbolRepeats
import Schemata.Proofs.SimpleRepeats
import Schemata.Proofs.AttributeRepeats
import Schemata.Proofs.MemberRepeats
import Schemata.Proofs.ContentRepeats
import Schemata.Proofs.Reordering
import Schemata.Proofs.Likeness
import Schemata.Proofs.Modes
import Schemata.Proofs.ContentLikeness
import Schemata.Proofs.Splitting
import Schemata.Proofs.ImportOrder
import Schemata.Proofs.Positions
import Schemata.Proofs.Additions
import Schemata.Proofs.Extension
import Schemata.Proofs.ImportTables
import Schemata.Proofs.JsonTexts
import Schemata.Proofs.Records
import Schemata.Proofs.WrittenDeclarations
import Schemata.Proofs.WrittenOutlines
import Schemata.Proofs.DisplayNames
import Schemata.Proofs.ClosedOutlines
import Schemata.Proofs.DigitTexts
import Schemata.Proofs.WrittenNumbers
import Schemata.Proofs.WrittenAtoms
import Schemata.Proofs.ListTexts
import Schemata.Proofs.DefaultLiterals
import Schemata.Proofs.WrittenDurations
import Schemata.Proofs.WrittenMoments
import Schemata.Proofs.LongDurations
import Schemata.Proofs.Faces
import Schemata.Proofs.ChildSets
import Schemata.Proofs.RestrictedContent
import Schemata.Proofs.SetKinds
import Schemata.Proofs.Retention
import Schemata.Proofs.Omissions
import Schemata.Proofs.Recompilation
import Schemata.Proofs.Deletions
import Schemata.Proofs.Insertions
import Schemata.Proofs.Restatements
import Schemata.Proofs.MirroredContent
import Schemata.Proofs.AddedTypes
import Schemata.Proofs.Effects
import Schemata.Proofs.Enlargement
import Schemata.Proofs.FacetOutlines
import Schemata.Proofs.Independence
import Schemata.Proofs.Readings
import Schemata.Proofs.RestatedTypes
import Schemata.Proofs.FaultlessNarrowing
import Schemata.Proofs.RepeatedNarrowing
import Schemata.Proofs.ItemNames
import Schemata.Proofs.WellFormedFacets
import Schemata.Proofs.WholeMatches
import Schemata.Proofs.DurationTexts
import Schemata.Proofs.NeededDigits
import Schemata.Proofs.CheckedAttributes
import Schemata.Proofs.Marks
import Schemata.Proofs.VisitDepths
import Schemata.Proofs.Turns
