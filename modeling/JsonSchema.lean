import JsonSchema.CommandLine.Command
import JsonSchema.CommandLine.Folder
import JsonSchema.CommandLine.Reading
import JsonSchema.CommandLine.Run
import JsonSchema.CommandLine.Similar
import JsonSchema.Document.Mismatch
import JsonSchema.Document.Read
import JsonSchema.Document.Shape
import JsonSchema.Document.Size
import JsonSchema.Document.Write
import JsonSchema.Fault
import JsonSchema.Generation.Draw
import JsonSchema.Generation.Fit
import JsonSchema.Generation.Hindrance
import JsonSchema.Generation.Plan
import JsonSchema.Generation.Sample
import JsonSchema.Generation.Strategy
import JsonSchema.Json.Basic
import JsonSchema.Json.Reader
import JsonSchema.Json.Writer
import JsonSchema.Main
import JsonSchema.Node.Basic
import JsonSchema.Node.Equality
import JsonSchema.Note
import JsonSchema.Number.Basic
import JsonSchema.Number.Double
import JsonSchema.Number.Limits
import JsonSchema.Number.Shortest
import JsonSchema.Options
import JsonSchema.Pattern.Reader
import JsonSchema.Pattern.Refusal
import JsonSchema.Pattern.Search
import JsonSchema.Pattern.Syntax
import JsonSchema.Pointer
import JsonSchema.Proofs.Document.Attributes
import JsonSchema.Proofs.Document.Closedness
import JsonSchema.Proofs.Document.Compose
import JsonSchema.Proofs.Document.Gathering
import JsonSchema.Proofs.Document.Hoisting
import JsonSchema.Proofs.Document.Layout
import JsonSchema.Proofs.Document.Leftovers
import JsonSchema.Proofs.Document.Lifting
import JsonSchema.Proofs.Document.Locality
import JsonSchema.Proofs.Document.Meaning
import JsonSchema.Proofs.Document.Naming
import JsonSchema.Proofs.Document.Normalizing
import JsonSchema.Proofs.Document.Parted
import JsonSchema.Proofs.Document.Proper
import JsonSchema.Proofs.Document.Quiet
import JsonSchema.Proofs.Document.Recomposed
import JsonSchema.Proofs.Document.Recursion
import JsonSchema.Proofs.Document.Renaming
import JsonSchema.Proofs.Document.Rendering
import JsonSchema.Proofs.Document.Represent
import JsonSchema.Proofs.Document.Requirement
import JsonSchema.Proofs.Document.Reread
import JsonSchema.Proofs.Document.RoundTrip
import JsonSchema.Proofs.Document.Rows
import JsonSchema.Proofs.Document.Settled
import JsonSchema.Proofs.Document.WellFormed
import JsonSchema.Proofs.Entries
import JsonSchema.Proofs.Generation.Drawn
import JsonSchema.Proofs.Generation.Fitting
import JsonSchema.Proofs.Generation.Lengths
import JsonSchema.Proofs.Generation.Planning
import JsonSchema.Proofs.Generation.Ranges
import JsonSchema.Proofs.Generation.Refusals
import JsonSchema.Proofs.Generation.Soundness
import JsonSchema.Proofs.Json.Grammar
import JsonSchema.Proofs.Json.Reading
import JsonSchema.Proofs.Json.Tokens
import JsonSchema.Proofs.Node.Agreement
import JsonSchema.Proofs.Node.Contents
import JsonSchema.Proofs.Node.Rebuilding
import JsonSchema.Proofs.Node.Retargeting
import JsonSchema.Proofs.Node.Similarity
import JsonSchema.Proofs.Number.Rounding
import JsonSchema.Proofs.Number.Sums
import JsonSchema.Proofs.Options
import JsonSchema.Proofs.Pattern.Complaints
import JsonSchema.Proofs.Schema.Merging
import JsonSchema.Proofs.Text.Lines
import JsonSchema.Proofs.Text.Unescaping
import JsonSchema.Proofs.Validation.Bounding
import JsonSchema.Proofs.Validation.Building
import JsonSchema.Proofs.Validation.Conformance
import JsonSchema.Proofs.Validation.DepthFirst
import JsonSchema.Proofs.Validation.Faults
import JsonSchema.Proofs.Validation.Inlining
import JsonSchema.Proofs.Validation.Likeness
import JsonSchema.Proofs.Validation.Place
import JsonSchema.Proofs.Validation.Pointing
import JsonSchema.Proofs.Validation.Rearranging
import JsonSchema.Proofs.Validation.Recursion
import JsonSchema.Proofs.Validation.Relevance
import JsonSchema.Proofs.Validation.Renaming
import JsonSchema.Proofs.Validation.Reordering
import JsonSchema.Proofs.Validation.SelfReference
import JsonSchema.Proofs.Validation.Strictness
import JsonSchema.Proofs.Validation.Summaries
import JsonSchema.Proofs.Validation.Traces
import JsonSchema.Proofs.Validation.Undeclared
import JsonSchema.Proofs.Validation.Unrolling
import JsonSchema.Proofs.Validation.Visits
import JsonSchema.Schema.Assembly
import JsonSchema.Schema.Reference
import JsonSchema.Text.CharacterClass
import JsonSchema.Text.CharacterName
import JsonSchema.Text.Integer
import JsonSchema.Text.LetterCase
import JsonSchema.Text.NameTable
import JsonSchema.Text.Printable
import JsonSchema.Text.Quoted
import JsonSchema.Thunks
import JsonSchema.Validation.Check
import JsonSchema.Validation.Problem
import JsonSchema.Validation.Summary
import JsonSchema.Validation.Trace
