import FilterQuery.Builder.Call
import FilterQuery.Builder.Methods
import FilterQuery.CommandLine.Folder
import FilterQuery.Help
import FilterQuery.LogFilter
import FilterQuery.Main
import FilterQuery.NameError
import FilterQuery.Proofs.Grammar
import FilterQuery.Proofs.Pieces
import FilterQuery.Validation.Grammar
import FilterQuery.Proofs.Lexing
import FilterQuery.Proofs.Rendering
import FilterQuery.Proofs.Marker
import FilterQuery.Proofs.Dangling
import FilterQuery.Proofs.Writing
import FilterQuery.Proofs.Balanced
import FilterQuery.Proofs.ListCondition
import FilterQuery.Proofs.Structured
import FilterQuery.Proofs.ScalarValues
import FilterQuery.Proofs.Edits
import FilterQuery.Proofs.InStep
import FilterQuery.Proofs.Replay
import FilterQuery.Proofs.Places
import FilterQuery.Proofs.Record
import FilterQuery.Proofs.Rebuilding
import FilterQuery.Proofs.Transparency
import FilterQuery.Proofs.Nesting
import FilterQuery.Proofs.Appending
import FilterQuery.Proofs.JsonWriting
import FilterQuery.Proofs.JsonText
import FilterQuery.Proofs.StoredTokens
import FilterQuery.Proofs.PercentText
import FilterQuery.Proofs.CheckedBuild
import FilterQuery.Proofs.Finishing
import FilterQuery.Proofs.Stopping
import FilterQuery.Proofs.ProblemPlaces
import FilterQuery.Proofs.ProblemOrder
import FilterQuery.Proofs.Recording
import FilterQuery.Proofs.Emptiness
import FilterQuery.Proofs.Joining
import FilterQuery.Proofs.WordEnd
import FilterQuery.Proofs.Separation
import FilterQuery.Proofs.QuotedString
import FilterQuery.Proofs.Spacing
import FilterQuery.Proofs.ListLiteral
import FilterQuery.Proofs.TakingOver
import FilterQuery.Proofs.Grouping
import FilterQuery.Proofs.MethodReplay
import FilterQuery.Proofs.Lines
import FilterQuery.Proofs.ReportLines
import FilterQuery.Proofs.Composition
import FilterQuery.Proofs.Coloring
import FilterQuery.Proofs.LogOrder
import FilterQuery.Proofs.LogText
import FilterQuery.Proofs.UsablePatterns
