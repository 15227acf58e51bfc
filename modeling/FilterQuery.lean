import FilterQuery.Compiler
import FilterQuery.Filter.Builder
import FilterQuery.Value.Display
import FilterQuery.Proofs.Compiler.Step
import FilterQuery.Proofs.Compiler.Faults
import FilterQuery.Proofs.Compiler.Depth
import FilterQuery.Proofs.Compiler.Nesting
import FilterQuery.Proofs.Compiler.Node
import FilterQuery.Proofs.Compiler.Log
import FilterQuery.Proofs.Function.Builtin
import FilterQuery.Proofs.FieldArena.Growth
import FilterQuery.Proofs.Condition.Basic
import FilterQuery.Proofs.Condition.Normal
import FilterQuery.Proofs.Condition.Truth
import FilterQuery.Proofs.Condition.WellFormed
import FilterQuery.Proofs.Condition.Unambiguous
import FilterQuery.Proofs.Binary64.RoundTrip
import FilterQuery.Proofs.Json.Numeral
import FilterQuery.Proofs.Json.Scan
import FilterQuery.Proofs.Json.Nesting
import FilterQuery.Proofs.Json.RoundTrip
import FilterQuery.Proofs.Calendar.DayNumber
import FilterQuery.Proofs.Calendar.RoundTrip
import FilterQuery.Proofs.Value.RoundTrip
import FilterQuery.Proofs.Filter.RoundTrip
import FilterQuery.Proofs.Filter.Kinds
import FilterQuery.Proofs.Compiler.Skeleton
import FilterQuery.Proofs.Binary64.Finite
import FilterQuery.Proofs.Filter.Built
import FilterQuery.Proofs.Json.Readable
import FilterQuery.Proofs.Filter.Canonical
import FilterQuery.Proofs.FieldArena.Filling
import FilterQuery.Proofs.Compiler.Reached
import FilterQuery.Proofs.Compiler.Limit
import FilterQuery.Proofs.Filter.Height
import FilterQuery.Proofs.Filter.Look
import FilterQuery.Proofs.FieldArena.Dotted
import FilterQuery.Proofs.Compiler.Naming
import FilterQuery.Proofs.Condition.Uncalled
import FilterQuery.Proofs.Condition.Dual
import FilterQuery.Proofs.Calendar.Order
import FilterQuery.Proofs.Calendar.Elapsed
import FilterQuery.Proofs.Bson.Encoding
import FilterQuery.Proofs.Text.LowerCase
import FilterQuery.Proofs.Function.Registration
import FilterQuery.Proofs.Compiler.Spelling
import FilterQuery.Proofs.Filter.KindSpelling
import FilterQuery.Proofs.Settings.Text
import FilterQuery.Proofs.Compiler.Configuration
import FilterQuery.Proofs.Text.Base64
import FilterQuery.Proofs.Bson.DateTime
import FilterQuery.Proofs.Bson.ExtendedJson
import FilterQuery.Proofs.Condition.Shown
