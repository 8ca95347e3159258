import RecordFilter.Unicode.CharSet
import RecordFilter.Unicode.CaseMapping
import RecordFilter.Unicode.Property
import RecordFilter.Text.Basic
import RecordFilter.Text.WhiteSpace
import RecordFilter.Text.LowerCase
import RecordFilter.Text.Digits
import RecordFilter.Text.Quoted
import RecordFilter.Number.Double
import RecordFilter.Number.Rounding
import RecordFilter.Number.Shortest
import RecordFilter.Number.Written
import RecordFilter.Number.Reading
import RecordFilter.Json.Value
import RecordFilter.Json.Writer
import RecordFilter.Json.Reader
import RecordFilter.Query.Split
import RecordFilter.Query.Chain
import RecordFilter.Query.Operator
import RecordFilter.Query.Literal
import RecordFilter.Query.Condition
import RecordFilter.Unicode.Recent
import RecordFilter.Unicode.CaseChange
import RecordFilter.Unicode.GraphemeBreak
import RecordFilter.Unicode.WordBreak
import RecordFilter.Unicode.SentenceBreak
import RecordFilter.Unicode.Age
import RecordFilter.Unicode.Lookup
import RecordFilter.Pattern.Tree
import RecordFilter.Pattern.Reader
import RecordFilter.Pattern.Regex
import RecordFilter.Pattern.Fold
import RecordFilter.Pattern.Meaning
import RecordFilter.Pattern.BytePath
import RecordFilter.Pattern.Plan
import RecordFilter.Pattern.SetStates
import RecordFilter.Pattern.Memory
import RecordFilter.Pattern.Basic
import RecordFilter.Record.Path
import RecordFilter.Record.Subject
import RecordFilter.Record.Order
import RecordFilter.Record.Sort
import RecordFilter.Query.Rule
import RecordFilter.Query.Options
import RecordFilter.Record.Kind
import RecordFilter.Report.Structure
import RecordFilter.Report.Event
import RecordFilter.Report.Traced
import RecordFilter.Query.Token
import RecordFilter.Query.Conditions
import RecordFilter.Search.Comparison
import RecordFilter.Search.Cache
import RecordFilter.Search.PatternCache
import RecordFilter.Search.Test
import RecordFilter.Search.Predicate
import RecordFilter.Search.SortDirective
import RecordFilter.Search.Engine
import RecordFilter.Json.Decoding
import RecordFilter.Query.Decoding
import RecordFilter.Query.Encoding
import RecordFilter.Record.Reading
import RecordFilter.Report.Summary
import RecordFilter.Configuration.Basic
import RecordFilter.Configuration.Path
import RecordFilter.Configuration.Error
import RecordFilter.Configuration.Conversion
import RecordFilter.Configuration.Source
import RecordFilter.Configuration.Settings
import RecordFilter.Configuration.Logging
import RecordFilter.CommandLine.Arguments
import RecordFilter.CommandLine.Run
import RecordFilter.Main
import RecordFilter.Proofs.Query.Blocks
import RecordFilter.Proofs.Query.Runs
import RecordFilter.Proofs.Query.Written
import RecordFilter.Proofs.Query.RunConditions
import RecordFilter.Proofs.Json.Induction
import RecordFilter.Proofs.Record.Path
import RecordFilter.Proofs.Record.Merge
import RecordFilter.Proofs.Record.Order
import RecordFilter.Proofs.Search.Cache
import RecordFilter.Proofs.Search.Compilation
import RecordFilter.Proofs.Search.Evaluation
import RecordFilter.Proofs.Search.Steps
import RecordFilter.Proofs.Search.Transparency
import RecordFilter.Proofs.Search.Meaning
import RecordFilter.Proofs.Search.Outcome
import RecordFilter.Proofs.Search.Faults
import RecordFilter.Proofs.Search.Conjunction
import RecordFilter.Proofs.Search.Order
import RecordFilter.Proofs.Search.Recency
import RecordFilter.Proofs.Search.CacheSteps
import RecordFilter.Proofs.Search.History
import RecordFilter.Proofs.Search.Room
import RecordFilter.Proofs.Search.Reports
import RecordFilter.Proofs.Search.Reuse
import RecordFilter.Proofs.Query.ArgumentText
import RecordFilter.Proofs.Query.ConditionText
import RecordFilter.Proofs.Query.Quotation
import RecordFilter.Proofs.Search.FreeText
import RecordFilter.Proofs.Search.Rewriting
import RecordFilter.Proofs.Record.Sort
import RecordFilter.Proofs.CommandLine.Sorting
import RecordFilter.Proofs.Query.Kept
import RecordFilter.Proofs.Search.Directive
import RecordFilter.Proofs.Unicode.CaseMapping
import RecordFilter.Proofs.Text.LowerCase
import RecordFilter.Proofs.Unicode.CharSet
import RecordFilter.Proofs.Unicode.Recent
import RecordFilter.Proofs.Number.LetterCase
import RecordFilter.Proofs.Number.Numerals
import RecordFilter.Proofs.Search.LetterCase
import RecordFilter.Proofs.Record.Strings
import RecordFilter.Proofs.Search.LowerStrings
import RecordFilter.Proofs.Json.RoundTrip
import RecordFilter.Proofs.CommandLine.Lines
import RecordFilter.Proofs.Search.LastWord
import RecordFilter.Proofs.CommandLine.Piping
import RecordFilter.Proofs.Query.Continued
import RecordFilter.Proofs.CommandLine.Switches
import RecordFilter.Proofs.CommandLine.Shown
import RecordFilter.Proofs.Number.Integers
import RecordFilter.Proofs.Search.Integers
import RecordFilter.Proofs.Search.Presence
import RecordFilter.Proofs.Search.Alternatives
import RecordFilter.Proofs.Query.WellFormed
import RecordFilter.Proofs.Text.Joined
import RecordFilter.Proofs.Search.Phrase
import RecordFilter.Proofs.Search.PatternUses
import RecordFilter.Proofs.Search.Once
import RecordFilter.Proofs.Record.Consistency
import RecordFilter.Proofs.Record.Stability
import RecordFilter.Proofs.Query.Reread
import RecordFilter.Proofs.Search.Negation
import RecordFilter.Proofs.Record.Walk
import RecordFilter.Proofs.Search.Signed
import RecordFilter.Proofs.Search.Comparisons
import RecordFilter.Proofs.Search.OwnText
import RecordFilter.Proofs.Search.Membership
import RecordFilter.Proofs.Query.Addressed
import RecordFilter.Proofs.Query.Aliases
import RecordFilter.Proofs.Query.Escapes
import RecordFilter.Proofs.Search.LastPiece
import RecordFilter.Proofs.Query.LongestSign
import RecordFilter.Proofs.Query.Segments
import RecordFilter.Proofs.Query.Encoding
import RecordFilter.Proofs.Json.Nesting
import RecordFilter.Proofs.Json.TakenNumbers
import RecordFilter.Proofs.Json.TakenStrings
import RecordFilter.Proofs.Json.TakenValues
import RecordFilter.Proofs.CommandLine.Records
