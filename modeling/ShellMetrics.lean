import ShellMetrics.Analysis
import ShellMetrics.Analysis.Logged
import ShellMetrics.Body
import ShellMetrics.Branch
import ShellMetrics.CommandLine.Arguments
import ShellMetrics.CommandLine.Options
import ShellMetrics.CommandLine.Request
import ShellMetrics.CommandLine.Run
import ShellMetrics.Discovery
import ShellMetrics.Encoding.Basic
import ShellMetrics.Encoding.Utf16
import ShellMetrics.Encoding.Utf8
import ShellMetrics.Fault
import ShellMetrics.FileTree
import ShellMetrics.Glob
import ShellMetrics.Ledger
import ShellMetrics.Line
import ShellMetrics.Log
import ShellMetrics.Main
import ShellMetrics.Moment
import ShellMetrics.Number.Binary64
import ShellMetrics.Number.Count
import ShellMetrics.Number.Numeral
import ShellMetrics.Number.Shortest
import ShellMetrics.Output
import ShellMetrics.Path
import ShellMetrics.Pool
import ShellMetrics.Problem
import ShellMetrics.Render.Columns
import ShellMetrics.Render.Csv
import ShellMetrics.Render.Format
import ShellMetrics.Render.Grid
import ShellMetrics.Render.Json
import ShellMetrics.Report
import ShellMetrics.Screen.Cells
import ShellMetrics.Screen.Draw
import ShellMetrics.Screen.Emoji
import ShellMetrics.Screen.EmojiNames
import ShellMetrics.Screen.Lines
import ShellMetrics.Screen.Markup
import ShellMetrics.Screen.Wide
import ShellMetrics.Script
import ShellMetrics.Script.Load
import ShellMetrics.Settings.Basic
import ShellMetrics.Settings.Load
import ShellMetrics.Settings.Quantity
import ShellMetrics.Shebang
import ShellMetrics.Summary
import ShellMetrics.Text.Basic
import ShellMetrics.Text.Digit
import ShellMetrics.Text.Lower
import ShellMetrics.Text.Printable
import ShellMetrics.Text.Quoted
import ShellMetrics.Text.Ranges
import ShellMetrics.Text.Space
import ShellMetrics.Text.Word
import ShellMetrics.Toml.Document
import ShellMetrics.Toml.Draft
import ShellMetrics.Toml.Quotation
import ShellMetrics.Toml.Scalar
import ShellMetrics.Value
import ShellMetrics.World
import ShellMetrics.Proofs.Balance
import ShellMetrics.Proofs.Blocks
import ShellMetrics.Proofs.CharacterSets
import ShellMetrics.Proofs.Closing
import ShellMetrics.Proofs.Collecting
import ShellMetrics.Proofs.Columns
import ShellMetrics.Proofs.Complexity
import ShellMetrics.Proofs.Concatenation
import ShellMetrics.Proofs.Containment
import ShellMetrics.Proofs.Counts
import ShellMetrics.Proofs.Csv
import ShellMetrics.Proofs.Decimal
import ShellMetrics.Proofs.Declarations
import ShellMetrics.Proofs.Decoding
import ShellMetrics.Proofs.Exclusion
import ShellMetrics.Proofs.ExitCode
import ShellMetrics.Proofs.Fallible
import ShellMetrics.Proofs.Flags
import ShellMetrics.Proofs.Growth
import ShellMetrics.Proofs.Handlers
import ShellMetrics.Proofs.IdleLines
import ShellMetrics.Proofs.Isolation
import ShellMetrics.Proofs.JsonGrammar
import ShellMetrics.Proofs.JsonReader
import ShellMetrics.Proofs.Ledger
import ShellMetrics.Proofs.LineEnds
import ShellMetrics.Proofs.Loading
import ShellMetrics.Proofs.LogFiles
import ShellMetrics.Proofs.Lookup
import ShellMetrics.Proofs.Overwriting
import ShellMetrics.Proofs.Path
import ShellMetrics.Proofs.PlainTree
import ShellMetrics.Proofs.Pool
import ShellMetrics.Proofs.Positions
import ShellMetrics.Proofs.Precedence
import ShellMetrics.Proofs.Reader
import ShellMetrics.Proofs.Rows
import ShellMetrics.Proofs.Scanning
import ShellMetrics.Proofs.Schedule
import ShellMetrics.Proofs.Searching
import ShellMetrics.Proofs.SettingsFaults
import ShellMetrics.Proofs.ShellLine
import ShellMetrics.Proofs.Sources
import ShellMetrics.Proofs.Spelling
import ShellMetrics.Proofs.SplitLines
import ShellMetrics.Proofs.Utf8
import ShellMetrics.Proofs.Variables
import ShellMetrics.Proofs.Walking
import ShellMetrics.Proofs.WholeNumbers
import ShellMetrics.Proofs.Writing
