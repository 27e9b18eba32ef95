import LinePatch.Alignment
import LinePatch.Apply
import LinePatch.Balance
import LinePatch.Chars.Cleanup
import LinePatch.Chars.Diff
import LinePatch.Chars.Edit
import LinePatch.Chars.Hunk
import LinePatch.Chars.Lines
import LinePatch.Chars.Match
import LinePatch.Chars.Merge
import LinePatch.Cli
import LinePatch.Config
import LinePatch.Conversion
import LinePatch.Engine
import LinePatch.Fault
import LinePatch.Fence
import LinePatch.Guard
import LinePatch.Line
import LinePatch.Link
import LinePatch.Main
import LinePatch.Number.Reading
import LinePatch.Number.Shortest
import LinePatch.Options
import LinePatch.Patch
import LinePatch.Policy
import LinePatch.Rebuild
import LinePatch.Response
import LinePatch.Script
import LinePatch.SelfCheck
import LinePatch.Session
import LinePatch.Setting
import LinePatch.Strand
import LinePatch.Text.Alnum
import LinePatch.Text.Blank
import LinePatch.Text.Case
import LinePatch.Text.Digit
import LinePatch.Text.EditDistance
import LinePatch.Text.Lines
import LinePatch.Text.Percent
import LinePatch.Text.Printable
import LinePatch.Text.Quoted
import LinePatch.Text.Ranges
import LinePatch.Text.Surrogate
import LinePatch.Text.Utf8
import LinePatch.Timestamp
import LinePatch.Yaml
import LinePatch.Yaml.Compose
import LinePatch.Yaml.Construct
import LinePatch.Yaml.Cursor
import LinePatch.Yaml.Parser
import LinePatch.Yaml.Problem
import LinePatch.Yaml.Reader
import LinePatch.Yaml.Resolve
import LinePatch.Yaml.Scalar
import LinePatch.Yaml.Scanner
import LinePatch.Yaml.Token
import LinePatch.Proofs.Linking
import LinePatch.Proofs.Reorder
import LinePatch.Proofs.ReadBack
import LinePatch.Proofs.RunBalance
import LinePatch.Proofs.Layout
import LinePatch.Proofs.EmptyPatch
import LinePatch.Proofs.EditScript
import LinePatch.Proofs.RoundTrip
import LinePatch.Proofs.BlockRun
import LinePatch.Proofs.SwappedPair
import LinePatch.Proofs.RunOrder
import LinePatch.Proofs.MovedLines
import LinePatch.Proofs.Provenance
import LinePatch.Proofs.BalanceReference
import LinePatch.Proofs.ContextCut
import LinePatch.Proofs.FenceScan
import LinePatch.Proofs.SnippetPlacement
import LinePatch.Proofs.NeighbourOrder
import LinePatch.Proofs.OptionMerge
