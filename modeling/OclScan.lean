import OclScan.Main
import OclScan.Language
import OclScan.Line
import OclScan.Session
import OclScan.Proofs.Except
import OclScan.Proofs.Cursor
import OclScan.Proofs.Pattern.Reading
import OclScan.Proofs.Pattern.Completeness
import OclScan.Proofs.Pattern.Leftmost
import OclScan.Proofs.Pattern.Span
import OclScan.Proofs.Pattern.Search
import OclScan.Proofs.Pattern.Preference
import OclScan.Proofs.Pattern.PreferredMatch
import OclScan.Proofs.Pattern.Passage
import OclScan.Proofs.Pattern.Cut
import OclScan.Proofs.Pattern.Plan
import OclScan.Proofs.Pattern.Runs
import OclScan.Proofs.Scan.Steps
import OclScan.Proofs.Scan.Moved
import OclScan.Proofs.Scan.Cover
import OclScan.Proofs.Scan.Winner
import OclScan.Proofs.Stream.Lookahead
import OclScan.Proofs.Grammar.Rules
import OclScan.Proofs.Grammar.Names
import OclScan.Proofs.Grammar.Strings
import OclScan.Proofs.Grammar.DocString
import OclScan.Proofs.Grammar.Tokens
import OclScan.Proofs.Grammar.Restart
import OclScan.Proofs.Grammar.Winner
import OclScan.Proofs.Grammar.Reread
import OclScan.Proofs.Scan.Cut
import OclScan.Proofs.Grammar.Cut
import OclScan.Proofs.Resolve.Expansion
import OclScan.Proofs.Resolve.FirstFault
import OclScan.Proofs.Resolve.Resolution
import OclScan.Proofs.Resolve.Locality
import OclScan.Proofs.Pattern.Groups
import OclScan.Proofs.Scan.Parts
import OclScan.Proofs.Stream.Partition
import OclScan.Proofs.Stream.Places
import OclScan.Proofs.Grammar.Emission
import OclScan.Proofs.Grammar.StringTokens
import OclScan.Proofs.Grammar.Words
import OclScan.Proofs.Grammar.DocStringTokens
import OclScan.Proofs.Grammar.Comments
import OclScan.Proofs.Grammar.Operators
import OclScan.Proofs.Grammar.Munch
import OclScan.Proofs.Grammar.Numbers
import OclScan.Proofs.Grammar.Lexeme
import OclScan.Proofs.Grammar.CommentTokens
import OclScan.Proofs.Grammar.NumberTokens
import OclScan.Proofs.Grammar.Gaps
import OclScan.Proofs.Grammar.TextTokens
import OclScan.Proofs.Text.Hex
import OclScan.Proofs.Text.Quoted
import OclScan.Proofs.Line
import OclScan.Proofs.Kind
import OclScan.Proofs.Dump.Raw
import OclScan.Proofs.Dump.Located
import OclScan.Proofs.Stream.Taking
import OclScan.Proofs.Session
import OclScan.Proofs.Json.Text
import OclScan.Proofs.Json.Number
import OclScan.Proofs.Json.Reader
import OclScan.Proofs.Dump.Json
import OclScan.Proofs.CommandLine.Spelling
import OclScan.Proofs.CommandLine.Arguments
import OclScan.Proofs.CommandLine.Report
import OclScan.Proofs.Text.Bytes
import OclScan.Proofs.Line.Lookup
import OclScan.Proofs.Scan.Shadow
import OclScan.Proofs.Resolve.Inclusion
import OclScan.Proofs.Stream.Shadow
import OclScan.Proofs.FileName
import OclScan.Proofs.Glob
import OclScan.Proofs.Language
import OclScan.Proofs.Dump.Counts
import OclScan.Proofs.Dump.Summary
import OclScan.Proofs.Dump.Columns
import OclScan.Proofs.Json.Numeral
import OclScan.Proofs.Json.Members
import OclScan.Proofs.Json.Settled
import OclScan.Proofs.Json.Literal
import OclScan.Proofs.Json.Spelling
import OclScan.Proofs.Json.Reading
import OclScan.Proofs.Json.Writing
import OclScan.Proofs.Options
