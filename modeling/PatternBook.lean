import PatternBook.Command.Arguments
import PatternBook.Command.Report
import PatternBook.Command.Run
import PatternBook.Command.Simulation
import PatternBook.Comment.Body
import PatternBook.Comment.Fence
import PatternBook.Comment.Payload
import PatternBook.Comment.Record
import PatternBook.Comment.Scan
import PatternBook.Comment.Tag
import PatternBook.Comment.Token
import PatternBook.Document.Anchor
import PatternBook.Document.Format
import PatternBook.Document.Json
import PatternBook.Document.Markdown
import PatternBook.Event
import PatternBook.FileError
import PatternBook.FileSystem
import PatternBook.Files
import PatternBook.Filter
import PatternBook.Glob.Pattern
import PatternBook.Glob.Walk
import PatternBook.Grouping
import PatternBook.Main
import PatternBook.Module
import PatternBook.Path
import PatternBook.Pattern
import PatternBook.Proofs.Decoration
import PatternBook.Proofs.Layout
import PatternBook.Proofs.Lines
import PatternBook.Proofs.Marks
import PatternBook.Proofs.Payloads
import PatternBook.Proofs.Places
import PatternBook.Proofs.RoundTrip
import PatternBook.Proofs.Standalone
import PatternBook.Proofs.Tokens
import PatternBook.Proofs.WhiteSpace
import PatternBook.Proofs.Written
import PatternBook.SortedMap
import PatternBook.Source
import PatternBook.Text.Alphanumeric
import PatternBook.Text.Basic
import PatternBook.Text.Lowercase
import PatternBook.Text.Quoted
import PatternBook.Text.Ranges
import PatternBook.Tree
import PatternBook.Proofs.Tidy
import PatternBook.Proofs.LineEndings
import PatternBook.Proofs.AnchorRule
import PatternBook.Proofs.Headings
import PatternBook.Proofs.JsonGrammar
import PatternBook.Proofs.JsonDecoding
import PatternBook.Proofs.ArgumentOrder
import PatternBook.Proofs.FailedRuns
import PatternBook.Proofs.Log
import PatternBook.Proofs.Records
import PatternBook.Proofs.Examples
import PatternBook.Proofs.WrittenHeadings
import PatternBook.Proofs.Merging
import PatternBook.Proofs.Filters
import PatternBook.Proofs.CodeBlocks
import PatternBook.Proofs.OnePass
import PatternBook.Proofs.Vote
import PatternBook.Proofs.Parameters
import PatternBook.Proofs.Separators
import PatternBook.Proofs.StrayHeights
import PatternBook.Proofs.PathLeads
import PatternBook.Proofs.GlobWalks
import PatternBook.Proofs.FilesOnce
import PatternBook.Proofs.LineKinds
import PatternBook.Proofs.Heights
import PatternBook.Proofs.Building
