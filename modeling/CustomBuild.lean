import CustomBuild.Build
import CustomBuild.Build.Tokens
import CustomBuild.Command.Basic
import CustomBuild.Command.Grammar
import CustomBuild.Command.Record
import CustomBuild.Command.Tokens
import CustomBuild.CommandLine.Options
import CustomBuild.CommandLine.Program
import CustomBuild.CommandLine.Usage
import CustomBuild.Decimal.Shortest
import CustomBuild.Delivery
import CustomBuild.Entry
import CustomBuild.Entry.Record
import CustomBuild.FileTree.Basic
import CustomBuild.FileTree.Path
import CustomBuild.Fragment
import CustomBuild.Graph.Order
import CustomBuild.Graph.Reach
import CustomBuild.Json.Basic
import CustomBuild.Json.Display
import CustomBuild.Json.Misuse
import CustomBuild.Json.Reader
import CustomBuild.Json.Spelling
import CustomBuild.Main
import CustomBuild.NameSet
import CustomBuild.Packaged
import CustomBuild.Packaged.Arrays
import CustomBuild.Packaged.Chaining
import CustomBuild.Packaged.Collections
import CustomBuild.Packaged.Functions
import CustomBuild.Packaged.Internal
import CustomBuild.Packaged.Manifest
import CustomBuild.Packaged.Objects
import CustomBuild.Packaged.Utilities
import CustomBuild.Proofs.Build.Boundary
import CustomBuild.Proofs.Build.Completion
import CustomBuild.Proofs.Build.Footprint
import CustomBuild.Proofs.Build.Independent
import CustomBuild.Proofs.Build.Loaded
import CustomBuild.Proofs.Build.Making
import CustomBuild.Proofs.Build.Printing
import CustomBuild.Proofs.Build.Reduction
import CustomBuild.Proofs.Build.Stripped
import CustomBuild.Proofs.Command.Alike
import CustomBuild.Proofs.Command.Folding
import CustomBuild.Proofs.Command.Leftover
import CustomBuild.Proofs.Command.Rearrangement
import CustomBuild.Proofs.CommandLine.Agreement
import CustomBuild.Proofs.CommandLine.Origin
import CustomBuild.Proofs.CommandLine.Reading
import CustomBuild.Proofs.CommandLine.Status
import CustomBuild.Proofs.FileTree.Calls
import CustomBuild.Proofs.FileTree.Failure
import CustomBuild.Proofs.FileTree.Fate
import CustomBuild.Proofs.FileTree.Together
import CustomBuild.Proofs.Fragment.Marker
import CustomBuild.Proofs.Fragment.NearMiss
import CustomBuild.Proofs.Fragment.Sections
import CustomBuild.Proofs.Fragment.Written
import CustomBuild.Proofs.Graph.Cycle
import CustomBuild.Proofs.Graph.Earliest
import CustomBuild.Proofs.Graph.Order
import CustomBuild.Proofs.Graph.Reach
import CustomBuild.Proofs.Graph.Worklist
import CustomBuild.Proofs.Json.Order
import CustomBuild.Proofs.Packaged
import CustomBuild.Proofs.Records
import CustomBuild.Proofs.Reduction.Deletion
import CustomBuild.Proofs.Reduction.LineCount
import CustomBuild.Proofs.Reduction.Normal
import CustomBuild.Proofs.Reduction.Program
import CustomBuild.Proofs.Reduction.Strip
import CustomBuild.Proofs.Reduction.Twice
import CustomBuild.Proofs.Registry.Acceptance
import CustomBuild.Proofs.Registry.Accepted
import CustomBuild.Proofs.Registry.Arrangement
import CustomBuild.Proofs.Registry.Checking
import CustomBuild.Proofs.Registry.Extension
import CustomBuild.Proofs.Registry.Loading
import CustomBuild.Proofs.Registry.Tables
import CustomBuild.Proofs.Script.Banner
import CustomBuild.Proofs.Script.Blame
import CustomBuild.Proofs.Script.Closed
import CustomBuild.Proofs.Script.Core
import CustomBuild.Proofs.Script.Emission
import CustomBuild.Proofs.Script.Extension
import CustomBuild.Proofs.Script.Helpers
import CustomBuild.Proofs.Script.Omission
import CustomBuild.Proofs.Script.Surface
import CustomBuild.Proofs.Script.Wrapper
import CustomBuild.Proofs.Selection
import CustomBuild.Proofs.Selection.Spelling
import CustomBuild.Proofs.Selection.Unknown
import CustomBuild.Proofs.Steps
import CustomBuild.Proofs.Text.Breaks
import CustomBuild.Proofs.Text.Lines
import CustomBuild.Reduction.Contract
import CustomBuild.Reduction.Reducer
import CustomBuild.Reduction.Strip
import CustomBuild.Registry.Basic
import CustomBuild.Registry.Fault
import CustomBuild.Registry.Manifest
import CustomBuild.Registry.Record
import CustomBuild.Report
import CustomBuild.Script.Banner
import CustomBuild.Script.Basic
import CustomBuild.Script.Emission
import CustomBuild.Script.Exposure
import CustomBuild.Script.Indent
import CustomBuild.Script.Record
import CustomBuild.Selection
import CustomBuild.Selection.Record
import CustomBuild.Table
import CustomBuild.Text.Basic
import CustomBuild.Text.Blank
import CustomBuild.Text.Digit
import CustomBuild.Text.LineBreak
import CustomBuild.Text.Printable
import CustomBuild.Text.Quoted
import CustomBuild.Text.Range
import CustomBuild.Text.ShellWords
import CustomBuild.Text.StandIn
import CustomBuild.Text.UpperCase
import CustomBuild.Text.WordChar
import CustomBuild.Vocabulary
