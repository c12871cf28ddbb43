import KarelBuild.Build
import KarelBuild.BuildState
import KarelBuild.Command
import KarelBuild.CommandLine
import KarelBuild.Config
import KarelBuild.Fault
import KarelBuild.FileTree
import KarelBuild.FileTree.Files
import KarelBuild.FileTree.Lookup
import KarelBuild.FileTree.Removal
import KarelBuild.Header
import KarelBuild.Host
import KarelBuild.Host.Description
import KarelBuild.Host.Standard
import KarelBuild.Image
import KarelBuild.Include
import KarelBuild.Launch
import KarelBuild.Main
import KarelBuild.Note
import KarelBuild.Options
import KarelBuild.Options.Reading
import KarelBuild.Options.Spelling
import KarelBuild.OsError
import KarelBuild.Path
import KarelBuild.Proofs.Alike
import KarelBuild.Proofs.Answers
import KarelBuild.Proofs.Cleanup
import KarelBuild.Proofs.CommandLine
import KarelBuild.Proofs.Config
import KarelBuild.Proofs.Course
import KarelBuild.Proofs.Dependencies
import KarelBuild.Proofs.DerivedPaths
import KarelBuild.Proofs.DryRun
import KarelBuild.Proofs.FileTree
import KarelBuild.Proofs.FileTree.Confined
import KarelBuild.Proofs.FileTree.Files
import KarelBuild.Proofs.FileTree.Lookup
import KarelBuild.Proofs.FileTree.Removal
import KarelBuild.Proofs.Footprint
import KarelBuild.Proofs.History
import KarelBuild.Proofs.Host
import KarelBuild.Proofs.Include
import KarelBuild.Proofs.Include.Bytes
import KarelBuild.Proofs.Include.Scanner
import KarelBuild.Proofs.MakeRule
import KarelBuild.Proofs.Output
import KarelBuild.Proofs.Path
import KarelBuild.Proofs.Path.Absolute
import KarelBuild.Proofs.Path.Normal
import KarelBuild.Proofs.Pipeline
import KarelBuild.Proofs.Report
import KarelBuild.Proofs.Request
import KarelBuild.Proofs.Rule
import KarelBuild.Proofs.Rule.Parts
import KarelBuild.Proofs.SearchPath
import KarelBuild.Proofs.SearchPath.Order
import KarelBuild.Proofs.SearchPath.Policies
import KarelBuild.Proofs.Session
import KarelBuild.Proofs.Spelling
import KarelBuild.Proofs.Spelling.Shape
import KarelBuild.Proofs.Text.Lines
import KarelBuild.Proofs.Text.Replace
import KarelBuild.Proofs.Text.Utf8
import KarelBuild.Proofs.Workspace
import KarelBuild.Request
import KarelBuild.Rule
import KarelBuild.Runner
import KarelBuild.Runner.Installed
import KarelBuild.Runner.Rehearsed
import KarelBuild.SearchPath
import KarelBuild.Session
import KarelBuild.Shell.Arithmetic
import KarelBuild.Shell.Brace
import KarelBuild.Shell.Builtin
import KarelBuild.Shell.Builtin.Alias
import KarelBuild.Shell.Builtin.Arguments
import KarelBuild.Shell.Builtin.Basic
import KarelBuild.Shell.Builtin.Control
import KarelBuild.Shell.Builtin.Declaring
import KarelBuild.Shell.Builtin.Directory
import KarelBuild.Shell.Builtin.Lines
import KarelBuild.Shell.Builtin.Printing
import KarelBuild.Shell.Builtin.Testing
import KarelBuild.Shell.Builtin.Variable
import KarelBuild.Shell.Calculation
import KarelBuild.Shell.Calendar
import KarelBuild.Shell.Compound
import KarelBuild.Shell.Condition
import KarelBuild.Shell.Descriptor
import KarelBuild.Shell.Evaluation
import KarelBuild.Shell.Expansion
import KarelBuild.Shell.Field
import KarelBuild.Shell.Format
import KarelBuild.Shell.Machine
import KarelBuild.Shell.Metadata
import KarelBuild.Shell.Mode
import KarelBuild.Shell.Pattern
import KarelBuild.Shell.Process
import KarelBuild.Shell.Program
import KarelBuild.Shell.Quoting
import KarelBuild.Shell.Reading
import KarelBuild.Shell.Reading.Command
import KarelBuild.Shell.Reading.Condition
import KarelBuild.Shell.Reading.Token
import KarelBuild.Shell.Reading.Word
import KarelBuild.Shell.Real
import KarelBuild.Shell.Redirect
import KarelBuild.Shell.Regex
import KarelBuild.Shell.Regex.Ordered
import KarelBuild.Shell.Regex.Reading
import KarelBuild.Shell.Schedule
import KarelBuild.Shell.Signal
import KarelBuild.Shell.Simple
import KarelBuild.Shell.Startup
import KarelBuild.Shell.State
import KarelBuild.Shell.Statement
import KarelBuild.Shell.Switch
import KarelBuild.Shell.Utility
import KarelBuild.Shell.Utility.Archive.Members
import KarelBuild.Shell.Utility.Archiving
import KarelBuild.Shell.Utility.Arranging
import KarelBuild.Shell.Utility.Basic
import KarelBuild.Shell.Utility.Blocks
import KarelBuild.Shell.Utility.Calculating
import KarelBuild.Shell.Utility.Checksums
import KarelBuild.Shell.Utility.Collecting
import KarelBuild.Shell.Utility.Comparing
import KarelBuild.Shell.Utility.Comparing.Aligning
import KarelBuild.Shell.Utility.Comparing.Bytes
import KarelBuild.Shell.Utility.Comparing.Reports
import KarelBuild.Shell.Utility.Compressing
import KarelBuild.Shell.Utility.Copying
import KarelBuild.Shell.Utility.Dates
import KarelBuild.Shell.Utility.Deflate.Codes
import KarelBuild.Shell.Utility.Deflate.Matches
import KarelBuild.Shell.Utility.Deflate.Reading
import KarelBuild.Shell.Utility.Deflate.Writing
import KarelBuild.Shell.Utility.Describing
import KarelBuild.Shell.Utility.Digests.Basic
import KarelBuild.Shell.Utility.Digests.Long
import KarelBuild.Shell.Utility.Digests.Short
import KarelBuild.Shell.Utility.Dividing
import KarelBuild.Shell.Utility.Dumping
import KarelBuild.Shell.Utility.Edit
import KarelBuild.Shell.Utility.Edit.Basic
import KarelBuild.Shell.Utility.Edit.Reading
import KarelBuild.Shell.Utility.Encoding
import KarelBuild.Shell.Utility.Facts
import KarelBuild.Shell.Utility.Files
import KarelBuild.Shell.Utility.Filling
import KarelBuild.Shell.Utility.Finding
import KarelBuild.Shell.Utility.Joining
import KarelBuild.Shell.Utility.Lines
import KarelBuild.Shell.Utility.Listing
import KarelBuild.Shell.Utility.Measuring
import KarelBuild.Shell.Utility.Names
import KarelBuild.Shell.Utility.Ordering
import KarelBuild.Shell.Utility.Paths
import KarelBuild.Shell.Utility.Permissions
import KarelBuild.Shell.Utility.Records
import KarelBuild.Shell.Utility.Records.Basic
import KarelBuild.Shell.Utility.Records.Matching
import KarelBuild.Shell.Utility.Records.Memory
import KarelBuild.Shell.Utility.Records.Reading
import KarelBuild.Shell.Utility.Records.Running
import KarelBuild.Shell.Utility.Records.Token
import KarelBuild.Shell.Utility.Records.Value
import KarelBuild.Shell.Utility.Records.Written
import KarelBuild.Shell.Utility.Removing
import KarelBuild.Shell.Utility.Running
import KarelBuild.Shell.Utility.Scaling
import KarelBuild.Shell.Utility.Scripts.Basic
import KarelBuild.Shell.Utility.Scripts.Source
import KarelBuild.Shell.Utility.Search
import KarelBuild.Shell.Utility.Search.Lines
import KarelBuild.Shell.Utility.Sorting
import KarelBuild.Shell.Utility.Streams
import KarelBuild.Shell.Utility.Unpacking
import KarelBuild.Shell.Utility.Usages
import KarelBuild.Shell.Utility.Versions
import KarelBuild.Shell.Variables
import KarelBuild.Shell.World
import KarelBuild.Shell.Written
import KarelBuild.Sink
import KarelBuild.Text
import KarelBuild.Text.Quoted
import KarelBuild.Text.Utf8
import KarelBuild.Toml
import KarelBuild.Toml.Key
import KarelBuild.Toml.Quoted
import KarelBuild.Toml.Reader
import KarelBuild.Toml.Scalar
import KarelBuild.Toml.Table
import KarelBuild.Toml.Value
import KarelBuild.Toolchain
import KarelBuild.Workspace
