import Mend.BytePath
import Mend.CommandLine.Grammar
import Mend.CommandLine.Request
import Mend.CommandLine.Run
import Mend.Config
import Mend.Environment
import Mend.Facts.Database
import Mend.Facts.Decode
import Mend.Facts.Error
import Mend.Facts.Exporter
import Mend.Facts.Fact
import Mend.Facts.Print
import Mend.Facts.Record
import Mend.Facts.Source
import Mend.Facts.Store
import Mend.Facts.Table
import Mend.Files.Error
import Mend.Files.Tree
import Mend.Json.Number
import Mend.Json.Print
import Mend.Json.Reading
import Mend.Json.Scan
import Mend.Main
import Mend.Patch.Candidates
import Mend.Patch.Choice
import Mend.Patch.Resolve
import Mend.Patch.Template
import Mend.Patch.Term
import Mend.Path
import Mend.Process.Arithmetic
import Mend.Process.Command
import Mend.Process.Octets
import Mend.Process.Regex
import Mend.Process.Regex.Parser
import Mend.Process.Script
import Mend.Process.Script.Reader
import Mend.Process.Shell
import Mend.Process.Shell.Builtin
import Mend.Process.Shell.Expansion
import Mend.Process.Shell.Field
import Mend.Process.Shell.Process
import Mend.Process.Shell.Program
import Mend.Process.Shell.Redirection
import Mend.Process.Shell.State
import Mend.Process.Signal
import Mend.Process.Utility
import Mend.Process.Utility.Basic
import Mend.Process.Utility.Condition
import Mend.Process.Utility.Edit
import Mend.Process.Utility.Edit.Language
import Mend.Process.Utility.Files
import Mend.Process.Utility.Lines
import Mend.Process.Utility.Printing
import Mend.Process.Utility.Real
import Mend.Process.Utility.Search
import Mend.Process.Utility.Test
import Mend.Process.Utility.Words
import Mend.Proofs.CommandLine.Database
import Mend.Proofs.Facts.Collect
import Mend.Proofs.Facts.Counts
import Mend.Proofs.Facts.Enclosing
import Mend.Proofs.Facts.Exports
import Mend.Proofs.Facts.Grammar
import Mend.Proofs.Facts.Ingest
import Mend.Proofs.Facts.Insertion
import Mend.Proofs.Facts.Links
import Mend.Proofs.Facts.Lookup
import Mend.Proofs.Facts.Numbers
import Mend.Proofs.Facts.RoundTrip
import Mend.Proofs.Facts.Scalars
import Mend.Proofs.Facts.Session
import Mend.Proofs.Facts.Statements
import Mend.Proofs.Facts.Table
import Mend.Proofs.Files.BytePath
import Mend.Proofs.Files.Joining
import Mend.Proofs.Files.Path
import Mend.Proofs.Files.Spelling
import Mend.Proofs.Files.Tree
import Mend.Proofs.Json.Grammar
import Mend.Proofs.Json.Natural
import Mend.Proofs.Json.Printing
import Mend.Proofs.Json.Reading
import Mend.Proofs.Patch.Balance
import Mend.Proofs.Patch.Concretize
import Mend.Proofs.Patch.Count
import Mend.Proofs.Patch.Growth
import Mend.Proofs.Patch.Lookups
import Mend.Proofs.Patch.Meaning
import Mend.Proofs.Patch.View
import Mend.Proofs.Repair.AutoPatch
import Mend.Proofs.Repair.Backup
import Mend.Proofs.Repair.Bystanders
import Mend.Proofs.Repair.Filling
import Mend.Proofs.Repair.Locating
import Mend.Proofs.Repair.Refusal
import Mend.Proofs.Repair.Registration
import Mend.Proofs.Repair.Search
import Mend.Proofs.Repair.TestCase
import Mend.Proofs.Repair.Trial
import Mend.Proofs.Source.Brackets
import Mend.Proofs.Source.Coordinate
import Mend.Proofs.Source.Offset
import Mend.Proofs.Source.Splice
import Mend.Proofs.Source.Undo
import Mend.Proofs.Steps
import Mend.Proofs.Text.Numeral
import Mend.Proofs.Text.Utf8
import Mend.Repair.Backup
import Mend.Repair.Engine
import Mend.Repair.Error
import Mend.Repair.Target
import Mend.Repair.TestCase
import Mend.Source.Location
import Mend.Source.Splice
import Mend.Text.Blank
import Mend.Text.Decimal
import Mend.Text.Lines
import Mend.Text.Octets
import Mend.Text.Printable
import Mend.Text.Quoted
import Mend.Text.Shortest
import Mend.Text.Utf8
import Mend.Toml.Document
import Mend.Toml.Scalar
import Mend.Toml.Value
import Mend.Total
