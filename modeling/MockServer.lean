import MockServer.Build.Builder
import MockServer.Build.Fault
import MockServer.Build.Report
import MockServer.Build.Tool
import MockServer.Build.Toolchain
import MockServer.Build.Workspace
import MockServer.CommandLine.Arguments
import MockServer.CommandLine.Ending
import MockServer.CommandLine.Execute
import MockServer.CommandLine.Help
import MockServer.CommandLine.Parameter
import MockServer.CommandLine.Prompt
import MockServer.CommandLine.Word
import MockServer.Config.Basic
import MockServer.Config.Layer
import MockServer.Endpoint.Basic
import MockServer.Endpoint.Record
import MockServer.Endpoint.Status
import MockServer.FileTree.Basic
import MockServer.FileTree.Fault
import MockServer.FileTree.Operations
import MockServer.FileTree.Resolve
import MockServer.Json.Basic
import MockServer.Json.Described
import MockServer.Json.Fault
import MockServer.Json.Numeral
import MockServer.Json.Printer
import MockServer.Json.Reader
import MockServer.Json.StringReader
import MockServer.Log.Event
import MockServer.Log.Filter
import MockServer.Log.Line
import MockServer.Log.Setup
import MockServer.Machine
import MockServer.Main
import MockServer.Number.Binary64
import MockServer.Number.Digits
import MockServer.Number.Notation
import MockServer.Number.Power
import MockServer.Number.Reading
import MockServer.Number.Shortest
import MockServer.Path
import MockServer.Platform
import MockServer.Program.Basic
import MockServer.Program.Literal
import MockServer.Program.MainFile
import MockServer.Program.Synthesis
import MockServer.Program.Write
import MockServer.Project.Basic
import MockServer.Project.Document
import MockServer.Project.Load
import MockServer.Project.Name
import MockServer.Proofs.Json.Raw
import MockServer.Proofs.Keyed
import MockServer.Proofs.Number.Numeral
import MockServer.Proofs.Number.Shortest
import MockServer.Proofs.Program.Documentation
import MockServer.Proofs.Program.Embedded
import MockServer.Proofs.Program.Interpreted
import MockServer.Proofs.Program.Lines
import MockServer.Proofs.RouteTable.FirstSeen
import MockServer.Proofs.Text.Utf8
import MockServer.RouteTable.Basic
import MockServer.RouteTable.Listing
import MockServer.RouteTable.Notices
import MockServer.Served.Basic
import MockServer.Served.Delay
import MockServer.Served.HeaderText
import MockServer.Shell.Arithmetic
import MockServer.Shell.Command
import MockServer.Shell.Expansion
import MockServer.Shell.Launcher
import MockServer.Shell.Lookup
import MockServer.Shell.Printing
import MockServer.Shell.Reader
import MockServer.Shell.Redirect
import MockServer.Shell.Run
import MockServer.Shell.State
import MockServer.Shell.Utility
import MockServer.Text.Ascii
import MockServer.Text.Blank
import MockServer.Text.Bytes
import MockServer.Text.Hex
import MockServer.Text.LowerCase
import MockServer.Text.Printable
import MockServer.Text.Quoted
import MockServer.Text.Truth
import MockServer.Toml.Fault
import MockServer.Toml.Reader
import MockServer.Toml.Scalar
import MockServer.Toml.StringReader
import MockServer.Toml.Table
import MockServer.Toml.Value
import MockServer.Yaml.BlockScalar
import MockServer.Yaml.Cursor
import MockServer.Yaml.Document
import MockServer.Yaml.Folding
import MockServer.Yaml.Lexer
import MockServer.Yaml.Node
import MockServer.Yaml.PlainScalar
import MockServer.Yaml.PlainValue
import MockServer.Yaml.Property
import MockServer.Yaml.QuotedScalar
import MockServer.Yaml.Token
import MockServer.Yaml.Value
import MockServer.Proofs.Endpoint.Canonical
import MockServer.Proofs.Machine.Task
import MockServer.Proofs.Program.Files
import MockServer.Proofs.Build.Workspace
import MockServer.Proofs.Build.Course
import MockServer.Proofs.Path
import MockServer.Proofs.Build.Faults
import MockServer.Proofs.Build.Stages
import MockServer.Proofs.Build.Session
import MockServer.Proofs.FileTree.Resolve
import MockServer.Proofs.FileTree.Frame
import MockServer.Proofs.Build.Footprint
import MockServer.Proofs.Program.ReadBack
import MockServer.Proofs.RouteTable.Outline
import MockServer.Proofs.Program.RouteLines
import MockServer.Proofs.Program.HalfWritten
import MockServer.Proofs.Json.Printed
import MockServer.Proofs.CommandLine.Reports
import MockServer.Proofs.Served.Headers
import MockServer.Proofs.Number.Rounding
import MockServer.Proofs.Number.Spelling
import MockServer.Proofs.Endpoint.Status
import MockServer.Proofs.Served.Delay
import MockServer.Proofs.Served.Precedence
import MockServer.Proofs.RouteTable.Fates
import MockServer.Proofs.Build.Streams
import MockServer.Proofs.Program.Writings
import MockServer.Proofs.Number.Nearest
import MockServer.Proofs.Number.RoundTrip
import MockServer.Proofs.Number.Decimal
import MockServer.Proofs.Served.HeaderText
import MockServer.Proofs.Config.Layering
import MockServer.Proofs.Path.Absolute
import MockServer.Proofs.Build.Isolation
import MockServer.Proofs.Build.Target
import MockServer.Proofs.FileTree.Follow
import MockServer.Proofs.Config.Location
import MockServer.Proofs.Project.Slug
import MockServer.Proofs.CommandLine.Prompt
import MockServer.Proofs.Json.Read
import MockServer.Proofs.Project.Document
import MockServer.Proofs.RouteTable.Listing
import MockServer.Proofs.RouteTable.Exchange
