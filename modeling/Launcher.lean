-- SUMMARY: The launcher: discovery of an installation, its search path, and the hand-off to the application.
import Launcher.Application
import Launcher.Archive
import Launcher.Assembly
import Launcher.Checkout
import Launcher.CommandLine.Boot
import Launcher.CommandLine.Completion
import Launcher.CommandLine.Options
import Launcher.CommandLine.Paths
import Launcher.Context
import Launcher.Decimal.Binary
import Launcher.Decimal.Nearest
import Launcher.Decimal.Places
import Launcher.Decimal.Shortest
import Launcher.Description
import Launcher.EntryPoint
import Launcher.Environment
import Launcher.Error
import Launcher.FileSystem.Basic
import Launcher.FileSystem.Canonical
import Launcher.FileSystem.Lookup
import Launcher.HandOff
import Launcher.Home
import Launcher.Import.Dotted
import Launcher.Import.Loading
import Launcher.Import.Provided
import Launcher.Import.State
import Launcher.Json.Basic
import Launcher.Json.Display
import Launcher.Json.Order
import Launcher.Json.Printer
import Launcher.Json.Reader
import Launcher.Locator
import Launcher.Logging.Configure
import Launcher.Logging.Instant
import Launcher.Logging.Level
import Launcher.Logging.Record
import Launcher.Logging.Reference
import Launcher.Logging.Registry
import Launcher.Logging.Setting
import Launcher.Logging.Template
import Launcher.Main
import Launcher.Notice
import Launcher.Object.Basic
import Launcher.Object.Call
import Launcher.Object.Class
import Launcher.Object.Inherent
import Launcher.Object.Manual
import Launcher.Object.Manual.Container
import Launcher.Object.Manual.Entry
import Launcher.Object.Manual.Kind
import Launcher.Object.Manual.Number
import Launcher.Object.Manual.Operation
import Launcher.Object.Manual.Text
import Launcher.Object.Member
import Launcher.Object.Summary
import Launcher.Path
import Launcher.Platform
import Launcher.SearchPath
import Launcher.Sorting
import Launcher.Text.Blank
import Launcher.Text.Case
import Launcher.Text.Control
import Launcher.Text.Digit
import Launcher.Text.Hex
import Launcher.Text.Identifier
import Launcher.Text.Octets
import Launcher.Text.Percent
import Launcher.Text.Pieces
import Launcher.Text.Placeholder
import Launcher.Text.Quoted
import Launcher.Text.Visible
import Launcher.Text.Word
import Launcher.World
import Launcher.Proofs.Text.Percent
import Launcher.Proofs.Locator.Conversion
import Launcher.Proofs.Locator.Location
import Launcher.Proofs.FileSystem.Listing
import Launcher.Proofs.FileSystem.Relisting
import Launcher.Proofs.Archive.Scan
import Launcher.Proofs.Archive.Order
import Launcher.Proofs.Archive.Exact
import Launcher.Proofs.Assembly.Partition
import Launcher.Proofs.Assembly.Shares
import Launcher.Proofs.SearchPath.Extension
import Launcher.Proofs.World.Contexts
import Launcher.Proofs.SearchPath.Atomicity
import Launcher.Proofs.SearchPath.Agreement
import Launcher.Proofs.SearchPath.History
import Launcher.Proofs.SearchPath.Decoding
import Launcher.Proofs.SearchPath.Precedence
import Launcher.Proofs.SearchPath.Reproducible
import Launcher.Proofs.Launch.Tame
import Launcher.Proofs.Launch.Steady
import Launcher.Proofs.Import.Tame
import Launcher.Proofs.Logging.Handlers
import Launcher.Proofs.Logging.Tame
import Launcher.Proofs.HandOff.Charge
import Launcher.Proofs.HandOff.Course
import Launcher.Proofs.HandOff.Run
import Launcher.Proofs.Import.Finders
import Launcher.Proofs.FileSystem.Canonical
import Launcher.Proofs.FileSystem.Reaching
import Launcher.Proofs.FileSystem.Resolution
import Launcher.Proofs.FileSystem.Settling
import Launcher.Proofs.FileSystem.Entries
import Launcher.Proofs.Home.Discovery
import Launcher.Proofs.Home.Reading
import Launcher.Proofs.Launch.Startup
import Launcher.Proofs.HandOff.Stages
import Launcher.Proofs.HandOff.Properties
import Launcher.Proofs.Decimal.Nearest
import Launcher.Proofs.Json.Scalars
import Launcher.Proofs.Json.Fractions
import Launcher.Proofs.Json.RoundTrip
import Launcher.Proofs.CommandLine.Status
import Launcher.Proofs.CommandLine.Summary
import Launcher.Proofs.Logging.Calendar
import Launcher.Proofs.Logging.Lines
import Launcher.Proofs.Logging.DefaultHandler
import Launcher.Proofs.EntryPoint.Naming
import Launcher.Proofs.EntryPoint.Attributes
import Launcher.Proofs.Home.Anchoring
import Launcher.Proofs.Launch.DirectStart
import Launcher.Proofs.Launch.Rediscovery
