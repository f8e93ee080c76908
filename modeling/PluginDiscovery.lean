import PluginDiscovery.Abi
import PluginDiscovery.Cli.Invocation
import PluginDiscovery.Cli.Listing
import PluginDiscovery.Cli.LogFilter
import PluginDiscovery.Cli.LogLine
import PluginDiscovery.Cli.Program
import PluginDiscovery.Config.Decode
import PluginDiscovery.Config.Environment
import PluginDiscovery.Config.KeyPath
import PluginDiscovery.Config.Load
import PluginDiscovery.Config.Merge
import PluginDiscovery.Config.Schema
import PluginDiscovery.Config.Setting
import PluginDiscovery.Config.Template
import PluginDiscovery.Decimal.Binary64
import PluginDiscovery.Decimal.Shortest
import PluginDiscovery.Engine.Context
import PluginDiscovery.Engine.Description
import PluginDiscovery.Engine.Discovery
import PluginDiscovery.Engine.Event
import PluginDiscovery.Engine.Layout
import PluginDiscovery.Engine.Manifest
import PluginDiscovery.Engine.Module
import PluginDiscovery.Engine.Native
import PluginDiscovery.Engine.Operation
import PluginDiscovery.Engine.PluginRegistry
import PluginDiscovery.Engine.Report
import PluginDiscovery.Engine.Scan
import PluginDiscovery.Engine.TypeMask
import PluginDiscovery.Engine.TypeRegistry
import PluginDiscovery.Error.Application
import PluginDiscovery.Error.Data
import PluginDiscovery.Error.Plugin
import PluginDiscovery.FileTree.Basic
import PluginDiscovery.FileTree.Edit
import PluginDiscovery.FileTree.Path
import PluginDiscovery.Json.Basic
import PluginDiscovery.Json.Printer
import PluginDiscovery.Json.Reader
import PluginDiscovery.Library
import PluginDiscovery.Main
import PluginDiscovery.OsError
import PluginDiscovery.Proofs.Classification
import PluginDiscovery.Proofs.DiscoveryReference
import PluginDiscovery.Proofs.Handles
import PluginDiscovery.Proofs.MaskBits
import PluginDiscovery.Proofs.ModuleFiles
import PluginDiscovery.Proofs.Runs
import PluginDiscovery.Proofs.Steps
import PluginDiscovery.Proofs.UniqueNames
import PluginDiscovery.Proofs.Utf8Encoding
import PluginDiscovery.SharedObject
import PluginDiscovery.Text.Alphanumeric
import PluginDiscovery.Text.Blank
import PluginDiscovery.Text.CharWidth
import PluginDiscovery.Text.CodePoints
import PluginDiscovery.Text.Columns
import PluginDiscovery.Text.Emoji
import PluginDiscovery.Text.KeyValue
import PluginDiscovery.Text.Lines
import PluginDiscovery.Text.LowerCase
import PluginDiscovery.Text.Outline
import PluginDiscovery.Text.Printable
import PluginDiscovery.Text.Quoted
import PluginDiscovery.Text.Utf8
import PluginDiscovery.Toml.Reader
import PluginDiscovery.Toml.Scalar
import PluginDiscovery.Toml.Table
import PluginDiscovery.Proofs.Privileges
import PluginDiscovery.Proofs.Lockstep
import PluginDiscovery.Proofs.Restart
import PluginDiscovery.Proofs.SingleDiscovery
import PluginDiscovery.Proofs.Reports
import PluginDiscovery.Proofs.TypeLimit
import PluginDiscovery.Proofs.PathOrder
import PluginDiscovery.Proofs.ReorderedTrees
import PluginDiscovery.Proofs.EnumerationOrder
import PluginDiscovery.Proofs.SettingFields
import PluginDiscovery.Proofs.ConfigFields
import PluginDiscovery.Proofs.ConfigLayers
import PluginDiscovery.Proofs.EnvironmentText
import PluginDiscovery.Proofs.VersionArray
import PluginDiscovery.Proofs.WellNamedTrees
import PluginDiscovery.Proofs.Accounting
import PluginDiscovery.Proofs.ListingText
import PluginDiscovery.Proofs.DirectoryPlan
import PluginDiscovery.Proofs.OpenedFiles
import PluginDiscovery.Proofs.EditedTrees
import PluginDiscovery.Proofs.Verdicts
import PluginDiscovery.Proofs.Rescans
import PluginDiscovery.Proofs.ScanOrder
import PluginDiscovery.Proofs.TypeRows
import PluginDiscovery.Proofs.ModuleSuffix
import PluginDiscovery.Proofs.BoundedDump
import PluginDiscovery.Proofs.DumpLines
import PluginDiscovery.Proofs.Containment
import PluginDiscovery.Proofs.EntryPlaces
import PluginDiscovery.Proofs.PlannedLinks
import PluginDiscovery.Proofs.FirstDefect
import PluginDiscovery.Proofs.HonouredTypes
import PluginDiscovery.Proofs.DataRoundTrip
import PluginDiscovery.Proofs.WrittenFiles
import PluginDiscovery.Proofs.ManifestLines
import PluginDiscovery.Proofs.TypeTable
import PluginDiscovery.Proofs.InvalidBytes
import PluginDiscovery.Proofs.MemoryStrings
