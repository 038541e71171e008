import LuaBundle.Artifact
import LuaBundle.BytePath
import LuaBundle.CommandLine
import LuaBundle.Decimal.Shortest
import LuaBundle.Diagnostic
import LuaBundle.Digest
import LuaBundle.Disk
import LuaBundle.Files
import LuaBundle.ImportCall
import LuaBundle.Instant
import LuaBundle.Json.Fault
import LuaBundle.Json.Number
import LuaBundle.Json.Reader
import LuaBundle.Json.Scan
import LuaBundle.Json.Skip
import LuaBundle.Json.Value
import LuaBundle.Linker
import LuaBundle.Log
import LuaBundle.LogFilter
import LuaBundle.Lua.Identifier
import LuaBundle.Lua.ShortString
import LuaBundle.Main
import LuaBundle.Manifest
import LuaBundle.ModuleGraph
import LuaBundle.Path
import LuaBundle.Program
import LuaBundle.Resolver
import LuaBundle.Settings
import LuaBundle.Settings.Draft
import LuaBundle.Settings.File
import LuaBundle.Settings.Json
import LuaBundle.Settings.Yaml
import LuaBundle.Template
import LuaBundle.Text.Alphanumeric
import LuaBundle.Text.Basic
import LuaBundle.Text.Blank
import LuaBundle.Text.Encoded
import LuaBundle.Text.Quoted
import LuaBundle.Text.Unshown
import LuaBundle.Trace
import LuaBundle.TypeDeclaration
import LuaBundle.Yaml.Cursor
import LuaBundle.Yaml.Node
import LuaBundle.Yaml.Scalar
import LuaBundle.Yaml.Token
import LuaBundle.Proofs.Path.Normal
import LuaBundle.Proofs.Resolution
import LuaBundle.Proofs.Linking
import LuaBundle.Proofs.Traversal
import LuaBundle.Proofs.ImportTree
import LuaBundle.Proofs.Discovery
import LuaBundle.Proofs.ClosedBundle
import LuaBundle.Proofs.Circles
import LuaBundle.Proofs.Success
import LuaBundle.Proofs.BaseDirectory
import LuaBundle.Proofs.Trail
import LuaBundle.Proofs.Reads
import LuaBundle.Proofs.Replay
import LuaBundle.Proofs.Remarks
import LuaBundle.Proofs.Subtree
import LuaBundle.Proofs.Relocation
import LuaBundle.Proofs.Comments
import LuaBundle.Proofs.Templates
import LuaBundle.Proofs.Capture
import LuaBundle.Proofs.FailedRuns
import LuaBundle.Proofs.SettledSettings
import LuaBundle.Proofs.Watching
import LuaBundle.Proofs.Json.Reading
import LuaBundle.Proofs.ManifestReading
import LuaBundle.Proofs.Bytes
import LuaBundle.Proofs.CallCuts
import LuaBundle.Proofs.CallSites
import LuaBundle.Proofs.Rewriting
import LuaBundle.Proofs.Rescan
import LuaBundle.Proofs.Forwarding
import LuaBundle.Proofs.Probing
import LuaBundle.Proofs.Json.Passing
import LuaBundle.Proofs.Json.Records
import LuaBundle.Proofs.SettingsReading
import LuaBundle.Proofs.Path.Joining
import LuaBundle.Proofs.TypeGrammar
import LuaBundle.Proofs.OneLineMessages
import LuaBundle.Proofs.Decoding
import LuaBundle.Proofs.TextPaths
import LuaBundle.Proofs.BytePaths
import LuaBundle.Proofs.Substitution
import LuaBundle.Proofs.Boundaries
import LuaBundle.Proofs.ByteOffsets
import LuaBundle.Proofs.OpenModules
