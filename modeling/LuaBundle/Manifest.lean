import LuaBundle.Artifact
import LuaBundle.Digest
import LuaBundle.Json.Reader
import LuaBundle.Json.Value

/-! # Build manifests

A manifest lists what went into a bundle: the entry, and for each module in table order the digest
of its file and the modules it imports. It is written as JSON and can be read back.
-/

namespace LuaBundle

/-- What a manifest says about a module. -/
structure ManifestEntry where
  /-- The digest of the module's file. -/
  hash : String
  dependencies : List String
  deriving Repr, DecidableEq

/-- What went into a bundle. -/
structure Manifest where
  tool : String
  version : String
  generatedAt : String
  entry : String
  entryDependencies : List String
  /-- The modules in table order. -/
  modules : List (String × ManifestEntry)
  deriving Repr, DecidableEq

namespace ManifestEntry

/-- The entry of a module. -/
def ofModule (module : Module) : ManifestEntry :=
  ⟨Digest.ofText module.source, module.dependencies⟩

/-- An entry as a JSON value. -/
def toJson (entry : ManifestEntry) : Json :=
  .object [
    ("hash", .string entry.hash),
    ("dependencies", .list (entry.dependencies.map .string))]

end ManifestEntry

namespace Manifest

/-- The manifest of the modules an entry reaches. -/
def ofGraph (graph : ModuleGraph) (made : Instant) : Manifest where
  tool := toolName
  version := toolVersion
  generatedAt := made.render
  entry := graph.entry.path
  entryDependencies := graph.entry.dependencies
  modules := graph.modules.modules.map fun module => (module.path, ManifestEntry.ofModule module)

/-- A manifest as a JSON value. -/
def toJson (manifest : Manifest) : Json :=
  .object [
    ("tool", .string manifest.tool),
    ("version", .string manifest.version),
    ("generatedAt", .string manifest.generatedAt),
    ("entry", .string manifest.entry),
    ("entryDependencies", .list (manifest.entryDependencies.map .string)),
    ("modules", .object (manifest.modules.map fun module => (module.1, module.2.toJson)))]

/-- A manifest as a JSON text over several lines. -/
def render (manifest : Manifest) : String :=
  String.ofList (manifest.toJson.pretty 0)

end Manifest

/-! ## Reading manifests -/

open Json (Reader)
open Json.Reader (FieldShape RecordShape)

/-- A manifest's entry as far as it is given. -/
structure ManifestEntryDraft where
  hash : Option String := none
  dependencies : Option (List String) := none

/-- How an entry is read. Both fields are needed. -/
def ManifestEntry.shape : RecordShape ManifestEntryDraft ManifestEntry where
  title := "struct ManifestEntry"
  start := {}
  fields := [
    ⟨"hash", (·.hash.isSome),
      fun draft => Reader.string.map fun value => { draft with hash := some value }⟩,
    ⟨"dependencies", (·.dependencies.isSome),
      fun draft => (Reader.list Reader.string).map fun value =>
        { draft with dependencies := some value }⟩]
  finish draft :=
    match draft.hash, draft.dependencies with
    | none, _ => .error (0, "hash")
    | _, none => .error (1, "dependencies")
    | some hash, some dependencies => .ok ⟨hash, dependencies⟩

/-- A manifest as far as it is given. -/
structure ManifestDraft where
  tool : Option String := none
  version : Option String := none
  generatedAt : Option String := none
  entry : Option String := none
  entryDependencies : Option (List String) := none
  modules : Option (List (String × ManifestEntry)) := none

/-- How a manifest is read. All fields are needed. -/
def Manifest.shape : RecordShape ManifestDraft Manifest where
  title := "struct BuildManifest"
  start := {}
  fields := [
    ⟨"tool", (·.tool.isSome),
      fun draft => Reader.string.map fun value => { draft with tool := some value }⟩,
    ⟨"version", (·.version.isSome),
      fun draft => Reader.string.map fun value => { draft with version := some value }⟩,
    ⟨"generatedAt", (·.generatedAt.isSome),
      fun draft => Reader.string.map fun value => { draft with generatedAt := some value }⟩,
    ⟨"entry", (·.entry.isSome),
      fun draft => Reader.string.map fun value => { draft with entry := some value }⟩,
    ⟨"entryDependencies", (·.entryDependencies.isSome),
      fun draft => (Reader.list Reader.string).map fun value =>
        { draft with entryDependencies := some value }⟩,
    ⟨"modules", (·.modules.isSome),
      fun draft => (Reader.dictionary (Reader.record ManifestEntry.shape)).map fun value =>
        { draft with modules := some value }⟩]
  finish draft :=
    match draft.tool, draft.version, draft.generatedAt, draft.entry, draft.entryDependencies,
      draft.modules with
    | none, _, _, _, _, _ => .error (0, "tool")
    | _, none, _, _, _, _ => .error (1, "version")
    | _, _, none, _, _, _ => .error (2, "generatedAt")
    | _, _, _, none, _, _ => .error (3, "entry")
    | _, _, _, _, none, _ => .error (4, "entryDependencies")
    | _, _, _, _, _, none => .error (5, "modules")
    | some tool, some version, some generatedAt, some entry, some entryDependencies,
      some modules => .ok ⟨tool, version, generatedAt, entry, entryDependencies, modules⟩

/-- The manifest that a JSON text gives. -/
def Manifest.parse (text : String) : Except Json.Fault Manifest :=
  (Reader.record Manifest.shape).parse text

end LuaBundle
