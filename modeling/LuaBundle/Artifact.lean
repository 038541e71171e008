import LuaBundle.Instant
import LuaBundle.ModuleGraph
import LuaBundle.Template

/-! # The written bundle

A bundle is one file: an optional header, the declarations, one unevaluated slot for each module in
table order, the loader, the bridge if there is one, and last the entry's own body, which runs when
the bundle does.
-/

namespace LuaBundle

/-- The name bundles and manifests are signed with. -/
def toolName : String := "luapack"

/-- The version bundles and manifests are signed with. -/
def toolVersion : String := "0.1.0"

namespace Artifact

/-- The comment that says what made a bundle and when. -/
def header (made : Instant) : String :=
  "-- Bundled by " ++ toolName ++ " v" ++ toolVersion ++ "\n-- Generated at " ++ made.render ++
    "\n\n"

/-- The declarations in front of the modules. -/
def prelude (loaderName : String) : String :=
  preludeTemplate.fill [("loader", loaderName)]

/-- The declaration of the bridge, which module bodies may call. -/
def bridgeDeclaration (name : String) : String :=
  "local " ++ name ++ "\n"

/-- The loader. -/
def loader (loaderName : String) : String :=
  loaderTemplate.fill [("loader", loaderName)]

/-- The bridge. -/
def bridge (bridge : BridgeSettings) : String :=
  bridgeTemplate.fill [
    ("bridge", bridge.name),
    ("host_loader", bridge.loader),
    ("get_identity", bridge.getIdentity),
    ("set_identity", bridge.setIdentity),
    ("identity", toString bridge.identity.toNat)]

/-- A text with a line feed at its end, which is added if it is not there. -/
def withFinalNewline (text : String) : String :=
  if text.toList.getLast? = some '\n' then text else text ++ "\n"

/-- The slot of one module. Its body runs when the loader first asks for it. -/
def thunk (module : Module) : String :=
  "-- Module: " ++ module.path ++ "\n__modules[" ++ Lua.quoted module.path ++
    "] = \x7b state = \"pending\", thunk = function(...)\n" ++ withFinalNewline module.body ++
    "end \x7d\n\n"

/-- The entry's body. -/
def entry (module : Module) : String :=
  "-- Entry: " ++ module.path ++ "\n" ++ withFinalNewline module.body

/-- Write a bundle. -/
def render (settings : Settings) (made : Instant) (graph : ModuleGraph) : String :=
  (if settings.header then header made else "") ++
    prelude settings.loaderName ++
    (if settings.bridge.enabled then bridgeDeclaration settings.bridge.name else "") ++ "\n" ++
    String.join (graph.modules.modules.map thunk) ++
    loader settings.loaderName ++ "\n" ++
    (if settings.bridge.enabled then bridge settings.bridge ++ "\n" else "") ++
    entry graph.entry

end Artifact

/-- A finished build: the modules and the bundle written from them. -/
structure Bundle where
  graph : ModuleGraph
  artifact : String
  made : Instant
  deriving Repr, DecidableEq

/-- Build the modules an entry reaches and write the bundle. No file is touched. -/
def Builder.bundle (builder : Builder) (entry : Path) (made : Instant) : Traced Bundle :=
  (builder.build entry).bind fun graph =>
    let artifact := Artifact.render builder.settings made graph
    (Traced.tell [.bundled graph.modules.size graph.entry.path artifact.utf8ByteSize]).bind
      fun _ => .pure ⟨graph, artifact, made⟩

end LuaBundle
