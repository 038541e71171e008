import LuaBundle.Trace

/-! # Which file an import means

An imported path is taken from the directory of the module that imports it. If it ends in one of
the module extensions it means exactly that file; if not, the extensions are written behind it one
after the other, and the first file met is meant. Modules are known by their canonical path, which
is how their file is seen from the base directory.
-/

namespace LuaBundle

/-- Where modules are looked for. -/
structure Resolver where
  /-- The directory canonical paths are seen from, in normal form. -/
  base : Path
  /-- The extensions tried, in this order. -/
  extensions : List String
  files : FileView

namespace Resolver

/-- Look for modules from a base directory, however it is spelled. -/
def ofBase (base : Path) (extensions : List String) (files : FileView) : Resolver :=
  ⟨base.normalize, extensions, files⟩

/-- The file of a module. -/
def absolute (resolver : Resolver) (module : String) : Path :=
  (resolver.base.join ⟨module⟩).normalize

/-- The canonical path of a file. -/
def canonical (resolver : Resolver) (path : Path) : String :=
  Path.relativeTo resolver.base (resolver.base.join path).normalize

/-- Whether the last part of an imported path ends in a module extension and is more than that. -/
def hasExtension (resolver : Resolver) (literal : String) : Bool :=
  match (Path.mk literal).fileName? with
  | none => false
  | some name =>
    resolver.extensions.any fun extension =>
      extension.toList.isSuffixOf name && name != extension.toList

/-- The path that an import denotes before any extension is tried. -/
def target (resolver : Resolver) (importer literal : String) : Path :=
  let directory := ((resolver.absolute importer).parent?).getD resolver.base
  (directory.join ⟨literal⟩).normalize

/-- The files an import can mean, in the order they are tried. -/
def candidates (resolver : Resolver) (importer literal : String) : List Path :=
  let target := resolver.target importer literal
  if resolver.hasExtension literal then [target]
  else resolver.extensions.map target.append

/-- Test paths until one is a file. -/
def probe (files : FileView) : List Path → List Event × Option Path
  | [] => ([], none)
  | path :: paths =>
    if files.isFile path then ([.probed path true], some path)
    else
      let (events, found) := probe files paths
      (.probed path false :: events, found)

/-- The canonical path of the module that `importer` imports as `literal`. -/
def resolve (resolver : Resolver) (importer literal : String) : Traced String :=
  let candidates := resolver.candidates importer literal
  match probe resolver.files candidates with
  | (events, some path) =>
    let module := resolver.canonical path
    ⟨.ok module, events ++ [.resolved literal importer module]⟩
  | (events, none) =>
    ⟨.error (.moduleNotFound literal (candidates.map resolver.canonical) importer), events⟩

end Resolver

end LuaBundle
