import LuaBundle.Linker
import LuaBundle.TypeDeclaration

/-! # The modules an entry reaches

A build reads the entry, then the modules it imports in the order of their imports, and below each
of them the modules that one imports before going on to the next. A module is entered in the table
when it is first met, so the table is in the order of discovery; met again it is passed over. A
module that is imported while it is still open closes a circle and stops the build.

The build ends because a module is only opened if its file can be read and is not open already, so
the files that are not open become fewer with every level of imports.
-/

namespace LuaBundle

/-- A module of a bundle. -/
structure Module where
  /-- The canonical path, by which the module is known. -/
  path : String
  /-- The text of the file. -/
  source : String
  /-- The text with its imports linked. -/
  body : String
  /-- The modules imported by literal paths, in the order of the calls, repetitions kept. -/
  dependencies : List String
  deriving Repr, DecidableEq

/-- Modules in the order they were entered, each path once. -/
structure ModuleTable where
  modules : List Module := []
  deriving Repr, DecidableEq

namespace ModuleTable

/-- The module with a path. -/
def get? (table : ModuleTable) (path : String) : Option Module :=
  table.modules.find? (·.path == path)

/-- Whether a module with a path is held. -/
def contains (table : ModuleTable) (path : String) : Bool :=
  table.modules.any (·.path == path)

/-- Enter a module. One with the same path is replaced where it stands. -/
def insert (table : ModuleTable) (module : Module) : ModuleTable :=
  if table.contains module.path then
    ⟨table.modules.map fun held => if held.path == module.path then module else held⟩
  else ⟨table.modules ++ [module]⟩

/-- How many modules are held. -/
def size (table : ModuleTable) : Nat :=
  table.modules.length

end ModuleTable

/-- An entry and the modules it reaches, which the entry is not one of. -/
structure ModuleGraph where
  modules : ModuleTable
  entry : Module
  deriving Repr, DecidableEq

/-- What a build is made from. -/
structure Builder where
  settings : Settings
  resolver : Resolver

/-- What a build has found so far. -/
structure Progress where
  table : ModuleTable := {}
  /-- The files of modules that are done, and so are all they import. -/
  visited : List Location := []
  deriving Repr, DecidableEq

/-- The modules that are open, outermost first, each with its file. -/
abbrev OpenModules := List (Location × String)

namespace OpenModules

/-- The circle that is closed by importing an open module again. -/
def cycleThrough (opened : OpenModules) (file : Location) (module : String) : List String :=
  (opened.dropWhile (·.1 != file)).map (·.2) ++ [module]

end OpenModules

namespace Builder

/-- A build from files below a base directory. -/
def ofBase (settings : Settings) (files : FileView) (base : Path) : Builder :=
  ⟨settings, .ofBase base settings.extensions files⟩

/-- How imports are linked in this build. -/
def linker (builder : Builder) : Linker :=
  ⟨builder.resolver, builder.settings.importFunction, builder.settings.loaderName⟩

/-- What is remarked on a module's source. -/
def remarks (builder : Builder) (module : String) (source : String) : List Event :=
  if builder.settings.typeWarnings then
    (TypeDeclaration.warnings module source.toList).map .remarked
  else []

/-- The module that a source text is, once its lines are remarked on and its imports linked. -/
def moduleOf (builder : Builder) (module : String) (source : String) : Traced Module :=
  (Traced.tell (builder.remarks module source)).bind fun _ =>
    (builder.linker.link module source.toList).bind fun linked =>
      .pure ⟨module, source, String.ofList linked.text, linked.dependencies⟩

/-- The readable files that are not open. -/
def unopened (builder : Builder) (opened : OpenModules) : List Location :=
  builder.resolver.files.locations.filter fun file => !(opened.map (·.1)).contains file

/-- Opening one more readable file leaves fewer that are not open. -/
theorem unopened_lt (builder : Builder) (opened : OpenModules) {file : Location} {module : String}
    (readable : file ∈ builder.resolver.files.locations) (closed : file ∉ opened.map (·.1)) :
    (builder.unopened (opened ++ [(file, module)])).length <
      (builder.unopened opened).length := by
  have smaller : builder.unopened (opened ++ [(file, module)]) =
      (builder.unopened opened).filter (· != file) := by
    simp only [unopened, List.filter_filter]
    refine List.filter_congr fun other _ => ?_
    rw [Bool.eq_iff_iff]
    simp [and_comm]
  rw [smaller]
  refine List.length_filter_lt_length_iff_exists.2 ⟨file, ?_, by simp⟩
  simpa [unopened, readable] using closed

/-- Bring a module and all it imports into the bundle. -/
def load (builder : Builder) (opened : OpenModules) (importer : String) (progress : Progress)
    (module : String) : Traced Progress :=
  let path := builder.resolver.absolute module
  if _closed : path.location ∈ opened.map (·.1) then
    .fail (.circularImport (opened.cycleThrough path.location module))
  else if path.location ∈ progress.visited then
    ⟨.ok progress, [.met module importer]⟩
  else
    match _readable : builder.resolver.files.read path with
    | .error fault => ⟨.error (.file path fault), [.loading module importer, .read path]⟩
    | .ok source =>
      (Traced.tell [.loading module importer, .read path]).bind fun _ =>
        (builder.moduleOf module source).bind fun loaded =>
          (Traced.forEach
            (fun progress dependency =>
              load builder (opened ++ [(path.location, module)]) module progress dependency)
            { progress with table := progress.table.insert loaded } loaded.dependencies).bind
          fun progress => .pure { progress with visited := path.location :: progress.visited }
termination_by (builder.unopened opened).length
decreasing_by
  exact builder.unopened_lt opened (builder.resolver.files.mem_locations _readable) _closed

/-- Build the graph of the modules that an entry, given as seen from the base directory, reaches.
Every build begins anew, so one builder serves any number of them. -/
def build (builder : Builder) (entry : Path) : Traced ModuleGraph :=
  let module := builder.resolver.canonical entry
  let path := builder.resolver.absolute module
  (Traced.tell [.began module, .read path]).bind fun _ =>
    match builder.resolver.files.read path with
    | .error fault => .fail (.file path fault)
    | .ok source =>
      (builder.moduleOf module source).bind fun loaded =>
        (Traced.forEach (builder.load [(path.location, module)] module) {}
          loaded.dependencies).bind fun progress =>
            (Traced.tell [.collected progress.table.size module]).bind fun _ =>
              .pure ⟨progress.table, loaded⟩

end Builder

end LuaBundle
