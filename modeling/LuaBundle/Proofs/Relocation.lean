import LuaBundle.Manifest
import LuaBundle.Proofs.Circles
import LuaBundle.Proofs.ClosedBundle
import LuaBundle.Proofs.Subtree

/-! # Moving a tree of files

Bringing in modules depends on two things only: what reading a module gives, and which modules have
one file. `Alike` says that two builders agree on both for the modules they can come across, and
then whatever the one collects the other collects too, with its own files in place of the first
one's. A tree of files that imports nothing from outside makes its builds alike wherever it lies, so
it can be moved from one base directory to another without a trace in the bundle.
-/

namespace LuaBundle

theorem toOption_bind {ε α β : Type} (result : Except ε α) (next : α → Except ε β) :
    (result.bind next).toOption = result.toOption.bind fun value => (next value).toOption := by
  cases result <;> rfl

namespace Linker

variable {first second : Linker} {importer : String}

/-- Two linkers that resolve a source's literals alike make the same of it. -/
theorem linkCalls_congr (name : first.loaderName = second.loaderName) {tail : List Char}
    {calls : List (List Char × ImportCall)}
    (same : ∀ literal ∈ calls.filterMap literalOf?,
      (first.resolver.resolve importer literal).result.toOption =
        (second.resolver.resolve importer literal).result.toOption) :
    (first.linkCalls importer tail calls).result.toOption =
      (second.linkCalls importer tail calls).result.toOption := by
  induction calls with
  | nil => rfl
  | cons cut calls ih =>
      obtain ⟨gap, call⟩ := cut
      have here : (first.linkCall importer call).result.toOption =
          (second.linkCall importer call).result.toOption := by
        unfold linkCall
        cases isLiteral : call.literal? with
        | none => simp only [loaderCall, name]
        | some literal =>
            have resolved := same (String.ofList literal) (by simp [literalOf?, isLiteral])
            simp only [Traced.result_bind, toOption_bind, resolved, loaderCall, name]
      have further := ih fun literal mem => same literal (by
        rw [List.filterMap_cons]
        split
        · exact mem
        · exact List.mem_cons_of_mem _ mem)
      simp only [linkCalls, Traced.result_bind, toOption_bind, here, further]

end Linker

namespace Builder

variable {first second : Builder} {known : String → Prop}

/-- Two builders agree on what modules are and on which of them have one file. They need do so only
for modules that are known, and what a known module imports is known. -/
structure Alike (first second : Builder) (known : String → Prop) : Prop where
  files : ∀ module other, known module → known other →
    (first.fileOf module = first.fileOf other ↔ second.fileOf module = second.fileOf other)
  read : ∀ module loaded, known module → first.readModule module = .ok loaded →
    second.readModule module = .ok loaded
  closed : ∀ module loaded, known module → first.readModule module = .ok loaded →
    ∀ dependency ∈ loaded.dependencies, known dependency

theorem Alike.mem_files (alike : Alike first second known) {module : String}
    {modules : List String} (isKnown : known module) (all : ∀ other ∈ modules, known other) :
    first.fileOf module ∈ modules.map first.fileOf ↔
      second.fileOf module ∈ modules.map second.fileOf := by
  simp only [List.mem_map]
  constructor
  · rintro ⟨other, mem, same⟩
    exact ⟨other, mem, (alike.files other module (all other mem) isKnown).1 same⟩
  · rintro ⟨other, mem, same⟩
    exact ⟨other, mem, (alike.files other module (all other mem) isKnown).2 same⟩

/-- What one of two alike builders collects, the other collects too. The modules that are open and
those that are done are the same in both; only their files differ. -/
theorem Collects.transfer (alike : Alike first second known) {opened : OpenModules}
    {progress final : Progress} {modules line done : List String}
    (collects : Collects first opened progress modules final) (isStack : opened = first.stack line)
    (isDone : progress.visited = done.map first.fileOf)
    (knownLine : ∀ module ∈ line, known module) (knownDone : ∀ module ∈ done, known module)
    (knownModules : ∀ module ∈ modules, known module) :
    ∃ finished : List String, final.visited = finished.map first.fileOf ∧
      (∀ module ∈ finished, known module) ∧
      Collects second (second.stack line) ⟨progress.table, done.map second.fileOf⟩ modules
        ⟨final.table, finished.map second.fileOf⟩ := by
  induction collects generalizing line done with
  | done => exact ⟨done, isDone, knownDone, .done⟩
  | @met opened progress module rest final closed visited further ih =>
      obtain ⟨here, others⟩ := List.forall_mem_cons.1 knownModules
      obtain ⟨finished, visitedFinal, knownFinal, collects⟩ :=
        ih isStack isDone knownLine knownDone others
      refine ⟨finished, visitedFinal, knownFinal, .met ?_ ?_ collects⟩
      · rw [isStack, files_stack, alike.mem_files here knownLine] at closed
        rwa [files_stack]
      · rwa [isDone, alike.mem_files here knownDone] at visited
  | @entered opened progress module rest loaded inner final closed new read below further
      ihBelow ih =>
      obtain ⟨here, others⟩ := List.forall_mem_cons.1 knownModules
      have longer : opened ++ [(first.fileOf module, module)] = first.stack (line ++ [module]) := by
        rw [stack_concat, isStack]
      have knownLonger : ∀ other ∈ line ++ [module], known other := by
        simpa [or_imp, forall_and] using ⟨knownLine, here⟩
      obtain ⟨inside, visitedInner, knownInner, collectsBelow⟩ :=
        ihBelow longer isDone knownLonger knownDone (alike.closed module loaded here read)
      have more : (inner.finish (first.fileOf module)).visited =
          (module :: inside).map first.fileOf := by
        rw [Progress.visited_finish, visitedInner, List.map_cons]
      obtain ⟨finished, visitedFinal, knownFinal, collects⟩ :=
        ih isStack more knownLine (List.forall_mem_cons.2 ⟨here, knownInner⟩) others
      rw [stack_concat] at collectsBelow
      refine ⟨finished, visitedFinal, knownFinal,
        .entered ?_ ?_ (alike.read module loaded here read) collectsBelow collects⟩
      · rw [isStack, files_stack, alike.mem_files here knownLine] at closed
        rwa [files_stack]
      · rwa [isDone, alike.mem_files here knownDone] at new

/-- Alike builders that start from one known module have the same builds, if there are any. -/
theorem Alike.result_build (alike : Alike first second known) {entry : Path} {graph : ModuleGraph}
    (same : first.resolver.canonical entry = second.resolver.canonical entry)
    (isKnown : known (first.resolver.canonical entry))
    (built : (first.build entry).result = .ok graph) :
    (second.build entry).result = .ok graph := by
  obtain ⟨read, progress, table, collects⟩ := build_eq_ok built
  have isStack : first.opening entry = first.stack [first.resolver.canonical entry] := rfl
  have isDone : ({} : Progress).visited = [].map first.fileOf := rfl
  obtain ⟨finished, -, -, collects⟩ := collects.transfer alike isStack isDone
    (by simpa using isKnown) (by simp) (alike.closed _ _ isKnown read)
  have readAgain := alike.read _ _ isKnown read
  rw [same] at collects readAgain
  have ran : (Traced.forEach (second.load (second.opening entry) (second.resolver.canonical entry))
      {} graph.entry.dependencies).result = _ := forEach_load_eq_ok.2 collects
  rw [Builder.result_build, readAgain]
  simp only [Except.bind, ran, table]

end Builder

/-! ## Trees -/

namespace Files

open Resolver (nameOf IsBelow)

variable {tree : Files}

/-- The modules of a tree. -/
def HasModule (tree : Files) (module : String) : Prop :=
  ∃ location, IsBelow location ∧ (tree.get? location).isSome = true ∧ module = nameOf location

/-- Every literal import in the files of a tree is relative and leads to a place below the top,
never passing above the top on its way. -/
def ImportsInside (tree : Files) (importFunction : String) : Prop :=
  ∀ location text, tree.get? location = some text →
    ∀ literal ∈ (ImportCuts.ofSource importFunction.toList text.toList).calls.filterMap
      Linker.literalOf?,
      (Path.mk literal).isAbsolute = false ∧
        Component.StaysInside location.dropLast (Component.steps literal.toList)

theorem mem_entries_of_get? {files : Files} {location : Location} {text : String}
    (found : files.get? location = some text) : (location, text) ∈ files.entries := by
  simp only [get?, Option.map_eq_some_iff] at found
  obtain ⟨⟨place, text⟩, found, rfl⟩ := found
  obtain rfl : place = location := by simpa using List.find?_some found
  exact List.mem_of_find?_eq_some found

theorem HasModule.of_path (isTree : tree.IsTree) {path : Path}
    (held : path.location ∈ tree.view.locations) :
    IsBelow path.location ∧ tree.HasModule (nameOf path.location) := by
  have spelled := (Path.steps_of_names (isTree _ held).2).2
  have present := isSome_get?_of_mem held
  have below := Resolver.isBelow_of_isStep isTree present fun step mem =>
    Component.isStep_of_mem_steps (spelled ▸ mem)
  exact ⟨below, _, below, present, rfl⟩

end Files

namespace Builder

open Resolver (nameOf IsBelow)

variable {first second : Builder} {tree : Files}

theorem read_inside {builder : Builder} (holds : builder.resolver.Holds tree) {location : Location}
    (below : IsBelow location) {text : String} :
    builder.resolver.files.read (builder.resolver.absolute (nameOf location)) = .ok text ↔
      tree.get? location = some text :=
  holds.read (Resolver.location_absolute_nameOf holds.normal below)

/-- A literal in a module of a tree that does not lead out of it means a module of the tree. -/
theorem hasModule_of_resolve {builder : Builder} (holds : builder.resolver.Holds tree)
    (isTree : tree.IsTree) {importer : Location} (below : IsBelow importer)
    {literal module : String}
    (inside : (Path.mk literal).isAbsolute = false ∧
      Component.StaysInside importer.dropLast (Component.steps literal.toList))
    (resolved : (builder.resolver.resolve (nameOf importer) literal).result = .ok module) :
    tree.HasModule module := by
  obtain ⟨path, mem, isFile, rfl⟩ := Resolver.candidate_of_resolve resolved
  have places := Resolver.places_candidates holds.toRooted below inside.1 inside.2
  obtain ⟨location, -, place⟩ := exists_of_mem_right places.flip mem
  have held := (holds.isFile place.2.1).symm.trans isFile
  obtain ⟨within, same⟩ := holds.canonical_of_places isTree place held
  exact ⟨location, within, held, same⟩

theorem toOption_readModule (settings : first.settings = second.settings)
    (extensions : first.resolver.extensions = second.resolver.extensions)
    (here : first.resolver.Holds tree) (there : second.resolver.Holds tree) (isTree : tree.IsTree)
    (inside : tree.ImportsInside first.settings.importFunction) {location : Location}
    (below : IsBelow location) {text : String} (found : tree.get? location = some text) :
    (first.readModule (nameOf location)).toOption =
      (second.readModule (nameOf location)).toOption := by
  have linked : (first.linker.link (nameOf location) text.toList).result.toOption =
      (second.linker.link (nameOf location) text.toList).result.toOption := by
    have name : first.linker.loaderName = second.linker.loaderName := by simp [linker, settings]
    have cuts : first.linker.importFunction = second.linker.importFunction := by
      simp [linker, settings]
    simp only [Linker.link, ← cuts]
    apply Linker.linkCalls_congr name
    intro literal mem
    obtain ⟨relative, stays⟩ := inside location text found literal mem
    have first := Resolver.resolve_inside here isTree below relative stays
    have second := Resolver.resolve_inside there isTree below relative stays
    rw [← Resolver.innerCandidates_congr extensions] at second
    exact first.trans second.symm
  simp only [readModule, (read_inside here below).2 found, (read_inside there below).2 found,
    result_moduleOf, toOption_bind, linked]

theorem alike_of_holds (settings : first.settings = second.settings)
    (extensions : first.resolver.extensions = second.resolver.extensions)
    (here : first.resolver.Holds tree) (there : second.resolver.Holds tree) (isTree : tree.IsTree)
    (inside : tree.ImportsInside first.settings.importFunction) :
    Alike first second tree.HasModule where
  files := by
    rintro _ _ ⟨location, below, -, rfl⟩ ⟨other, below', -, rfl⟩
    simp only [fileOf, Resolver.location_absolute_nameOf here.normal below,
      Resolver.location_absolute_nameOf here.normal below',
      Resolver.location_absolute_nameOf there.normal below,
      Resolver.location_absolute_nameOf there.normal below', List.append_cancel_left_eq]
  read := by
    rintro _ loaded ⟨location, below, held, rfl⟩ read
    obtain ⟨text, found⟩ := Option.isSome_iff_exists.1 held
    have same := toOption_readModule settings extensions here there isTree inside below found
    rw [read] at same
    cases again : second.readModule (nameOf location) with
    | error error =>
        rw [again] at same
        cases same
    | ok other =>
        rw [again] at same
        cases same
        rfl
  closed := by
    rintro _ loaded ⟨location, below, -, rfl⟩ read dependency needed
    obtain ⟨-, source, -⟩ := readModule_eq_ok read
    obtain ⟨literal, mem, resolved⟩ := Imports.linksTo ⟨loaded, read, needed⟩
    rw [literals, source] at mem
    have found := (read_inside here below).1 source
    exact hasModule_of_resolve here isTree below (inside location _ found literal mem) resolved

/-- A build of a tree of files that lies below a base directory. -/
def ofTree (settings : Settings) (tree : Files) (base : Path) : Builder :=
  .ofBase settings (tree.under base).view base

theorem holds_ofTree {base : Path} (absolute : base.isAbsolute = true)
    (normal : base.normalize.location = base.location) (settings : Settings) (tree : Files) :
    (ofTree settings tree base).resolver.Holds tree where
  toRooted := Resolver.rooted_ofBase absolute _ _
  view := by
    change (tree.under base).view = (tree.under base.normalize).view
    rw [Files.under, Files.under, normal]

theorem result_build_ofTree {settings : Settings} {here there entry : Path} {graph : ModuleGraph}
    (isTree : tree.IsTree) (inside : tree.ImportsInside settings.importFunction)
    (holdsHere : (ofTree settings tree here).resolver.Holds tree)
    (holdsThere : (ofTree settings tree there).resolver.Holds tree)
    (held : entry.location ∈ tree.view.locations)
    (built : ((ofTree settings tree here).build entry).result = .ok graph) :
    ((ofTree settings tree there).build entry).result = .ok graph := by
  obtain ⟨below, isKnown⟩ := Files.HasModule.of_path isTree held
  have nameHere := Resolver.canonical_of_names holdsHere.normal below
  have nameThere := Resolver.canonical_of_names holdsThere.normal below
  have alike : Alike (ofTree settings tree here) (ofTree settings tree there) tree.HasModule :=
    alike_of_holds rfl rfl holdsHere holdsThere isTree inside
  exact alike.result_build (nameHere.trans nameThere.symm) (nameHere ▸ isKnown) built

/-- Let a tree of files, none of whose literal imports leads out of it, lie below two directories at
the root. Whatever the settings and for every entry in the tree, the build from the one succeeds
exactly if the build from the other does, and then both have the same graph; so their bundles and
manifests are the same to the byte. -/
theorem build_relocates (settings : Settings) {tree : Files} {here there entry : Path}
    (made : Instant) (isTree : tree.IsTree) (inside : tree.ImportsInside settings.importFunction)
    (absoluteHere : here.isAbsolute = true) (normalHere : here.normalize.location = here.location)
    (absoluteThere : there.isAbsolute = true)
    (normalThere : there.normalize.location = there.location)
    (held : entry.location ∈ tree.view.locations) :
    (∀ graph, ((ofTree settings tree here).build entry).result = .ok graph ↔
      ((ofTree settings tree there).build entry).result = .ok graph) ∧
    ∀ bundle, ((ofTree settings tree here).bundle entry made).result = .ok bundle →
      ∃ other, ((ofTree settings tree there).bundle entry made).result = .ok other ∧
        other.graph = bundle.graph ∧ other.artifact = bundle.artifact ∧
        (Manifest.ofGraph other.graph other.made).render =
          (Manifest.ofGraph bundle.graph bundle.made).render := by
  have holdsHere := holds_ofTree absoluteHere normalHere settings tree
  have holdsThere := holds_ofTree absoluteThere normalThere settings tree
  have builds : ∀ graph, ((ofTree settings tree here).build entry).result = .ok graph ↔
      ((ofTree settings tree there).build entry).result = .ok graph := by
    intro graph
    constructor
    · exact result_build_ofTree isTree inside holdsHere holdsThere held
    · exact result_build_ofTree isTree inside holdsThere holdsHere held
  refine ⟨builds, ?_⟩
  intro bundle bundled
  obtain ⟨graph, built, rfl⟩ := bundle_eq_ok.1 bundled
  exact ⟨_, bundle_eq_ok.2 ⟨graph, (builds graph).1 built, rfl⟩, rfl, rfl, rfl⟩

/-- A tree whose modules find each other by going up and down. -/
def portable : Files :=
  .ofList [
    (⟨"m.lua"⟩, "use('./lib/a') use('b')"),
    (⟨"lib/a.lua"⟩, "use('..//x/../b.lua') use('.')"),
    (⟨"lib.lua"⟩, ""),
    (⟨"b.lua"⟩, "")]

theorem build_relocates_portable :
    ∃ graph, ((ofTree { importFunction := "use" } portable ⟨"/"⟩).build ⟨"m.lua"⟩).result =
        .ok graph ∧
      ((ofTree { importFunction := "use" } portable ⟨"/home/lib"⟩).build ⟨"m.lua"⟩).result =
        .ok graph ∧
      graph.modules.keys = ["lib/a.lua", "b.lua", "lib.lua"] := by
  have isTree : portable.IsTree := by
    have locations : portable.view.locations = [[.name "b.lua".toList], [.name "lib.lua".toList],
        [.name "lib".toList, .name "a.lua".toList], [.name "m.lua".toList]] := by decide +kernel
    simp [Files.IsTree, locations]
  have inside : portable.ImportsInside "use" := by
    have each : ∀ entry ∈ portable.entries,
        ∀ literal ∈ (ImportCuts.ofSource "use".toList entry.2.toList).calls.filterMap
          Linker.literalOf?,
          (Path.mk literal).isAbsolute = false ∧
            Component.StaysInside entry.1.dropLast (Component.steps literal.toList) := by
      decide +kernel
    intro location text found
    exact each _ (Files.mem_entries_of_get? found)
  have here : Path.isAbsolute ⟨"/"⟩ = true := by decide
  have there : Path.isAbsolute ⟨"/home/lib"⟩ = true := by decide
  have held : Path.location ⟨"m.lua"⟩ ∈ portable.view.locations := by decide +kernel
  obtain ⟨same, -⟩ := build_relocates { importFunction := "use" } ⟨⟨1970, 1, 1⟩, 0, 0, 0⟩ isTree
    inside here (by decide +kernel) there (by decide +kernel) held
  have keys : ((ofTree { importFunction := "use" } portable ⟨"/"⟩).build ⟨"m.lua"⟩).result.map
      (·.modules.keys) = .ok ["lib/a.lua", "b.lua", "lib.lua"] := by decide +kernel
  obtain ⟨graph, built, keys⟩ := Traced.exists_of_map_eq_ok keys
  exact ⟨graph, built, (same graph).1 built, keys⟩

end Builder

end LuaBundle
