import LuaBundle.Proofs.ImportTree
import LuaBundle.Proofs.Traversal

/-! # The order of discovery

A module that was met before may be passed over only because its whole tree is in the table
already. `Progress.Sound` says so of everything that is done, and that every module in the table is
what reading it gives and is done or open. Each way in which bringing in modules can go on keeps
this, and grows the table by the first occurrences of the modules' trees; so the table of a build
that succeeds is the tree of the entry without its root, walked from the top with repetitions left
out.
-/

namespace LuaBundle

theorem eraseDups_of_nodup {keys : List String} (unique : keys.Nodup) : keys.eraseDups = keys := by
  induction keys with
  | nil => rfl
  | cons key keys ih =>
      obtain ⟨absent, unique⟩ := List.nodup_cons.1 unique
      have others : keys.filter (fun other => !other == key) = keys := by
        rw [List.filter_eq_self]
        intro other mem
        simp only [Bool.not_eq_true', beq_eq_false_iff_ne, ne_eq]
        rintro rfl
        exact absent mem
      rw [List.eraseDups_cons, others, ih unique]

theorem eraseDups_append_of_subset {keys known : List String} (subset : ∀ key ∈ known, key ∈ keys) :
    (keys ++ known).eraseDups = keys.eraseDups := by
  have nothing : known.removeAll keys = [] := by
    rw [List.removeAll, List.filter_eq_nil_iff]
    intro key mem
    simpa using subset key mem
  rw [List.eraseDups_append, nothing, List.eraseDups_nil, List.append_nil]

theorem eraseDups_append_of_eq {keys walked : List String} (same : keys = walked.eraseDups)
    (unique : keys.Nodup) (more : List String) :
    (keys ++ more).eraseDups = (walked ++ more).eraseDups := by
  have left : more.removeAll keys = more.removeAll walked := by
    rw [List.removeAll, List.removeAll]
    refine List.filter_congr fun key _ => ?_
    simp [same]
  rw [List.eraseDups_append, List.eraseDups_append, eraseDups_of_nodup unique, left, same]

namespace ModuleTable

/-- The paths of the modules, in the order they were entered. -/
def keys (table : ModuleTable) : List String :=
  table.modules.map (·.path)

theorem insert_of_not_mem {table : ModuleTable} {module : Module}
    (new : module.path ∉ table.keys) : table.insert module = ⟨table.modules ++ [module]⟩ := by
  have absent : table.contains module.path = false := by
    rw [contains, List.any_eq_false]
    intro other mem same
    exact new (List.mem_map.2 ⟨other, mem, by simpa using same⟩)
  simp [insert, absent]

theorem filter_of_mem {table : ModuleTable} (unique : table.keys.Nodup) {module : Module}
    (mem : module ∈ table.modules) :
    table.modules.filter (·.path == module.path) = [module] := by
  obtain ⟨modules⟩ := table
  induction modules with
  | nil => cases mem
  | cons first modules ih =>
      obtain ⟨absent, unique⟩ := List.nodup_cons.1 unique
      rcases List.mem_cons.1 mem with rfl | mem
      · rw [List.filter_cons_of_pos (by simp), List.filter_eq_nil_iff.2]
        intro other inside same
        exact absent (List.mem_map.2 ⟨other, inside, by simpa using same⟩)
      · have other : first.path ≠ module.path := by
          intro same
          exact absent (List.mem_map.2 ⟨module, mem, same.symm⟩)
        rw [List.filter_cons_of_neg (by simpa using other)]
        exact ih unique mem

theorem get?_of_mem {table : ModuleTable} (unique : table.keys.Nodup) {module : Module}
    (mem : module ∈ table.modules) : table.get? module.path = some module := by
  rw [get?, ← List.head?_filter, filter_of_mem unique mem, List.head?_cons]

end ModuleTable

open ImportTree (walkAll)

variable {builder : Builder} {opened : OpenModules} {progress inner final : Progress}
  {module : String} {modules rest : List String}

/-- The file of every module in the table is open or done. -/
def Builder.Covers (builder : Builder) (opened : OpenModules) (progress : Progress) : Prop :=
  ∀ key ∈ progress.table.keys,
    builder.fileOf key ∈ opened.map (·.1) ∨ builder.fileOf key ∈ progress.visited

theorem Progress.keys_enter {loaded : Module} (new : module ∉ progress.table.keys)
    (path : loaded.path = module) :
    (progress.enter loaded).table.modules = progress.table.modules ++ [loaded] ∧
      (progress.enter loaded).table.keys = progress.table.keys ++ [module] := by
  subst path
  have inserted := ModuleTable.insert_of_not_mem new
  constructor
  · rw [Progress.enter, inserted]
  · rw [Progress.enter, inserted, ModuleTable.keys, List.map_append]
    rfl

namespace Builder.Covers

theorem start (builder : Builder) (opened : OpenModules) : builder.Covers opened {} := by
  simp [Covers, ModuleTable.keys]

theorem not_mem_keys (covered : builder.Covers opened progress)
    (closed : builder.fileOf module ∉ opened.map (·.1))
    (new : builder.fileOf module ∉ progress.visited) : module ∉ progress.table.keys := by
  intro mem
  rcases covered module mem with isOpen | visited
  · exact closed isOpen
  · exact new visited

theorem enter {loaded : Module} (covered : builder.Covers opened progress)
    (absent : module ∉ progress.table.keys) (path : loaded.path = module) :
    builder.Covers (opened ++ [(builder.fileOf module, module)]) (progress.enter loaded) := by
  intro key mem
  rw [(Progress.keys_enter absent path).2] at mem
  rw [List.map_append, List.mem_append]
  rcases List.mem_append.1 mem with old | here
  · rcases covered key old with isOpen | visited
    · exact .inl (.inl isOpen)
    · exact .inr visited
  · rw [List.mem_singleton.1 here]
    exact .inl (.inr (by simp))

end Builder.Covers

/-- What is always true of a build's progress. -/
structure Progress.Sound (builder : Builder) (opened : OpenModules) (progress : Progress) :
    Prop where
  canonical : ∀ key ∈ progress.table.keys, builder.resolver.IsCanonical key
  unique : progress.table.keys.Nodup
  read : ∀ module ∈ progress.table.modules, builder.readModule module.path = .ok module
  covered : builder.Covers opened progress
  complete : ∀ file ∈ progress.visited, ∃ module tree, builder.fileOf module = file ∧
    builder.resolver.IsCanonical module ∧ Builder.Unfolds builder [module] [tree] ∧
    ∀ key ∈ tree.walk, key ∈ progress.table.keys

namespace Progress.Sound

theorem start (builder : Builder) (opened : OpenModules) :
    ({} : Progress).Sound builder opened where
  canonical := by simp [ModuleTable.keys]
  unique := List.nodup_nil
  read := by simp
  covered := .start builder opened
  complete := by simp

/-- Entering a new module, which is open from then on. -/
theorem enter {loaded : Module} (sound : progress.Sound builder opened)
    (canonical : builder.resolver.IsCanonical module)
    (closed : builder.fileOf module ∉ opened.map (·.1))
    (new : builder.fileOf module ∉ progress.visited)
    (read : builder.readModule module = .ok loaded) :
    (progress.enter loaded).Sound builder (opened ++ [(builder.fileOf module, module)]) := by
  have path := (Builder.readModule_eq_ok read).1
  have absent := sound.covered.not_mem_keys closed new
  obtain ⟨modules, keys⟩ := Progress.keys_enter absent path
  have oldOrNew : ∀ key ∈ (progress.enter loaded).table.keys,
      key ∈ progress.table.keys ∨ key = module := by
    intro key mem
    rw [keys] at mem
    simpa using mem
  constructor
  · intro key mem
    rcases oldOrNew key mem with mem | rfl
    · exact sound.canonical key mem
    · exact canonical
  · rw [keys, List.nodup_append]
    refine ⟨sound.unique, List.pairwise_singleton _ module, ?_⟩
    intro key mem other here same
    rw [List.mem_singleton.1 here] at same
    exact absent (same ▸ mem)
  · intro other mem
    rw [modules] at mem
    rcases List.mem_append.1 mem with mem | mem
    · exact sound.read other mem
    · rw [List.mem_singleton.1 mem, path, read]
  · exact sound.covered.enter absent path
  · intro file visited
    obtain ⟨done, tree, located, canonical, unfolds, inside⟩ := sound.complete file visited
    refine ⟨done, tree, located, canonical, unfolds, fun key mem => ?_⟩
    rw [keys]
    exact List.mem_append_left _ (inside key mem)

/-- Closing a module whose tree is in the table. -/
theorem finish {tree : ImportTree}
    (sound : inner.Sound builder (opened ++ [(builder.fileOf module, module)]))
    (canonical : builder.resolver.IsCanonical module)
    (unfolds : Builder.Unfolds builder [module] [tree])
    (inside : ∀ key ∈ tree.walk, key ∈ inner.table.keys) :
    (inner.finish (builder.fileOf module)).Sound builder opened where
  canonical := sound.canonical
  unique := sound.unique
  read := sound.read
  covered := by
    intro key mem
    rw [Progress.visited_finish, List.mem_cons]
    rcases sound.covered key mem with isOpen | visited
    · simp only [List.map_append, List.map_cons, List.map_nil, List.mem_append,
        List.mem_singleton] at isOpen
      rcases isOpen with isOpen | here
      · exact .inl isOpen
      · exact .inr (.inl here)
    · exact .inr (.inr visited)
  complete := by
    intro file visited
    rw [Progress.visited_finish, List.mem_cons] at visited
    rcases visited with here | visited
    · exact ⟨module, tree, here.symm, canonical, unfolds, inside⟩
    · exact sound.complete file visited

/-- A canonical path whose file is done is the one its tree was entered under. -/
theorem tree_of_visited (sound : progress.Sound builder opened)
    (canonical : builder.resolver.IsCanonical module)
    (visited : builder.fileOf module ∈ progress.visited) :
    ∃ tree, Builder.Unfolds builder [module] [tree] ∧
      ∀ key ∈ tree.walk, key ∈ progress.table.keys := by
  obtain ⟨done, tree, located, named, unfolds, inside⟩ := sound.complete _ visited
  obtain rfl := named.eq_of_location canonical located
  exact ⟨tree, unfolds, inside⟩

end Progress.Sound

/-- What bringing in modules does to a build's progress. -/
structure Discovers (builder : Builder) (opened : OpenModules) (progress : Progress)
    (modules : List String) (final : Progress) : Prop where
  sound : final.Sound builder opened
  trees : ∃ trees, Builder.Unfolds builder modules trees ∧
    final.table.keys = (progress.table.keys ++ walkAll trees).eraseDups
  grown : progress.table.modules <+: final.table.modules
  fresh : ∀ key ∈ final.table.keys,
    key ∈ progress.table.keys ∨ builder.fileOf key ∉ opened.map (·.1)

namespace Discovers

theorem done (sound : progress.Sound builder opened) :
    Discovers builder opened progress [] progress where
  sound := sound
  trees := ⟨[], .nil, by rw [walkAll, List.append_nil, eraseDups_of_nodup sound.unique]⟩
  grown := List.prefix_rfl
  fresh := fun key mem => .inl mem

theorem met (sound : progress.Sound builder opened)
    (canonical : builder.resolver.IsCanonical module)
    (visited : builder.fileOf module ∈ progress.visited)
    (further : Discovers builder opened progress rest final) :
    Discovers builder opened progress (module :: rest) final where
  sound := further.sound
  trees := by
    obtain ⟨tree, unfolds, inside⟩ := sound.tree_of_visited canonical visited
    obtain ⟨trees, beside, keys⟩ := further.trees
    refine ⟨tree :: trees, unfolds.cons_of_singleton beside, ?_⟩
    have known := eraseDups_append_of_subset inside
    rw [eraseDups_of_nodup sound.unique] at known
    rw [keys, walkAll, ← List.append_assoc, eraseDups_append_of_eq known.symm sound.unique]
  grown := further.grown
  fresh := further.fresh

/-- A module can be closed when all it imports has been brought in. -/
theorem finish {loaded : Module} (sound : progress.Sound builder opened)
    (canonical : builder.resolver.IsCanonical module)
    (closed : builder.fileOf module ∉ opened.map (·.1))
    (new : builder.fileOf module ∉ progress.visited)
    (read : builder.readModule module = .ok loaded)
    (below : Discovers builder (opened ++ [(builder.fileOf module, module)])
      (progress.enter loaded) loaded.dependencies inner) :
    (inner.finish (builder.fileOf module)).Sound builder opened := by
  obtain ⟨children, inside, innerKeys⟩ := below.trees
  obtain ⟨-, grownKeys⟩ := Progress.keys_enter (sound.covered.not_mem_keys closed new)
    (Builder.readModule_eq_ok read).1
  refine below.sound.finish canonical (.cons read inside .nil) fun key mem => ?_
  rw [innerKeys, grownKeys, List.mem_eraseDups, List.append_assoc]
  exact List.mem_append_right _ mem

theorem entered {loaded : Module} (sound : progress.Sound builder opened)
    (closed : builder.fileOf module ∉ opened.map (·.1))
    (new : builder.fileOf module ∉ progress.visited)
    (read : builder.readModule module = .ok loaded)
    (below : Discovers builder (opened ++ [(builder.fileOf module, module)])
      (progress.enter loaded) loaded.dependencies inner)
    (further : Discovers builder opened (inner.finish (builder.fileOf module)) rest final) :
    Discovers builder opened progress (module :: rest) final := by
  obtain ⟨grownModules, grownKeys⟩ := Progress.keys_enter (sound.covered.not_mem_keys closed new)
    (Builder.readModule_eq_ok read).1
  obtain ⟨children, inside, innerKeys⟩ := below.trees
  obtain ⟨trees, beside, finalKeys⟩ := further.trees
  have walked := eraseDups_append_of_eq innerKeys below.sound.unique (walkAll trees)
  refine ⟨further.sound, ⟨.node module children :: trees, .cons read inside beside, ?_⟩, ?_, ?_⟩
  · rw [finalKeys, Progress.table_finish, walked, grownKeys, walkAll, ImportTree.walk]
    simp only [List.append_assoc, List.nil_append, List.cons_append]
  · have entered : progress.table.modules <+: (progress.enter loaded).table.modules := by
      rw [grownModules]
      exact List.prefix_append _ _
    exact (entered.trans below.grown).trans further.grown
  · intro key mem
    rcases further.fresh key mem with mem | fresh
    · rcases below.fresh key mem with mem | fresh
      · rw [grownKeys] at mem
        rcases List.mem_append.1 mem with mem | mem
        · exact .inl mem
        · rw [List.mem_singleton.1 mem]
          exact .inr closed
      · refine .inr fun isOpen => fresh ?_
        rw [List.map_append]
        exact List.mem_append_left _ isOpen
    · exact .inr fresh

end Discovers

/-- Bringing in modules from a sound state discovers their trees. -/
theorem Builder.Collects.discovers (rooted : builder.resolver.Rooted)
    (collects : Builder.Collects builder opened progress modules final)
    (sound : progress.Sound builder opened)
    (canonical : ∀ module ∈ modules, builder.resolver.IsCanonical module) :
    Discovers builder opened progress modules final := by
  induction collects with
  | done => exact .done sound
  | @met opened progress module rest final closed visited further ih =>
      have named := canonical module List.mem_cons_self
      have others := fun other mem => canonical other (List.mem_cons_of_mem module mem)
      exact .met sound named visited (ih sound others)
  | @entered opened progress module rest loaded inner final closed new read below further
      ihBelow ih =>
      have named := canonical module List.mem_cons_self
      have others := fun other mem => canonical other (List.mem_cons_of_mem module mem)
      have below := ihBelow (sound.enter named closed new read) fun dependency mem =>
        Builder.Imports.isCanonical rooted ⟨loaded, read, mem⟩
      have finished := Discovers.finish sound named closed new read below
      exact .entered sound closed new read below (ih finished others)

namespace Builder

variable {entry : Path} {graph : ModuleGraph}

theorem isCanonical_of_mem_dependencies (rooted : builder.resolver.Rooted) {loaded : Module}
    (read : builder.readModule module = .ok loaded) :
    ∀ dependency ∈ loaded.dependencies, builder.resolver.IsCanonical dependency :=
  fun _ mem => Imports.isCanonical rooted ⟨loaded, read, mem⟩

theorem discovers_of_build (rooted : builder.resolver.Rooted)
    (built : (builder.build entry).result = .ok graph) :
    builder.readModule (builder.resolver.canonical entry) = .ok graph.entry ∧
      ∃ progress, progress.table = graph.modules ∧
        Discovers builder (builder.opening entry) {} graph.entry.dependencies progress := by
  obtain ⟨read, progress, table, collects⟩ := build_eq_ok built
  have canonical := isCanonical_of_mem_dependencies rooted read
  exact ⟨read, progress, table, collects.discovers rooted (.start builder _) canonical⟩

/-- What a call is made with goes on to be part of what the build comes to. -/
theorem Calls.collects (rooted : builder.resolver.Rooted)
    (built : (builder.build entry).result = .ok graph) {call : LoadCall}
    (calls : builder.Calls entry call) :
    ∃ rest final, Collects builder call.opened call.progress (call.module :: rest) final ∧
      call.progress.Sound builder call.opened ∧
      (∀ module ∈ call.module :: rest, builder.resolver.IsCanonical module) ∧
      final.table.modules <+: graph.modules.modules := by
  induction calls with
  | @outer loaded front module back progress read cut ran =>
      obtain ⟨again, final, table, collects⟩ := build_eq_ok built
      rw [read] at again
      cases again
      have canonical := isCanonical_of_mem_dependencies rooted read
      rw [cut] at collects canonical
      have first := forEach_load_eq_ok.1 ran
      have sound := (first.discovers rooted (.start builder _) fun other mem =>
        canonical other (List.mem_append_left _ mem)).sound
      refine ⟨back, final, collects.after first, sound, ?_, ?_⟩
      · exact fun other mem => canonical other (List.mem_append_right _ mem)
      · exact table ▸ List.prefix_rfl
  | @inner call loaded front module back progress caller closed new read cut ran ih =>
      obtain ⟨rest, final, collects, sound, named, within⟩ := ih
      have canonical := isCanonical_of_mem_dependencies rooted read
      cases collects with
      | met _ visited _ => exact absurd visited new
      | @entered _ _ _ _ _ done _ _ _ readAgain below further =>
          rw [read] at readAgain
          cases readAgain
          have here := named _ List.mem_cons_self
          have entered := sound.enter here closed new read
          have inside := below.discovers rooted entered canonical
          have finished := Discovers.finish sound here closed new read inside
          have grown := (further.discovers rooted finished fun other mem =>
            named other (List.mem_cons_of_mem _ mem)).grown
          rw [cut] at below canonical
          have first := forEach_load_eq_ok.1 ran
          have soundFirst := (first.discovers rooted entered fun other mem =>
            canonical other (List.mem_append_left _ mem)).sound
          refine ⟨back, done, below.after first, soundFirst, ?_, grown.trans within⟩
          exact fun other mem => canonical other (List.mem_append_right _ mem)

theorem Calls.table_prefix (rooted : builder.resolver.Rooted)
    (built : (builder.build entry).result = .ok graph) {call : LoadCall}
    (calls : builder.Calls entry call) :
    call.progress.table.modules <+: graph.modules.modules := by
  obtain ⟨rest, final, collects, sound, canonical, within⟩ := calls.collects rooted built
  exact (collects.discovers rooted sound canonical).grown.trans within

theorem unfolds_of_build (rooted : builder.resolver.Rooted)
    (built : (builder.build entry).result = .ok graph) :
    ∃ below, Unfolds builder graph.entry.dependencies below ∧
      graph.modules.keys = (walkAll below).eraseDups := by
  obtain ⟨-, progress, table, discovers⟩ := discovers_of_build rooted built
  obtain ⟨below, unfolds, keys⟩ := discovers.trees
  exact ⟨below, unfolds, table ▸ keys⟩

theorem entry_not_mem_keys (rooted : builder.resolver.Rooted)
    (built : (builder.build entry).result = .ok graph) :
    builder.resolver.canonical entry ∉ graph.modules.keys := by
  obtain ⟨-, progress, table, discovers⟩ := discovers_of_build rooted built
  intro mem
  rw [← table] at mem
  rcases discovers.fresh _ mem with bad | fresh
  · simp [ModuleTable.keys] at bad
  · exact fresh (by simp [opening])

theorem mem_keys_iff (rooted : builder.resolver.Rooted)
    (built : (builder.build entry).result = .ok graph) (key : String) :
    key ∈ graph.modules.keys ↔
      Relation.TransGen builder.Imports (builder.resolver.canonical entry) key := by
  have read := (discovers_of_build rooted built).1
  obtain ⟨below, unfolds, keys⟩ := unfolds_of_build rooted built
  rw [keys, List.mem_eraseDups, unfolds.mem_walkAll_iff, Relation.TransGen.head'_iff]
  constructor
  · rintro ⟨start, among, reached⟩
    exact ⟨start, ⟨graph.entry, read, among⟩, reached⟩
  · rintro ⟨start, ⟨loaded, readAgain, among⟩, reached⟩
    rw [read] at readAgain
    cases readAgain
    exact ⟨start, among, reached⟩

theorem nodup_keys (rooted : builder.resolver.Rooted)
    (built : (builder.build entry).result = .ok graph) : graph.modules.keys.Nodup := by
  obtain ⟨-, progress, table, discovers⟩ := discovers_of_build rooted built
  exact table ▸ discovers.sound.unique

theorem readModule_of_mem (rooted : builder.resolver.Rooted)
    (built : (builder.build entry).result = .ok graph) {module : Module}
    (mem : module ∈ graph.entry :: graph.modules.modules) :
    builder.readModule module.path = .ok module := by
  obtain ⟨read, progress, table, discovers⟩ := discovers_of_build rooted built
  rcases List.mem_cons.1 mem with rfl | mem
  · rw [(readModule_eq_ok read).1]
    exact read
  · rw [← table] at mem
    exact discovers.sound.read module mem

theorem module_of_mem_keys (rooted : builder.resolver.Rooted)
    (built : (builder.build entry).result = .ok graph) {key : String}
    (mem : key ∈ graph.modules.keys) :
    ∃ module, graph.modules.get? key = some module ∧ builder.readModule key = .ok module := by
  obtain ⟨module, inside, rfl⟩ := List.mem_map.1 mem
  exact ⟨module, ModuleTable.get?_of_mem (nodup_keys rooted built) inside,
    readModule_of_mem rooted built (List.mem_cons_of_mem _ inside)⟩

/-- The table of a build from files below a directory at the root is the tree of imports that
the entry unfolds to, walked from the top without the entry itself and with repetitions left out.
So it holds what the entry reaches, each module once and the entry never, and every module is what
reading its own file gave, untouched from the moment it was entered. -/
theorem build_table_eq_walk {settings : Settings} {files : Files} {base entry : Path}
    {builder : Builder} {graph : ModuleGraph} (made : builder = .ofBase settings files.view base)
    (absolute : base.isAbsolute = true) (built : (builder.build entry).result = .ok graph) :
    graph.entry.path = builder.resolver.canonical entry ∧
    (∃ tree, (∀ other, Unfolds builder [graph.entry.path] [other] ↔ other = tree) ∧
      graph.modules.keys = tree.walk.tail.eraseDups) ∧
    (∀ key, key ∈ graph.modules.keys ↔
      Relation.TransGen builder.Imports graph.entry.path key) ∧
    graph.modules.keys.Nodup ∧
    graph.entry.path ∉ graph.modules.keys ∧
    (∀ key ∈ graph.modules.keys, ∃ module, graph.modules.get? key = some module ∧
      builder.readModule key = .ok module ∧ module.path = key ∧
      files.read (builder.resolver.absolute key) = .ok module.source) ∧
    ∀ call, builder.Calls entry call →
      call.progress.table.modules <+: graph.modules.modules := by
  have rooted : builder.resolver.Rooted := made ▸ Resolver.rooted_ofBase absolute _ _
  have view : builder.resolver.files = files.view := made ▸ rfl
  have read := (discovers_of_build rooted built).1
  obtain ⟨below, unfolds, keys⟩ := unfolds_of_build rooted built
  rw [(readModule_eq_ok read).1]
  have tree : Unfolds builder [builder.resolver.canonical entry] [.node _ below] :=
    .cons read unfolds .nil
  refine ⟨rfl, ⟨.node (builder.resolver.canonical entry) below, fun other => ?_, keys⟩,
    mem_keys_iff rooted built, nodup_keys rooted built, entry_not_mem_keys rooted built,
    fun key mem => ?_, fun call calls => calls.table_prefix rooted built⟩
  · constructor
    · intro unfolded
      exact List.head_eq_of_cons_eq (unfolded.unique tree)
    · rintro rfl
      exact tree
  · obtain ⟨module, held, readKey⟩ := module_of_mem_keys rooted built mem
    obtain ⟨named, text, -⟩ := readModule_eq_ok readKey
    rw [view] at text
    exact ⟨module, held, readKey, named, text⟩

/-- Two modules that share a third, which one of them spells in a roundabout way. -/
def diamond : Builder :=
  .ofBase { extensions := [".lua"], importFunction := "use", typeWarnings := false }
    (Files.view (.ofList [
      (⟨"/m.lua"⟩, "use('b') use('c') use('b')"),
      (⟨"/b.lua"⟩, "use('d')"),
      (⟨"/c.lua"⟩, "use('./x/../d.lua')"),
      (⟨"/d.lua"⟩, "")])) ⟨"/"⟩

theorem build_table_eq_walk_diamond :
    ∃ graph, (diamond.build ⟨"m.lua"⟩).result = .ok graph ∧
      graph.modules.keys = ["b.lua", "d.lua", "c.lua"] ∧
      ∃ tree, (∀ other, Unfolds diamond [graph.entry.path] [other] ↔ other = tree) ∧
        graph.modules.keys = tree.walk.tail.eraseDups := by
  have keys : (diamond.build ⟨"m.lua"⟩).result.map (·.modules.keys) =
      .ok ["b.lua", "d.lua", "c.lua"] := by decide +kernel
  cases built : (diamond.build ⟨"m.lua"⟩).result with
  | error error =>
      rw [built] at keys
      cases keys
  | ok graph =>
      rw [built] at keys
      exact ⟨graph, rfl, Except.ok.inj keys, (build_table_eq_walk rfl (by decide) built).2.1⟩

end Builder

end LuaBundle
