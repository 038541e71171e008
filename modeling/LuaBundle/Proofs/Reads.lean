import LuaBundle.Proofs.Discovery
import LuaBundle.Proofs.Trail
import Mathlib.Logic.Function.Iterate

/-! # How deep a build goes and how often it reads

A call of `load` makes further calls only below a file that can be read and was not open before, so
calls nest at most one deeper than there are files: unfolded that often, `loadOnce` has nothing left
to do with what is put in place of the innermost call.

A file is read only while it is neither open nor done, and it is one or the other from then on until
the build ends. So no file is read twice, whether or not the build succeeds; and since a module is
entered whenever a file is read, a build that succeeds has read the files of the table, in the order
of the table, and the entry before them. None of this asks where the base directory is.
-/

namespace LuaBundle

namespace Traced

variable {α β : Type}

/-- The files read, oldest first. -/
def filesRead (run : Traced α) : List Location :=
  run.reads.map Path.location

theorem bind_congr {first : Traced α} {next next' : α → Traced β}
    (same : ∀ value, first.result = .ok value → next value = next' value) :
    first.bind next = first.bind next' := by
  cases ran : first.result with
  | error error => simp only [bind, ran]
  | ok value => simp only [bind, ran, same value ran]

theorem reads_bind_of_ok {first : Traced α} {value : α} (succeeded : first.result = .ok value)
    (next : α → Traced β) : (first.bind next).reads = first.reads ++ (next value).reads := by
  rw [reads, events_bind_of_ok succeeded, List.filterMap_append]
  rfl

theorem reads_bind_of_error {first : Traced α} {error : BuildError}
    (failed : first.result = .error error) (next : α → Traced β) :
    (first.bind next).reads = first.reads := by
  rw [reads, events_bind_of_error failed, reads]

theorem reads_bind_of_silent {first : Traced α} {next : α → Traced β}
    (silent : ∀ value, (next value).reads = []) : (first.bind next).reads = first.reads := by
  cases ran : first.result with
  | error error => exact reads_bind_of_error ran next
  | ok value => rw [reads_bind_of_ok ran, silent, List.append_nil]

end Traced

namespace Builder

variable {builder : Builder} {opened : OpenModules} {progress final : Progress} {module : String}

/-- Unfolding `loadOnce` more often than there are files that could still be opened gives `load`,
whatever the unfolding ends in. -/
theorem iterate_loadOnce (builder : Builder)
    (inner : OpenModules → String → Progress → String → Traced Progress) {depth : Nat}
    (opened : OpenModules) (importer : String) (progress : Progress) (module : String)
    (enough : (builder.unopened opened).length < depth) :
    builder.loadOnce^[depth] inner opened importer progress module =
      builder.load opened importer progress module := by
  induction depth generalizing opened importer progress module with
  | zero => cases enough
  | succ depth ih =>
      rw [Function.iterate_succ_apply', load_eq, loadOnce, loadOnce]
      split
      · rfl
      next closed =>
      split
      · rfl
      next new =>
      apply Traced.bind_congr
      intro _ _
      apply Traced.bind_congr
      intro loaded read
      rw [result_openModule] at read
      have readable := builder.resolver.files.mem_locations (readModule_eq_ok read).2.1
      have fewer : (builder.unopened (opened ++ [(builder.fileOf module, module)])).length <
          (builder.unopened opened).length := builder.unopened_lt opened readable closed
      have deeper : builder.loadOnce^[depth] inner (opened ++ [(builder.fileOf module, module)])
          module = builder.load (opened ++ [(builder.fileOf module, module)]) module := by
        funext progress dependency
        apply ih
        exact Nat.lt_of_lt_of_le fewer (Nat.le_of_lt_succ enough)
      rw [deeper]

theorem filesRead_eq {run : Traced Progress} {keys : List String}
    (reads : run.reads = keys.map builder.resolver.absolute) :
    run.filesRead = keys.map builder.fileOf := by
  rw [Traced.filesRead, reads, List.map_map]
  apply List.map_congr_left
  intro key _
  rw [Function.comp_apply, fileOf]

/-- How bringing in modules reads: no file twice, none that is open or done before, and if it
succeeds then the files it has read are done and are those of the modules it has entered. -/
structure ReadsOnce (builder : Builder) (opened : OpenModules) (progress : Progress)
    (run : Traced Progress) : Prop where
  unique : run.filesRead.Nodup
  fresh : ∀ file ∈ run.filesRead, file ∉ opened.map (·.1) ∧ file ∉ progress.visited
  done : ∀ final, run.result = .ok final → ∀ file,
    file ∈ final.visited ↔ file ∈ progress.visited ∨ file ∈ run.filesRead
  entered : ∀ final, run.result = .ok final → ∃ keys,
    final.table.keys = progress.table.keys ++ keys ∧
      run.reads = keys.map builder.resolver.absolute

namespace ReadsOnce

variable {run : Traced Progress}

theorem of_reads_nil (nothing : run.reads = [])
    (same : ∀ final, run.result = .ok final → final = progress) :
    ReadsOnce builder opened progress run where
  unique := by simp [Traced.filesRead, nothing]
  fresh := by simp [Traced.filesRead, nothing]
  done := by
    intro final ran file
    rw [same final ran]
    simp [Traced.filesRead, nothing]
  entered := by
    intro final ran
    rw [same final ran]
    exact ⟨[], by simp, nothing⟩

theorem unread {error : BuildError} (closed : builder.fileOf module ∉ opened.map (·.1))
    (new : builder.fileOf module ∉ progress.visited)
    (reads : run.reads = [builder.resolver.absolute module])
    (failed : run.result = .error error) : ReadsOnce builder opened progress run := by
  have files : run.filesRead = [builder.fileOf module] := by
    rw [Traced.filesRead, reads, List.map_singleton, fileOf]
  constructor
  · rw [files]
    exact List.pairwise_singleton _ _
  · intro file mem
    rw [files, List.mem_singleton] at mem
    rw [mem]
    exact ⟨closed, new⟩
  · rw [failed]
    nofun
  · rw [failed]
    nofun

theorem covers (once : ReadsOnce builder opened progress run)
    (covered : builder.Covers opened progress) (ran : run.result = .ok final) :
    builder.Covers opened final := by
  intro key mem
  obtain ⟨keys, table, reads⟩ := once.entered final ran
  rw [table] at mem
  rw [once.done final ran (builder.fileOf key)]
  rcases List.mem_append.1 mem with old | new
  · rcases covered key old with isOpen | visited
    · exact .inl isOpen
    · exact .inr (.inl visited)
  · rw [filesRead_eq reads]
    exact .inr (.inr (List.mem_map_of_mem new))

/-- Bringing in more modules after some. -/
theorem bind {next : Progress → Traced Progress} (once : ReadsOnce builder opened progress run)
    (further : ∀ middle, run.result = .ok middle →
      ReadsOnce builder opened middle (next middle)) :
    ReadsOnce builder opened progress (run.bind next) := by
  cases ran : run.result with
  | error error =>
      have same : run.bind next = run := by
        obtain ⟨result, events⟩ := run
        cases ran
        rfl
      rw [same]
      exact once
  | ok middle =>
      have later := further middle ran
      have reads := Traced.reads_bind_of_ok ran next
      have files : (run.bind next).filesRead = run.filesRead ++ (next middle).filesRead := by
        rw [Traced.filesRead, reads, List.map_append]
        rfl
      have result : (run.bind next).result = (next middle).result := by
        rw [Traced.result_bind, ran]
        rfl
      -- What the first modules have read is done, and so it is not read again.
      have visited : ∀ file, file ∈ progress.visited ∨ file ∈ run.filesRead ↔
          file ∈ middle.visited := fun file => (once.done middle ran file).symm
      constructor
      · rw [files, List.nodup_append]
        refine ⟨once.unique, later.unique, ?_⟩
        rintro file early other late rfl
        exact (later.fresh file late).2 ((visited file).1 (.inr early))
      · intro file mem
        rw [files] at mem
        rcases List.mem_append.1 mem with early | late
        · exact once.fresh file early
        · obtain ⟨closed, new⟩ := later.fresh file late
          exact ⟨closed, fun before => new ((visited file).1 (.inl before))⟩
      · intro final finished file
        rw [result] at finished
        rw [later.done final finished file, ← visited, files, List.mem_append, or_assoc]
      · intro final finished
        rw [result] at finished
        obtain ⟨keys, table, first⟩ := once.entered middle ran
        obtain ⟨keys', table', second⟩ := later.entered final finished
        refine ⟨keys ++ keys', ?_, ?_⟩
        · rw [table', table, List.append_assoc]
        · rw [reads, first, second, List.map_append]

/-- A module is entered as its file is read, and is open while all it imports is brought in. -/
theorem enter {loaded : Module} {inside : Traced Progress}
    (covered : builder.Covers opened progress)
    (closed : builder.fileOf module ∉ opened.map (·.1))
    (new : builder.fileOf module ∉ progress.visited) (path : loaded.path = module)
    (below : ReadsOnce builder (opened ++ [(builder.fileOf module, module)])
      (progress.enter loaded) inside)
    (reads : run.reads = builder.resolver.absolute module :: inside.reads)
    (result : run.result =
      inside.result.bind fun inner => .ok (inner.finish (builder.fileOf module))) :
    ReadsOnce builder opened progress run := by
  have files : run.filesRead = builder.fileOf module :: inside.filesRead := by
    rw [Traced.filesRead, reads, List.map_cons, Traced.filesRead, fileOf]
  have ended : ∀ final, run.result = .ok final → ∃ inner, inside.result = .ok inner ∧
      final = inner.finish (builder.fileOf module) := by
    intro final ran
    rw [result] at ran
    cases done : inside.result with
    | error error =>
        rw [done] at ran
        cases ran
    | ok inner =>
        rw [done] at ran
        exact ⟨inner, rfl, (Except.ok.inj ran).symm⟩
  constructor
  · rw [files, List.nodup_cons]
    refine ⟨fun again => ?_, below.unique⟩
    apply (below.fresh _ again).1
    simp
  · intro file mem
    rw [files] at mem
    rcases List.mem_cons.1 mem with here | later
    · rw [here]
      exact ⟨closed, new⟩
    · obtain ⟨apart, fresh⟩ := below.fresh file later
      refine ⟨fun isOpen => apart ?_, fresh⟩
      rw [List.map_append]
      exact List.mem_append_left _ isOpen
  · intro final ran file
    obtain ⟨inner, done, rfl⟩ := ended final ran
    have visited : file ∈ inner.visited ↔ file ∈ progress.visited ∨ file ∈ inside.filesRead :=
      below.done inner done file
    rw [Progress.visited_finish, files, List.mem_cons, List.mem_cons, visited, or_left_comm]
  · intro final ran
    obtain ⟨inner, done, rfl⟩ := ended final ran
    obtain ⟨keys, table, tail⟩ := below.entered inner done
    refine ⟨module :: keys, ?_, ?_⟩
    · rw [Progress.table_finish, table,
        (Progress.keys_enter (covered.not_mem_keys closed new) path).2, List.append_assoc]
      rfl
    · rw [reads, tail, List.map_cons]

theorem forEach {step : Progress → String → Traced Progress}
    (each : ∀ progress module, builder.Covers opened progress →
      ReadsOnce builder opened progress (step progress module))
    (covered : builder.Covers opened progress) (modules : List String) :
    ReadsOnce builder opened progress (Traced.forEach step progress modules) := by
  induction modules generalizing progress with
  | nil => exact .of_reads_nil rfl fun final ran => (Except.ok.inj ran).symm
  | cons module rest ih =>
      have first := each progress module covered
      exact first.bind fun middle ran => ih (first.covers covered ran)

end ReadsOnce

/-- The reads of a run that opens a module, goes on with what it is and then reads no more, as both
`load` and `build` do. -/
theorem reads_opening {α : Type} {module : String} {events : List Event}
    {inside : Module → Traced Progress} {last : Module → Progress → Traced α}
    (quiet : events.filterMap Event.readPath? = [])
    (silent : ∀ loaded inner, (last loaded inner).reads = []) :
    ((Traced.tell events).bind fun _ => (builder.openModule module).bind fun loaded =>
      (inside loaded).bind (last loaded)).reads =
    builder.resolver.absolute module ::
      match builder.readModule module with
      | .error _ => []
      | .ok loaded => (inside loaded).reads := by
  rw [Traced.reads_bind_of_ok (Traced.result_tell events), Traced.reads, Traced.tell, quiet,
    List.nil_append]
  cases read : builder.readModule module with
  | error error =>
      rw [← result_openModule] at read
      rw [Traced.reads_bind_of_error read, reads_openModule]
  | ok loaded =>
      rw [← result_openModule] at read
      rw [Traced.reads_bind_of_ok read, reads_openModule, Traced.reads_bind_of_silent (silent loaded)]
      rfl

/-- Bringing in a module reads no file that is open or done, and none twice. -/
theorem load_readsOnce (builder : Builder) (opened : OpenModules) (importer : String)
    (progress : Progress) (module : String) (covered : builder.Covers opened progress) :
    ReadsOnce builder opened progress (builder.load opened importer progress module) := by
  induction opened, importer, progress, module using load_induct builder with
  | circle opened importer progress module isOpen =>
      rw [load_of_open isOpen]
      exact .of_reads_nil rfl nofun
  | met opened importer progress module closed visited =>
      rw [load_of_visited closed visited]
      exact .of_reads_nil rfl fun final ran => (Except.ok.inj ran).symm
  | entered opened importer progress module closed new ih =>
      have reads := congrArg Traced.reads (load_of_new closed new importer)
      rw [reads_opening rfl fun _ _ => rfl] at reads
      have result := result_load_of_new closed new importer
      cases read : builder.readModule module with
      | error error =>
          rw [read] at reads result
          exact .unread closed new reads result
      | ok loaded =>
          rw [read] at reads result
          have path := (readModule_eq_ok read).1
          have inside := covered.enter (covered.not_mem_keys closed new) path
          exact .enter covered closed new path (.forEach (ih loaded read) inside _) reads result

variable {entry : Path}

theorem reads_build_of_read {loaded : Module}
    (read : builder.readModule (builder.resolver.canonical entry) = .ok loaded) :
    (builder.build entry).reads =
      builder.resolver.absolute (builder.resolver.canonical entry) ::
        (Traced.forEach (builder.load (builder.opening entry) (builder.resolver.canonical entry)) {}
          loaded.dependencies).reads := by
  rw [build_eq, reads_opening rfl fun _ _ => rfl, read]

theorem reads_build_of_unread {error : BuildError}
    (failed : builder.readModule (builder.resolver.canonical entry) = .error error) :
    (builder.build entry).reads =
      [builder.resolver.absolute (builder.resolver.canonical entry)] := by
  rw [build_eq, reads_opening rfl fun _ _ => rfl, failed]

theorem forEach_load_readsOnce (builder : Builder) (entry : Path) (modules : List String) :
    ReadsOnce builder (builder.opening entry) {} (Traced.forEach
      (builder.load (builder.opening entry) (builder.resolver.canonical entry)) {} modules) :=
  .forEach (builder.load_readsOnce _ _) (.start builder _) modules

theorem nodup_filesRead_build (builder : Builder) (entry : Path) :
    (builder.build entry).filesRead.Nodup := by
  cases read : builder.readModule (builder.resolver.canonical entry) with
  | error error =>
      rw [Traced.filesRead, reads_build_of_unread read]
      exact List.pairwise_singleton _ _
  | ok loaded =>
      have once := builder.forEach_load_readsOnce entry loaded.dependencies
      rw [Traced.filesRead, reads_build_of_read read, List.map_cons, List.nodup_cons]
      -- The entry is open all the while, so that its file is not read again.
      refine ⟨fun again => (once.fresh _ again).1 ?_, once.unique⟩
      simp [opening, fileOf]

theorem length_reads_build {graph : ModuleGraph}
    (built : (builder.build entry).result = .ok graph) :
    (builder.build entry).reads.length = graph.modules.size + 1 := by
  obtain ⟨read, progress, table, collects⟩ := build_eq_ok built
  have once := builder.forEach_load_readsOnce entry graph.entry.dependencies
  obtain ⟨keys, entered, reads⟩ := once.entered progress (forEach_load_eq_ok.2 collects)
  have size : graph.modules.size = keys.length := by
    rw [← table, ModuleTable.size, ← List.length_map, ← ModuleTable.keys, entered]
    rfl
  rw [reads_build_of_read read, reads, List.length_cons, List.length_map, size]

/-- Builds end and read sparingly, whatever the settings and wherever the base directory is. `load`
is the recursion that `loadOnce` is one level of, and its calls nest at most one deeper than there
are files; a build reads no file twice, not even one that is missing; and one that succeeds has read
as many files as there are modules in the table, and the entry. -/
theorem build_reads_once {settings : Settings} {files : Files} {base : Path} {builder : Builder}
    (made : builder = .ofBase settings files.view base) (entry : Path) :
    builder.load = builder.loadOnce builder.load ∧
    (∀ inner, builder.loadOnce^[files.entries.length + 1] inner = builder.load) ∧
    ((builder.build entry).reads.map Path.location).Nodup ∧
    ∀ graph, (builder.build entry).result = .ok graph →
      (builder.build entry).reads.length = graph.modules.size + 1 := by
  refine ⟨?_, fun inner => ?_, builder.nodup_filesRead_build entry, fun _ => length_reads_build⟩
  · funext opened importer progress module
    exact builder.load_eq opened importer progress module
  · funext opened importer progress module
    apply iterate_loadOnce
    have held : builder.resolver.files.locations.length = files.entries.length := by
      rw [made]
      exact List.length_map _
    rw [← held]
    exact Nat.lt_succ_of_le (List.length_filter_le _ _)

theorem build_reads_once_diamond :
    (∀ inner, diamond.loadOnce^[5] inner = diamond.load) ∧
    ∃ graph, (diamond.build ⟨"m.lua"⟩).result = .ok graph ∧
      ((diamond.build ⟨"m.lua"⟩).reads.map Path.location).Nodup ∧
      (diamond.build ⟨"m.lua"⟩).reads.length = graph.modules.size + 1 ∧
      (diamond.build ⟨"m.lua"⟩).reads =
        [⟨"/m.lua"⟩, ⟨"/b.lua"⟩, ⟨"/d.lua"⟩, ⟨"/c.lua"⟩] := by
  have made : diamond = .ofBase _ (Files.view (.ofList _)) _ := rfl
  obtain ⟨-, depth, unique, count⟩ := build_reads_once made ⟨"m.lua"⟩
  have built : (diamond.build ⟨"m.lua"⟩).result.isOk = true := by decide +kernel
  refine ⟨depth, ?_⟩
  cases result : (diamond.build ⟨"m.lua"⟩).result with
  | error error =>
      rw [result] at built
      cases built
  | ok graph => exact ⟨graph, rfl, unique, count graph result, by decide +kernel⟩

end Builder

end LuaBundle
