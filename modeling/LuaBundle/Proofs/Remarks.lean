import LuaBundle.Proofs.Reads

/-! # Remarks follow the table

A module's lines are remarked on while it is read, before its imports are linked and before it is
entered. Nothing that a build does later looks at its remarks: with remarks left unsaid, a run is
the run of the builder that makes none, step by step and on every way out. Since every module is
entered behind the ones before it, and once, the remarks of a build that succeeds stand in the order
of the table, those on the entry in front.
-/

namespace LuaBundle

namespace Traced

variable {α β σ : Type}

/-- The same run with its remarks left unsaid. -/
def quiet (run : Traced α) : Traced α :=
  ⟨run.result, run.events.filter (·.diagnostic?.isNone)⟩

theorem quiet_bind (first : Traced α) (next : α → Traced β) :
    (first.bind next).quiet = first.quiet.bind fun value => (next value).quiet := by
  cases ran : first.result <;> simp [quiet, bind, ran]

theorem quiet_forEach (step : σ → α → Traced σ) (state : σ) (items : List α) :
    (forEach step state items).quiet =
      forEach (fun state item => (step state item).quiet) state items := by
  induction items generalizing state with
  | nil => rfl
  | cons item items ih => simp only [forEach, quiet_bind, ih]

theorem quiet_eq_self {run : Traced α} (unsaid : run.diagnostics = []) : run.quiet = run := by
  have all : ∀ event ∈ run.events, event.diagnostic?.isNone = true := by
    intro event mem
    simpa using List.filterMap_eq_nil_iff.1 unsaid event mem
  rw [quiet, List.filter_eq_self.2 all]

@[simp]
theorem diagnostics_quiet (run : Traced α) : run.quiet.diagnostics = [] := by
  rw [diagnostics, List.filterMap_eq_nil_iff]
  intro event mem
  simpa using (List.mem_filter.1 mem).2

theorem diagnostics_bind_of_ok {first : Traced α} {value : α} (succeeded : first.result = .ok value)
    (next : α → Traced β) :
    (first.bind next).diagnostics = first.diagnostics ++ (next value).diagnostics := by
  simp only [diagnostics, events_bind_of_ok succeeded, List.filterMap_append]

end Traced

namespace Linker

theorem diagnostics_link (linker : Linker) (importer : String) (source : List Char) :
    (linker.link importer source).diagnostics = [] := by
  rw [Traced.diagnostics, List.filterMap_eq_nil_iff]
  intro event mem
  obtain ⟨literal, -, asked⟩ := mem_events_linkCalls mem
  rcases Resolver.mem_events_resolve asked with ⟨_, _, _, _, _, rfl⟩ | ⟨_, rfl⟩
  · rfl
  · rfl

end Linker

namespace Builder

variable {builder : Builder} {opened : OpenModules} {progress : Progress} {module : String}

/-- The same builder making no remarks. -/
def silent (builder : Builder) : Builder :=
  { builder with settings := { builder.settings with typeWarnings := false } }

@[simp]
theorem silent_resolver (builder : Builder) : builder.silent.resolver = builder.resolver := rfl

theorem quiet_moduleOf (builder : Builder) (module source : String) :
    (builder.moduleOf module source).quiet = builder.silent.moduleOf module source := by
  have unsaid : (Traced.tell (builder.remarks module source)).quiet =
      Traced.tell (builder.silent.remarks module source) := by
    simp only [Traced.tell, Traced.quiet, remarks, silent]
    split <;> simp [Event.diagnostic?]
  rw [moduleOf, Traced.quiet_bind, unsaid, moduleOf]
  simp only [Traced.quiet_bind, Traced.quiet_eq_self (Linker.diagnostics_link _ _ _)]
  rfl

theorem quiet_openModule (builder : Builder) (module : String) :
    (builder.openModule module).quiet = builder.silent.openModule module := by
  simp only [openModule, silent_resolver, Traced.quiet_bind]
  cases builder.resolver.files.read (builder.resolver.absolute module) with
  | error fault => rfl
  | ok source =>
      simp only [quiet_moduleOf]
      rfl

theorem quiet_load (builder : Builder) (opened : OpenModules) (importer : String)
    (progress : Progress) (module : String) :
    (builder.load opened importer progress module).quiet =
      builder.silent.load opened importer progress module := by
  induction opened, importer, progress, module using load_induct builder with
  | circle opened importer progress module isOpen =>
      have isOpen' : builder.silent.fileOf module ∈ opened.map (·.1) := isOpen
      rw [load_of_open isOpen, load_of_open isOpen']
      rfl
  | met opened importer progress module closed visited =>
      have closed' : builder.silent.fileOf module ∉ opened.map (·.1) := closed
      have visited' : builder.silent.fileOf module ∈ progress.visited := visited
      rw [load_of_visited closed visited, load_of_visited closed' visited']
      rfl
  | entered opened importer progress module closed new ih =>
      have closed' : builder.silent.fileOf module ∉ opened.map (·.1) := closed
      have new' : builder.silent.fileOf module ∉ progress.visited := new
      rw [load_of_new closed new, load_of_new closed' new', Traced.quiet_bind]
      apply Traced.bind_congr
      intro _ _
      rw [Traced.quiet_bind, ← quiet_openModule]
      apply Traced.bind_congr
      intro loaded read
      have read : builder.readModule module = .ok loaded := by
        rw [← result_openModule]
        exact read
      simp only [Traced.quiet_bind, Traced.quiet_forEach, ih loaded read]
      rfl

theorem quiet_build (builder : Builder) (entry : Path) :
    (builder.build entry).quiet = builder.silent.build entry := by
  simp only [build_eq, Traced.quiet_bind, Traced.quiet_forEach, quiet_openModule, quiet_load]
  rfl

/-- What is remarked on a module. -/
def warningsOf (module : Module) : List Diagnostic :=
  TypeDeclaration.warnings module.path module.source.toList

theorem diagnostics_openModule {loaded : Module} (remarking : builder.settings.typeWarnings = true)
    (read : builder.readModule module = .ok loaded) :
    (builder.openModule module).diagnostics = warningsOf loaded := by
  obtain ⟨rfl, text, linked, link, -, -⟩ := readModule_eq_ok read
  have said : (Traced.tell (builder.remarks loaded.path loaded.source)).diagnostics =
      warningsOf loaded := by
    simp [Traced.diagnostics, Traced.tell, remarks, remarking, warningsOf, List.filterMap_map,
      Function.comp_def, Event.diagnostic?]
  rw [openModule, Traced.diagnostics_bind_of_ok (Traced.result_tell _), text]
  simp only
  rw [moduleOf, Traced.diagnostics_bind_of_ok (Traced.result_tell _), said,
    Traced.diagnostics_bind_of_ok link, Linker.diagnostics_link]
  simp [Traced.diagnostics, Traced.tell, Traced.pure, Event.diagnostic?]

/-- If a run succeeds, the modules it has entered stand behind the ones before, and its remarks are
those on them. -/
def RemarksInOrder (progress : Progress) (run : Traced Progress) : Prop :=
  ∀ final, run.result = .ok final → ∃ entered,
    final.table.modules = progress.table.modules ++ entered ∧
      run.diagnostics = entered.flatMap warningsOf

namespace RemarksInOrder

theorem nothing {run : Traced Progress} (unsaid : run.diagnostics = [])
    (same : ∀ final, run.result = .ok final → final.table = progress.table) :
    RemarksInOrder progress run := by
  intro final ran
  exact ⟨[], by simp [same final ran], by simp [unsaid]⟩

theorem bind {run : Traced Progress} {next : Progress → Traced Progress}
    (first : RemarksInOrder progress run)
    (further : ∀ middle, run.result = .ok middle → RemarksInOrder middle (next middle)) :
    RemarksInOrder progress (run.bind next) := by
  intro final ran
  obtain ⟨middle, early, late⟩ := Traced.result_bind_eq_ok.1 ran
  obtain ⟨entered, table, said⟩ := first middle early
  obtain ⟨entered', table', said'⟩ := further middle early final late
  refine ⟨entered ++ entered', ?_, ?_⟩
  · rw [table', table, List.append_assoc]
  · rw [Traced.diagnostics_bind_of_ok early, said, said', List.flatMap_append]

/-- That every module in the table is open or done carries over from one module to the next. -/
theorem forEach_load {importer : String}
    (each : ∀ progress module, builder.Covers opened progress →
      RemarksInOrder progress (builder.load opened importer progress module))
    (covered : builder.Covers opened progress) (modules : List String) :
    RemarksInOrder progress (Traced.forEach (builder.load opened importer) progress modules) := by
  induction modules generalizing progress with
  | nil => exact nothing rfl fun final ran => congrArg Progress.table (Except.ok.inj ran).symm
  | cons module rest ih =>
      have once := builder.load_readsOnce opened importer progress module covered
      exact (each progress module covered).bind fun middle ran => ih (once.covers covered ran)

end RemarksInOrder

/-- A run that opens a module, goes on with what it is and then remarks on nothing more, as both
`load` and `build` do. -/
theorem opening_remarks {α : Type} {events : List Event} {inside : Module → Traced Progress}
    {last : Module → Progress → Traced α} {value : α}
    (remarking : builder.settings.typeWarnings = true)
    (unsaid : events.filterMap Event.diagnostic? = [])
    (silent : ∀ loaded inner, (last loaded inner).diagnostics = [])
    {run : Traced α} (opens : run = (Traced.tell events).bind fun _ =>
      (builder.openModule module).bind fun loaded => (inside loaded).bind (last loaded))
    (ran : run.result = .ok value) :
    ∃ loaded inner, builder.readModule module = .ok loaded ∧
      (inside loaded).result = .ok inner ∧ (last loaded inner).result = .ok value ∧
      run.diagnostics = warningsOf loaded ++ (inside loaded).diagnostics := by
  subst opens
  obtain ⟨_, told, ran⟩ := Traced.result_bind_eq_ok.1 ran
  obtain ⟨loaded, opened, ran⟩ := Traced.result_bind_eq_ok.1 ran
  obtain ⟨inner, below, ran⟩ := Traced.result_bind_eq_ok.1 ran
  have read : builder.readModule module = .ok loaded := by rwa [← result_openModule]
  refine ⟨loaded, inner, read, below, ran, ?_⟩
  rw [Traced.diagnostics_bind_of_ok told, Traced.diagnostics_bind_of_ok opened,
    Traced.diagnostics_bind_of_ok below, diagnostics_openModule remarking read, silent,
    Traced.diagnostics, Traced.tell, unsaid, List.nil_append, List.append_nil]

theorem load_remarksInOrder (remarking : builder.settings.typeWarnings = true)
    (opened : OpenModules) (importer : String) (progress : Progress) (module : String)
    (covered : builder.Covers opened progress) :
    RemarksInOrder progress (builder.load opened importer progress module) := by
  induction opened, importer, progress, module using load_induct builder with
  | circle opened importer progress module isOpen =>
      rw [load_of_open isOpen]
      exact .nothing rfl nofun
  | met opened importer progress module closed visited =>
      rw [load_of_visited closed visited]
      exact .nothing rfl fun final ran => congrArg Progress.table (Except.ok.inj ran).symm
  | entered opened importer progress module closed new ih =>
      intro final ran
      obtain ⟨loaded, inner, read, below, ended, said⟩ := opening_remarks remarking rfl
        (fun _ _ => rfl) (load_of_new closed new importer) ran
      cases ended
      have path := (readModule_eq_ok read).1
      have absent := covered.not_mem_keys closed new
      obtain ⟨entered, table, further⟩ := RemarksInOrder.forEach_load (ih loaded read)
        (covered.enter absent path) loaded.dependencies inner below
      refine ⟨loaded :: entered, ?_, ?_⟩
      · rw [Progress.table_finish, table, (Progress.keys_enter absent path).1, List.append_assoc]
        rfl
      · rw [said, further, List.flatMap_cons]

theorem diagnostics_build {entry : Path} {graph : ModuleGraph}
    (remarking : builder.settings.typeWarnings = true)
    (built : (builder.build entry).result = .ok graph) :
    (builder.build entry).diagnostics =
      (graph.entry :: graph.modules.modules).flatMap warningsOf := by
  obtain ⟨loaded, progress, read, below, ended, said⟩ := opening_remarks remarking rfl
    (fun _ _ => rfl) (builder.build_eq entry) built
  cases ended
  obtain ⟨entered, table, further⟩ := RemarksInOrder.forEach_load
    (load_remarksInOrder remarking _ _) (.start builder _) loaded.dependencies progress below
  rw [said, further, List.flatMap_cons, table]
  rfl

/-- Whether type declarations are warned about changes nothing but the warnings: a build comes to
the same, be it a graph or an error, and without them it remarks on nothing. With them, a build that
succeeds has remarked on the lines of the entry and then on those of the modules of the table,
module by module in table order, and on nothing else. -/
theorem build_remarks_follow_table (settings : Settings) (files : FileView) (base entry : Path)
    {warning silent : Builder}
    (loud : warning = .ofBase { settings with typeWarnings := true } files base)
    (mute : silent = .ofBase { settings with typeWarnings := false } files base) :
    (warning.build entry).result = (silent.build entry).result ∧
    (silent.build entry).diagnostics = [] ∧
    ∀ graph, (warning.build entry).result = .ok graph →
      (warning.build entry).diagnostics =
        (graph.entry :: graph.modules.modules).flatMap fun module =>
          TypeDeclaration.warnings module.path module.source.toList := by
  have quiet : (warning.build entry).quiet = silent.build entry := by
    rw [quiet_build, loud, mute]
    rfl
  refine ⟨?_, ?_, ?_⟩
  · rw [← quiet]
    rfl
  · rw [← quiet]
    exact Traced.diagnostics_quiet _
  · intro graph built
    exact diagnostics_build (by rw [loud]; rfl) built

/-- Modules that declare types, one of which two others import. -/
def declaring (typeWarnings : Bool) : Builder :=
  .ofBase { importFunction := "use", typeWarnings }
    (Files.view (.ofList [
      (⟨"/m.lua"⟩, "type M = 1\nuse('b') use('c')"),
      (⟨"/b.lua"⟩, "use('c')\nexport type B = 1"),
      (⟨"/c.lua"⟩, "type C<T> = T\ntype D = 1")])) ⟨"/"⟩

theorem build_remarks_follow_table_declaring :
    ((declaring false).build ⟨"m.lua"⟩).diagnostics = [] ∧
    ∃ graph, ((declaring true).build ⟨"m.lua"⟩).result = .ok graph ∧
      ((declaring false).build ⟨"m.lua"⟩).result = .ok graph ∧
      ((declaring true).build ⟨"m.lua"⟩).diagnostics =
        ((graph.entry :: graph.modules.modules).flatMap fun module =>
          TypeDeclaration.warnings module.path module.source.toList) ∧
      ((declaring true).build ⟨"m.lua"⟩).diagnostics.map
          (fun remark => (remark.module, remark.line)) =
        [("m.lua", 1), ("b.lua", 2), ("c.lua", 1), ("c.lua", 2)] := by
  obtain ⟨same, unsaid, said⟩ := build_remarks_follow_table { importFunction := "use" } _ ⟨"/"⟩
    ⟨"m.lua"⟩ (rfl : declaring true = _) (rfl : declaring false = _)
  refine ⟨unsaid, ?_⟩
  have keys : ((declaring true).build ⟨"m.lua"⟩).result.map (·.modules.keys) =
      .ok ["b.lua", "c.lua"] := by decide +kernel
  obtain ⟨graph, built, -⟩ := Traced.exists_of_map_eq_ok keys
  exact ⟨graph, built, same ▸ built, said graph built, by decide +kernel⟩

end Builder

end LuaBundle
