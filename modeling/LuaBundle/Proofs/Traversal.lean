import LuaBundle.Proofs.Imports

/-! # How a build runs

A build brings in one list of modules inside another. `loadOnce` is one level of that, with the
levels below it left open, and it is the only place where `Builder.load` is taken apart. `Collects`
says how bringing in a list succeeds and `Fails` how it stops, each case being one thing that can
happen at the front of the list; what builds come to is proved by induction on them.
-/

namespace LuaBundle

namespace Progress

/-- Enter a module in the table. -/
def enter (progress : Progress) (module : Module) : Progress :=
  { progress with table := progress.table.insert module }

/-- Mark a file as done. -/
def finish (progress : Progress) (file : Location) : Progress :=
  { progress with visited := file :: progress.visited }

@[simp]
theorem visited_enter (progress : Progress) (module : Module) :
    (progress.enter module).visited = progress.visited := rfl

@[simp]
theorem table_finish (progress : Progress) (file : Location) :
    (progress.finish file).table = progress.table := rfl

@[simp]
theorem visited_finish (progress : Progress) (file : Location) :
    (progress.finish file).visited = file :: progress.visited := rfl

end Progress

namespace Builder

/-- How bringing in modules one after the other succeeds while `opened` are open. -/
inductive Collects (builder : Builder) :
    OpenModules → Progress → List String → Progress → Prop where
  /-- Nothing is left to bring in. -/
  | done {opened progress} : Collects builder opened progress [] progress
  /-- A module that is part of the bundle already is passed over. -/
  | met {opened progress module rest final} (closed : builder.fileOf module ∉ opened.map (·.1))
      (visited : builder.fileOf module ∈ progress.visited)
      (further : Collects builder opened progress rest final) :
      Collects builder opened progress (module :: rest) final
  /-- A new module is entered, and all it imports is brought in while it is open. -/
  | entered {opened progress module rest loaded inner final}
      (closed : builder.fileOf module ∉ opened.map (·.1))
      (new : builder.fileOf module ∉ progress.visited)
      (read : builder.readModule module = .ok loaded)
      (below : Collects builder (opened ++ [(builder.fileOf module, module)])
        (progress.enter loaded) loaded.dependencies inner)
      (further : Collects builder opened (inner.finish (builder.fileOf module)) rest final) :
      Collects builder opened progress (module :: rest) final

/-- How bringing in modules one after the other stops with an error. -/
inductive Fails (builder : Builder) :
    OpenModules → Progress → List String → BuildError → Prop where
  /-- The module is open. -/
  | circle {opened progress module rest} (isOpen : builder.fileOf module ∈ opened.map (·.1)) :
      Fails builder opened progress (module :: rest)
        (.circularImport (opened.cycleThrough (builder.fileOf module) module))
  /-- The module cannot be read or linked. -/
  | unread {opened progress module rest error}
      (closed : builder.fileOf module ∉ opened.map (·.1))
      (new : builder.fileOf module ∉ progress.visited)
      (read : builder.readModule module = .error error) :
      Fails builder opened progress (module :: rest) error
  /-- Something the module imports stops the build. -/
  | inside {opened progress module rest loaded error}
      (closed : builder.fileOf module ∉ opened.map (·.1))
      (new : builder.fileOf module ∉ progress.visited)
      (read : builder.readModule module = .ok loaded)
      (failed : Fails builder (opened ++ [(builder.fileOf module, module)])
        (progress.enter loaded) loaded.dependencies error) :
      Fails builder opened progress (module :: rest) error
  /-- A later module stops the build. -/
  | later {opened progress module rest next error}
      (first : Collects builder opened progress [module] next)
      (failed : Fails builder opened next rest error) :
      Fails builder opened progress (module :: rest) error

theorem Collects.cons {builder : Builder} {opened progress module next rest final}
    (first : Collects builder opened progress [module] next)
    (further : Collects builder opened next rest final) :
    Collects builder opened progress (module :: rest) final := by
  cases first with
  | met closed visited nothing =>
      cases nothing
      exact .met closed visited further
  | entered closed new read below nothing =>
      cases nothing
      exact .entered closed new read below further

theorem Fails.cons {builder : Builder} {opened progress module error}
    (failed : Fails builder opened progress [module] error) (rest : List String) :
    Fails builder opened progress (module :: rest) error := by
  cases failed with
  | circle isOpen => exact .circle isOpen
  | unread closed new read => exact .unread closed new read
  | inside closed new read failed => exact .inside closed new read failed
  | later first failed => cases failed

/-- Read a module's file and link it, and leave the trail of that. -/
def openModule (builder : Builder) (module : String) : Traced Module :=
  (Traced.tell [.read (builder.resolver.absolute module)]).bind fun _ =>
    match builder.resolver.files.read (builder.resolver.absolute module) with
    | .error fault => .fail (.file (builder.resolver.absolute module) fault)
    | .ok source => builder.moduleOf module source

theorem result_openModule (builder : Builder) (module : String) :
    (builder.openModule module).result = builder.readModule module := by
  rw [openModule, Traced.result_bind, readModule, Traced.result_tell, Except.bind]
  cases builder.resolver.files.read (builder.resolver.absolute module) <;> rfl

-- Named, so that both tests of `loadOnce` rest on the same proof wherever they are unfolded.
local instance lawful_location : LawfulBEq Location :=
  List.instLawfulBEq

/-- What is done to bring in one module, with `inner` for bringing in what it imports. -/
def loadOnce (builder : Builder)
    (inner : OpenModules → String → Progress → String → Traced Progress) (opened : OpenModules)
    (importer : String) (progress : Progress) (module : String) : Traced Progress :=
  if builder.fileOf module ∈ opened.map (·.1) then
    .fail (.circularImport (opened.cycleThrough (builder.fileOf module) module))
  else if builder.fileOf module ∈ progress.visited then
    ⟨.ok progress, [.met module importer]⟩
  else
    (Traced.tell [.loading module importer]).bind fun _ =>
      (builder.openModule module).bind fun loaded =>
        (Traced.forEach (inner (opened ++ [(builder.fileOf module, module)]) module)
          (progress.enter loaded) loaded.dependencies).bind
        fun inner => .pure (inner.finish (builder.fileOf module))

theorem load_eq (builder : Builder) (opened : OpenModules) (importer : String)
    (progress : Progress) (module : String) :
    builder.load opened importer progress module =
      builder.loadOnce builder.load opened importer progress module := by
  rw [load, loadOnce]
  unfold fileOf
  by_cases isOpen : (builder.resolver.absolute module).location ∈ opened.map (·.1)
  · rw [dif_pos isOpen, if_pos isOpen]
  rw [dif_neg isOpen, if_neg isOpen]
  by_cases visited : (builder.resolver.absolute module).location ∈ progress.visited
  · rw [if_pos visited, if_pos visited]
  rw [if_neg visited, if_neg visited, openModule]
  split
  · next fault failed =>
      rw [failed]
      rfl
  · next source read =>
      rw [read, Traced.bind_assoc, Traced.tell_bind_tell]
      rfl

theorem load_of_open {builder : Builder} {opened : OpenModules} {module : String}
    (isOpen : builder.fileOf module ∈ opened.map (·.1)) (importer : String) (progress : Progress) :
    builder.load opened importer progress module =
      .fail (.circularImport (opened.cycleThrough (builder.fileOf module) module)) := by
  rw [load_eq, loadOnce, if_pos isOpen]

theorem load_of_visited {builder : Builder} {opened : OpenModules} {progress : Progress}
    {module : String} (closed : builder.fileOf module ∉ opened.map (·.1))
    (visited : builder.fileOf module ∈ progress.visited) (importer : String) :
    builder.load opened importer progress module = ⟨.ok progress, [.met module importer]⟩ := by
  rw [load_eq, loadOnce, if_neg closed, if_pos visited]

theorem load_of_new {builder : Builder} {opened : OpenModules} {progress : Progress}
    {module : String} (closed : builder.fileOf module ∉ opened.map (·.1))
    (new : builder.fileOf module ∉ progress.visited) (importer : String) :
    builder.load opened importer progress module =
      (Traced.tell [.loading module importer]).bind fun _ =>
        (builder.openModule module).bind fun loaded =>
          (Traced.forEach (builder.load (opened ++ [(builder.fileOf module, module)]) module)
            (progress.enter loaded) loaded.dependencies).bind
          fun inner => .pure (inner.finish (builder.fileOf module)) := by
  rw [load_eq, loadOnce, if_neg closed, if_neg new]

/-- What holds of a call of `load` if it holds of the calls that it makes, holds of every call. -/
theorem load_induct (builder : Builder)
    {motive : OpenModules → String → Progress → String → Prop}
    (circle : ∀ opened importer progress module, builder.fileOf module ∈ opened.map (·.1) →
      motive opened importer progress module)
    (met : ∀ opened importer progress module, builder.fileOf module ∉ opened.map (·.1) →
      builder.fileOf module ∈ progress.visited → motive opened importer progress module)
    (entered : ∀ opened importer progress module, builder.fileOf module ∉ opened.map (·.1) →
      builder.fileOf module ∉ progress.visited →
      (∀ loaded, builder.readModule module = .ok loaded → ∀ inner dependency,
        motive (opened ++ [(builder.fileOf module, module)]) module inner dependency) →
      motive opened importer progress module)
    (opened : OpenModules) (importer : String) (progress : Progress) (module : String) :
    motive opened importer progress module := by
  induction opened, importer, progress, module using load.induct builder with
  | case1 opened importer progress module path isOpen => exact circle _ _ _ _ isOpen
  | case2 opened importer progress module path closed visited => exact met _ _ _ _ closed visited
  | case3 opened importer progress module path closed new fault failed =>
      refine entered _ _ _ _ closed new fun loaded read => ?_
      rw [readModule, failed] at read
      cases read
  | case4 opened importer progress module path closed new source _ ih =>
      exact entered _ _ _ _ closed new fun _ _ => ih

theorem result_load_of_new {builder : Builder} {opened : OpenModules} {progress : Progress}
    {module : String} (closed : builder.fileOf module ∉ opened.map (·.1))
    (new : builder.fileOf module ∉ progress.visited) (importer : String) :
    (builder.load opened importer progress module).result =
      (builder.readModule module).bind fun loaded =>
        (Traced.forEach (builder.load (opened ++ [(builder.fileOf module, module)]) module)
          (progress.enter loaded) loaded.dependencies).result.bind
        fun inner => .ok (inner.finish (builder.fileOf module)) := by
  rw [load_of_new closed new]
  simp only [Traced.result_bind, result_openModule]
  rfl

/-- What bringing in modules one after the other comes to. -/
def Outcome (builder : Builder) (opened : OpenModules) (progress : Progress)
    (modules : List String) : Except BuildError Progress → Prop
  | .ok final => Collects builder opened progress modules final
  | .error error => Fails builder opened progress modules error

theorem Outcome.cons {builder : Builder} {opened progress module next rest result}
    (first : Collects builder opened progress [module] next)
    (further : Outcome builder opened next rest result) :
    Outcome builder opened progress (module :: rest) result := by
  cases result with
  | ok final => exact first.cons further
  | error error => exact .later first further

theorem forEach_outcome {builder : Builder} {opened : OpenModules}
    {step : Progress → String → Traced Progress}
    (each : ∀ progress module,
      Outcome builder opened progress [module] (step progress module).result)
    (progress : Progress) (modules : List String) :
    Outcome builder opened progress modules (Traced.forEach step progress modules).result := by
  induction modules generalizing progress with
  | nil => exact Collects.done
  | cons module rest ih =>
      have first := each progress module
      rw [Traced.forEach, Traced.result_bind]
      cases result : (step progress module).result with
      | error error =>
          rw [result] at first
          exact Fails.cons first rest
      | ok next =>
          rw [result] at first
          exact Outcome.cons first (ih next)

theorem load_outcome (builder : Builder) (opened : OpenModules) (importer : String)
    (progress : Progress) (module : String) :
    Outcome builder opened progress [module]
      (builder.load opened importer progress module).result := by
  induction opened, importer, progress, module using load_induct builder with
  | circle opened importer progress module isOpen =>
      rw [load_of_open isOpen]
      exact Fails.circle isOpen
  | met opened importer progress module closed visited =>
      rw [load_of_visited closed visited]
      exact Collects.met closed visited .done
  | entered opened importer progress module closed new ih =>
      rw [result_load_of_new closed new]
      cases read : builder.readModule module with
      | error error => exact Fails.unread closed new read
      | ok loaded =>
          have inner := forEach_outcome (ih loaded read) (progress.enter loaded)
            loaded.dependencies
          simp only [Except.bind]
          generalize (Traced.forEach _ (progress.enter loaded) _).result = ran at inner ⊢
          cases ran with
          | error error => exact Fails.inside closed new read inner
          | ok final => exact Collects.entered closed new read inner .done

/-- Bringing in modules never fails in another way, and what `Collects` says is what happens. -/
theorem forEach_load_eq_ok {builder : Builder} {opened : OpenModules} {importer : String}
    {progress final : Progress} {modules : List String} :
    (Traced.forEach (builder.load opened importer) progress modules).result = .ok final ↔
      Collects builder opened progress modules final := by
  constructor
  · intro ran
    have outcome := forEach_outcome (builder.load_outcome opened importer) progress modules
    rwa [ran] at outcome
  · intro collects
    induction collects generalizing importer with
    | done => rfl
    | met closed visited further ih =>
        rw [Traced.forEach, Traced.result_bind, load_of_visited closed visited]
        exact ih
    | entered closed new read below further ihBelow ih =>
        rw [Traced.forEach, Traced.result_bind, result_load_of_new closed new, read]
        simp only [Except.bind, ihBelow]
        exact ih

theorem forEach_load_eq_error {builder : Builder} {opened : OpenModules} {importer : String}
    {progress : Progress} {modules : List String} {error : BuildError}
    (failed : (Traced.forEach (builder.load opened importer) progress modules).result =
      .error error) :
    Fails builder opened progress modules error := by
  have outcome := forEach_outcome (builder.load_outcome opened importer) progress modules
  rwa [failed] at outcome

/-- The module a build starts from, and its file: they are open all the while. -/
def opening (builder : Builder) (entry : Path) : OpenModules :=
  [(builder.fileOf (builder.resolver.canonical entry), builder.resolver.canonical entry)]

theorem build_eq (builder : Builder) (entry : Path) :
    builder.build entry =
      (Traced.tell [.began (builder.resolver.canonical entry)]).bind fun _ =>
        (builder.openModule (builder.resolver.canonical entry)).bind fun loaded =>
          (Traced.forEach
            (builder.load (builder.opening entry) (builder.resolver.canonical entry)) {}
            loaded.dependencies).bind fun progress =>
              (Traced.tell [.collected progress.table.size
                (builder.resolver.canonical entry)]).bind fun _ =>
                  .pure ⟨progress.table, loaded⟩ := by
  rw [build, openModule]
  simp only [Traced.bind_assoc, Traced.tell_bind_tell, List.singleton_append]
  cases builder.resolver.files.read
      (builder.resolver.absolute (builder.resolver.canonical entry)) with
  | error fault => rfl
  | ok source => rfl

theorem result_build (builder : Builder) (entry : Path) :
    (builder.build entry).result =
      (builder.readModule (builder.resolver.canonical entry)).bind fun loaded =>
        (Traced.forEach (builder.load (builder.opening entry) (builder.resolver.canonical entry)) {}
          loaded.dependencies).result.bind fun progress => .ok ⟨progress.table, loaded⟩ := by
  rw [build_eq]
  simp only [Traced.result_bind, result_openModule]
  rfl

/-- A build that succeeds has read the entry and brought in what it imports. -/
theorem build_eq_ok {builder : Builder} {entry : Path} {graph : ModuleGraph}
    (built : (builder.build entry).result = .ok graph) :
    builder.readModule (builder.resolver.canonical entry) = .ok graph.entry ∧
      ∃ progress, progress.table = graph.modules ∧
        Collects builder (builder.opening entry) {} graph.entry.dependencies progress := by
  rw [result_build] at built
  cases read : builder.readModule (builder.resolver.canonical entry) with
  | error error =>
      rw [read] at built
      cases built
  | ok loaded =>
      rw [read] at built
      simp only [Except.bind] at built
      split at built
      · cases built
      · next progress ran =>
          cases built
          exact ⟨rfl, progress, rfl, forEach_load_eq_ok.1 ran⟩

/-- A build that fails could not read the entry, or stopped while bringing in what it imports. -/
theorem build_eq_error {builder : Builder} {entry : Path} {error : BuildError}
    (failed : (builder.build entry).result = .error error) :
    builder.readModule (builder.resolver.canonical entry) = .error error ∨
      ∃ loaded, builder.readModule (builder.resolver.canonical entry) = .ok loaded ∧
        Fails builder (builder.opening entry) {} loaded.dependencies error := by
  rw [result_build] at failed
  cases read : builder.readModule (builder.resolver.canonical entry) with
  | error fault =>
      rw [read] at failed
      cases failed
      exact .inl rfl
  | ok loaded =>
      rw [read] at failed
      simp only [Except.bind] at failed
      split at failed
      · next fault stopped =>
          cases failed
          exact .inr ⟨loaded, rfl, forEach_load_eq_error stopped⟩
      · cases failed

theorem Collects.after {builder : Builder} {opened : OpenModules} {progress middle final : Progress}
    {front back : List String} (whole : Collects builder opened progress (front ++ back) final)
    (first : Collects builder opened progress front middle) :
    Collects builder opened middle back final := by
  have ran : (Traced.forEach (builder.load opened "") progress (front ++ back)).result =
      .ok final := forEach_load_eq_ok.2 whole
  rw [Traced.result_forEach_append, forEach_load_eq_ok.2 first] at ran
  exact forEach_load_eq_ok.1 ran

end Builder

/-- What `Builder.load` is called with. -/
structure LoadCall where
  opened : OpenModules
  importer : String
  progress : Progress
  module : String

/-- The calls of `Builder.load` that a build makes. -/
inductive Builder.Calls (builder : Builder) (entry : Path) : LoadCall → Prop where
  /-- An import of the entry, called with what the imports before it have left. -/
  | outer {loaded front module back progress}
      (read : builder.readModule (builder.resolver.canonical entry) = .ok loaded)
      (cut : loaded.dependencies = front ++ module :: back)
      (ran : (Traced.forEach
        (builder.load (builder.opening entry) (builder.resolver.canonical entry)) {} front).result =
          .ok progress) :
      Calls builder entry
        ⟨builder.opening entry, builder.resolver.canonical entry, progress, module⟩
  /-- An import of a module that a call has just entered. -/
  | inner {call : LoadCall} {loaded front module back progress} (caller : Calls builder entry call)
      (closed : builder.fileOf call.module ∉ call.opened.map (·.1))
      (new : builder.fileOf call.module ∉ call.progress.visited)
      (read : builder.readModule call.module = .ok loaded)
      (cut : loaded.dependencies = front ++ module :: back)
      (ran : (Traced.forEach
        (builder.load (call.opened ++ [(builder.fileOf call.module, call.module)]) call.module)
        (call.progress.enter loaded) front).result = .ok progress) :
      Calls builder entry
        ⟨call.opened ++ [(builder.fileOf call.module, call.module)], call.module, progress, module⟩

end LuaBundle
