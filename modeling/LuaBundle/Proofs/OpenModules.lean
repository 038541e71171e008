import LuaBundle.Proofs.Circles
import LuaBundle.Proofs.Reads

/-! # What stays in order during a build

`load` is told which modules are open. A program keeps them in one stack instead, next to the table
and the files that are done: `visit` puts a module on the stack and enters it before anything it
imports is brought in, and takes it off and marks it as done after all of that. Both are the same
recursion, `traverse`.

The three are changed at different moments, and `Balances` is what holds between any two calls: a
file of the table is done or open and never both, and what a done module imports is done. The last
part rests on imports of open modules being errors: a module is passed over only if it is done.
-/

namespace LuaBundle

namespace Traced

variable {α β σ : Type}

theorem pure_bind (value : α) (next : α → Traced β) : (pure value).bind next = next value := rfl

/-- Steps that agree wherever a run of the second can be give the same run. -/
theorem forEach_congr {step step' : σ → α → Traced σ} (holds : σ → Prop)
    (same : ∀ state a, holds state → step state a = step' state a)
    (kept : ∀ state a next, holds state → (step' state a).result = .ok next → holds next)
    {state : σ} (start : holds state) (as : List α) :
    forEach step state as = forEach step' state as := by
  induction as generalizing state with
  | nil => rfl
  | cons a as ih =>
      rw [forEach, forEach, same state a start]
      apply bind_congr
      intro next ran
      exact ih (kept state a next start ran)

end Traced

namespace OpenModules

theorem files_concat (opened : OpenModules) (file : Location) (module : String) :
    (opened ++ [(file, module)]).map (·.1) = opened.map (·.1) ++ [file] := by
  rw [List.map_append, List.map_singleton]

theorem tail_files_concat {opened : OpenModules} (nonempty : opened ≠ []) (file : Location)
    (module : String) :
    ((opened ++ [(file, module)]).map (·.1)).tail = (opened.map (·.1)).tail ++ [file] := by
  rw [files_concat, List.tail_append_of_ne_nil (by simpa using nonempty)]

end OpenModules

/-- What a build has found so far and the modules that are open, in one state. -/
structure Traversal extends Progress where
  opened : OpenModules

namespace Traversal

/-- Open a module. -/
def push (traversal : Traversal) (file : Location) (module : String) : Traversal :=
  { traversal with opened := traversal.opened ++ [(file, module)] }

/-- Close the module that was opened last. -/
def pop (traversal : Traversal) : Traversal :=
  { traversal with opened := traversal.opened.dropLast }

/-- Change what has been found and leave the open modules alone. -/
def advance (traversal : Traversal) (step : Progress → Progress) : Traversal :=
  { traversal with toProgress := step traversal.toProgress }

end Traversal

/-- The state in which a call is made. -/
def LoadCall.traversal (call : LoadCall) : Traversal :=
  ⟨call.progress, call.opened⟩

namespace Builder

variable {builder : Builder} {opened : OpenModules} {progress inner final : Progress}
  {module dependency : String} {modules : List String}

/-! ## The stack in the state -/

-- So that both tests of `visit` rest on the same proof as those of `loadOnce`.
attribute [local instance] lawful_location

/-- Bring in one module, with `further` for bringing in what it imports. -/
def visit (builder : Builder) (further : String → Traversal → String → Traced Traversal)
    (importer : String) (traversal : Traversal) (module : String) : Traced Traversal :=
  if builder.fileOf module ∈ traversal.opened.map (·.1) then
    .fail (.circularImport (traversal.opened.cycleThrough (builder.fileOf module) module))
  else if builder.fileOf module ∈ traversal.visited then
    ⟨.ok traversal, [.met module importer]⟩
  else
    (Traced.tell [.loading module importer]).bind fun _ =>
      (builder.openModule module).bind fun loaded =>
        (Traced.forEach (further module)
          ((traversal.push (builder.fileOf module) module).advance (·.enter loaded))
          loaded.dependencies).bind
        fun after => .pure (after.pop.advance (·.finish (builder.fileOf module)))

/-- Bring in a module and all it imports, and leave the stack as it was. -/
def traverse (builder : Builder) (importer : String) (traversal : Traversal) (module : String) :
    Traced Traversal :=
  (builder.load traversal.opened importer traversal.toProgress module).bind fun progress =>
    .pure ⟨progress, traversal.opened⟩

theorem traverse_eq_ok {importer : String} {traversal after : Traversal}
    (ran : (builder.traverse importer traversal module).result = .ok after) :
    after.opened = traversal.opened ∧
      Collects builder traversal.opened traversal.toProgress [module] after.toProgress := by
  obtain ⟨progress, loaded, same⟩ := Traced.result_bind_eq_ok.1 ran
  cases same
  have outcome := builder.load_outcome traversal.opened importer traversal.toProgress module
  rw [loaded] at outcome
  exact ⟨rfl, outcome⟩

theorem forEach_traverse (builder : Builder) (importer : String) (traversal : Traversal)
    (modules : List String) :
    Traced.forEach (builder.traverse importer) traversal modules =
      (Traced.forEach (builder.load traversal.opened importer) traversal.toProgress modules).bind
        fun progress => .pure ⟨progress, traversal.opened⟩ := by
  induction modules generalizing traversal with
  | nil => rfl
  | cons module modules ih =>
      simp only [Traced.forEach, traverse, Traced.bind_assoc]
      apply Traced.bind_congr
      intro progress _
      exact ih ⟨progress, traversal.opened⟩

/-- What is taken off the stack after a module is the module itself: everything above it is gone by
then. -/
theorem visit_traverse (builder : Builder) : builder.visit builder.traverse = builder.traverse := by
  funext importer traversal module
  unfold visit
  split
  · next isOpen =>
      rw [traverse, load_of_open isOpen]
      rfl
  next closed =>
  split
  · next visited =>
      rw [traverse, load_of_visited closed visited]
      rfl
  · next new =>
      rw [traverse, load_of_new closed new]
      simp only [Traced.bind_assoc, forEach_traverse, Traced.pure_bind, Traversal.push,
        Traversal.advance, Traversal.pop, List.dropLast_concat]

/-- Unfolding `visit` more often than there are files that could still be opened gives `traverse`,
whatever the unfolding ends in. -/
theorem iterate_visit (builder : Builder)
    (further : String → Traversal → String → Traced Traversal) {depth : Nat} (importer : String)
    (traversal : Traversal) (module : String)
    (enough : (builder.unopened traversal.opened).length < depth) :
    builder.visit^[depth] further importer traversal module =
      builder.traverse importer traversal module := by
  induction depth generalizing importer traversal module with
  | zero => cases enough
  | succ depth ih =>
      rw [Function.iterate_succ_apply', ← visit_traverse, visit, visit]
      split
      · rfl
      next closed =>
      split
      · rfl
      apply Traced.bind_congr
      intro _ _
      apply Traced.bind_congr
      intro loaded read
      rw [result_openModule] at read
      have readable := builder.resolver.files.mem_locations (readModule_eq_ok read).2.1
      have fewer : (builder.unopened (traversal.push (builder.fileOf module) module).opened).length <
          (builder.unopened traversal.opened).length :=
        builder.unopened_lt traversal.opened readable closed
      -- The imports are brought in one after the other, each with the stack one deeper.
      rw [Traced.forEach_congr fun state : Traversal =>
        state.opened = (traversal.push (builder.fileOf module) module).opened]
      · intro state dependency deeper
        apply ih
        rw [deeper]
        exact Nat.lt_of_lt_of_le fewer (Nat.le_of_lt_succ enough)
      · intro state dependency next deeper ran
        rw [(traverse_eq_ok ran).1, deeper]
      · rfl

/-! ## Between two calls -/

/-- Names of one file import the same. -/
theorem Imports.of_fileOf {other : String} {loaded : Module}
    (imports : builder.Imports module dependency)
    (same : builder.fileOf module = builder.fileOf other)
    (read : builder.readModule other = .ok loaded) : builder.Imports other dependency := by
  have file : builder.resolver.absolute module = builder.resolver.absolute other :=
    Path.normalize_ext same
  obtain ⟨literal, mem, resolved⟩ := imports.linksTo
  refine LinksTo.imports ⟨literal, ?_, ?_⟩ read
  · rwa [literals, ← file]
  · have tried : builder.resolver.candidates other literal =
        builder.resolver.candidates module literal := by
      rw [Resolver.candidates, Resolver.candidates, Resolver.target, Resolver.target, file]
    rw [Resolver.result_resolve] at resolved ⊢
    rw [tried]
    split at resolved
    · exact resolved
    · cases resolved

/-- What holds between two calls while `opened` are open: no file is done twice, open twice or both;
the files of the table are those that are done and those that are open, the outermost apart; and
what a module imports whose file is done is done. -/
structure Balances (builder : Builder) (opened : OpenModules) (progress : Progress) : Prop where
  apart : (progress.visited ++ opened.map (·.1)).Nodup
  entered : (progress.table.keys.map builder.fileOf).Perm
    (progress.visited ++ (opened.map (·.1)).tail)
  closed : ∀ module dependency, builder.fileOf module ∈ progress.visited →
    builder.Imports module dependency → builder.fileOf dependency ∈ progress.visited

namespace Balances

theorem start (builder : Builder) (file : Location) (module : String) :
    builder.Balances [(file, module)] {} where
  apart := by simp
  entered := by simp [ModuleTable.keys]
  closed := by simp

theorem covers (balances : builder.Balances opened progress) : builder.Covers opened progress := by
  intro key mem
  rcases List.mem_append.1 (balances.entered.mem_iff.1 (List.mem_map_of_mem mem)) with done | isOpen
  · exact .inr done
  · exact .inl (List.mem_of_mem_tail isOpen)

/-- What is on top of the open files can be counted among those that are done. -/
theorem perm_close {α : Type} (done below : List α) (top : α) :
    (done ++ (below ++ [top])).Perm (top :: (done ++ below)) := by
  rw [← List.append_assoc]
  exact List.perm_append_singleton top (done ++ below)

/-- A new module is entered and open from then on. -/
theorem enter {loaded : Module} (balances : builder.Balances opened progress)
    (nonempty : opened ≠ []) (closed : builder.fileOf module ∉ opened.map (·.1))
    (new : builder.fileOf module ∉ progress.visited) (path : loaded.path = module) :
    builder.Balances (opened ++ [(builder.fileOf module, module)]) (progress.enter loaded) := by
  have keys := (Progress.keys_enter (balances.covers.not_mem_keys closed new) path).2
  constructor
  · have fresh : builder.fileOf module ∉ progress.visited ++ opened.map (·.1) := by
      rw [List.mem_append]
      exact fun known => known.elim new closed
    rw [Progress.visited_enter, OpenModules.files_concat, (perm_close _ _ _).nodup_iff,
      List.nodup_cons]
    exact ⟨fresh, balances.apart⟩
  · rw [keys, OpenModules.tail_files_concat nonempty, Progress.visited_enter, List.map_append,
      List.map_singleton, ← List.append_assoc]
    exact balances.entered.append_right _
  · rw [Progress.visited_enter]
    exact balances.closed

/-- The module on top is closed and done once all it imports is done. -/
theorem finish {loaded : Module}
    (balances : builder.Balances (opened ++ [(builder.fileOf module, module)]) inner)
    (nonempty : opened ≠ []) (read : builder.readModule module = .ok loaded)
    (done : ∀ dependency ∈ loaded.dependencies, builder.fileOf dependency ∈ inner.visited) :
    builder.Balances opened (inner.finish (builder.fileOf module)) := by
  obtain ⟨apart, entered, closed⟩ := balances
  rw [OpenModules.files_concat, (perm_close _ _ _).nodup_iff] at apart
  rw [OpenModules.tail_files_concat nonempty] at entered
  constructor
  · rw [Progress.visited_finish, List.cons_append]
    exact apart
  · rw [Progress.visited_finish, Progress.table_finish, List.cons_append]
    exact entered.trans (perm_close _ _ _)
  · intro name dependency visited imports
    rw [Progress.visited_finish, List.mem_cons] at visited ⊢
    right
    rcases visited with here | visited
    -- `name` need not be `module` itself, but it is read from the same file.
    · obtain ⟨again, readAgain, needed⟩ := imports.of_fileOf here read
      rw [read] at readAgain
      cases readAgain
      exact done dependency needed
    · exact closed name dependency visited imports

end Balances

/-- What bringing in modules comes to. -/
structure Advances (builder : Builder) (opened : OpenModules) (progress : Progress)
    (modules : List String) (final : Progress) : Prop where
  balances : builder.Balances opened final
  grown : progress.table.modules <+: final.table.modules
  kept : ∀ file ∈ progress.visited, file ∈ final.visited
  done : ∀ module ∈ modules, builder.fileOf module ∈ final.visited

theorem Collects.advances (collects : Collects builder opened progress modules final)
    (nonempty : opened ≠ []) (balances : builder.Balances opened progress) :
    builder.Advances opened progress modules final := by
  induction collects with
  | done => exact ⟨balances, List.prefix_rfl, fun _ mem => mem, by simp⟩
  | @met opened progress module rest final closed visited further ih =>
      have further := ih nonempty balances
      refine ⟨further.balances, further.grown, further.kept, ?_⟩
      exact List.forall_mem_cons.2 ⟨further.kept _ visited, further.done⟩
  | @entered opened progress module rest loaded inner final closed new read below further ihBelow
      ih =>
      have path := (readModule_eq_ok read).1
      have below := ihBelow (by simp) (balances.enter nonempty closed new path)
      -- All that `module` imports is done by now, so that it can be closed.
      have further := ih nonempty (below.balances.finish nonempty read below.done)
      have entered := (Progress.keys_enter (balances.covers.not_mem_keys closed new) path).1
      constructor
      · exact further.balances
      · refine List.IsPrefix.trans ?_ (below.grown.trans further.grown)
        rw [entered]
        exact List.prefix_append _ _
      · exact fun file mem => further.kept file (List.mem_cons_of_mem _ (below.kept file mem))
      · exact List.forall_mem_cons.2 ⟨further.kept _ List.mem_cons_self, further.done⟩

/-! ## At every call -/

variable {entry : Path} {call : LoadCall}

theorem Calls.opened_ne_nil (calls : builder.Calls entry call) : call.opened ≠ [] := by
  cases calls with
  | outer => exact List.cons_ne_nil _ _
  | inner => exact List.append_ne_nil_of_right_ne_nil _ (List.cons_ne_nil _ _)

/-- The open modules of a call are a line of imports from the entry to the module called for. -/
theorem Calls.exists_trail (calls : builder.Calls entry call) :
    ∃ line, call.opened = builder.stack line ∧
      line.head? = some (builder.resolver.canonical entry) ∧
      Trail builder (builder.resolver.canonical entry) line call.module := by
  induction calls with
  | outer read cut ran =>
      refine ⟨[builder.resolver.canonical entry], rfl, rfl, ?_⟩
      exact .first ⟨_, read, by simp [cut]⟩
  | @inner call loaded front module back progress caller closed new read cut ran ih =>
      obtain ⟨line, isStack, starts, trail⟩ := ih
      refine ⟨line ++ [call.module], ?_, ?_, ?_⟩
      · rw [stack_concat, isStack]
      · rw [List.head?_append, starts, Option.some_or]
      · rw [isStack, files_stack] at closed
        exact trail.extend closed ⟨loaded, read, by simp [cut]⟩

theorem Calls.balances (calls : builder.Calls entry call) :
    builder.Balances call.opened call.progress := by
  induction calls with
  | outer read cut ran =>
      have before := forEach_load_eq_ok.1 ran
      exact (before.advances (List.cons_ne_nil _ _) (.start builder _ _)).balances
  | inner caller closed new read cut ran ih =>
      have before := forEach_load_eq_ok.1 ran
      have entered := ih.enter caller.opened_ne_nil closed new (readModule_eq_ok read).1
      exact (before.advances (by simp) entered).balances

/-- A build from `entry` is in order if its open modules are a line of imports that begins with the
entry, and what it has found balances them. -/
structure InOrder (builder : Builder) (entry : Path) (traversal : Traversal) : Prop
    extends builder.Balances traversal.opened traversal.toProgress where
  path : ∃ line, traversal.opened = builder.stack line ∧
    line.head? = some (builder.resolver.canonical entry) ∧ line.IsChain builder.Imports

theorem Calls.inOrder (calls : builder.Calls entry call) :
    builder.InOrder entry call.traversal where
  toBalances := calls.balances
  path := by
    obtain ⟨line, isStack, starts, trail⟩ := calls.exists_trail
    exact ⟨line, isStack, starts, trail.linked.left_of_append⟩

/-- Whatever is built from, a build is in order at every call of `load`, that is of `visit` with
itself for the calls below it; and if the call succeeds, then the build is in order again, with the
same modules open, nothing changed in the table but for what is added behind it, and all done that
was done and the module besides. -/
theorem load_keeps_order (calls : builder.Calls entry call) :
    builder.visit builder.traverse = builder.traverse ∧
    (∀ further, builder.visit^[builder.resolver.files.locations.length + 1] further =
      builder.traverse) ∧
    builder.InOrder entry call.traversal ∧
    ∀ after, (builder.traverse call.importer call.traversal call.module).result = .ok after →
      builder.InOrder entry after ∧
      after.opened = call.opened ∧
      call.progress.table.modules <+: after.table.modules ∧
      (∀ file ∈ call.progress.visited, file ∈ after.visited) ∧
      builder.fileOf call.module ∈ after.visited := by
  refine ⟨builder.visit_traverse, fun further => ?_, calls.inOrder, fun after ran => ?_⟩
  · funext importer traversal module
    apply iterate_visit
    exact Nat.lt_succ_of_le (List.length_filter_le _ _)
  · obtain ⟨same, collects⟩ := traverse_eq_ok ran
    have advances := collects.advances calls.opened_ne_nil calls.balances
    refine ⟨⟨?_, ?_⟩, same, advances.grown, advances.kept, advances.done _ List.mem_cons_self⟩
    · rw [same]
      exact advances.balances
    · rw [same]
      exact calls.inOrder.path

theorem load_keeps_order_diamond :
    ∃ call after, diamond.Calls ⟨"m.lua"⟩ call ∧
      call.opened = diamond.stack ["m.lua", "c.lua"] ∧
      call.progress.table.keys = ["b.lua", "d.lua", "c.lua"] ∧
      call.progress.visited = [diamond.fileOf "b.lua", diamond.fileOf "d.lua"] ∧
      diamond.InOrder ⟨"m.lua"⟩ call.traversal ∧
      (diamond.traverse call.importer call.traversal call.module).result = .ok after ∧
      diamond.InOrder ⟨"m.lua"⟩ after ∧ after.opened = call.opened := by
  have first : (diamond.readModule "m.lua").map (·.dependencies) =
      .ok (["b.lua"] ++ "c.lua" :: ["b.lua"]) := by decide +kernel
  have second : (diamond.readModule "c.lua").map (·.dependencies) = .ok ([] ++ "d.lua" :: []) := by
    decide +kernel
  have before : (Traced.forEach (diamond.load (diamond.opening ⟨"m.lua"⟩) "m.lua") {}
      ["b.lua"]).result.map (fun progress => (progress.table.keys, progress.visited)) =
      .ok (["b.lua", "d.lua"], [diamond.fileOf "b.lua", diamond.fileOf "d.lua"]) := by
    decide +kernel
  obtain ⟨main, readMain, imports⟩ := Traced.exists_of_map_eq_ok first
  obtain ⟨arm, readArm, imports'⟩ := Traced.exists_of_map_eq_ok second
  obtain ⟨progress, ran, state⟩ := Traced.exists_of_map_eq_ok before
  obtain ⟨keys, visited⟩ := Prod.mk.inj state
  -- Everything is closed but what `b.lua` has left, of which `keys` and `visited` are known.
  have named : diamond.resolver.canonical ⟨"m.lua"⟩ = "m.lua" := by decide +kernel
  have opening : diamond.opening ⟨"m.lua"⟩ = diamond.stack ["m.lua"] := by decide +kernel
  have closed : diamond.fileOf "c.lua" ∉ (diamond.stack ["m.lua"]).map (·.1) := by decide +kernel
  have new : diamond.fileOf "c.lua" ∉ progress.visited := by
    rw [visited]
    decide +kernel
  have outer : diamond.Calls ⟨"m.lua"⟩ ⟨_, _, progress, "c.lua"⟩ :=
    .outer (named.symm ▸ readMain) imports (named.symm ▸ ran)
  rw [opening] at outer
  have calls := Calls.inner outer closed new readArm imports' rfl
  obtain ⟨-, -, inOrder, kept⟩ := load_keeps_order calls
  have free : diamond.fileOf "d.lua" ∉ (diamond.stack ["m.lua", "c.lua"]).map (·.1) := by
    decide +kernel
  have met : diamond.fileOf "d.lua" ∈ (progress.enter arm).visited := by
    rw [Progress.visited_enter, visited]
    decide +kernel
  have passed : (diamond.traverse "c.lua" ⟨progress.enter arm, diamond.stack ["m.lua", "c.lua"]⟩
      "d.lua").result = .ok ⟨progress.enter arm, diamond.stack ["m.lua", "c.lua"]⟩ := by
    rw [traverse, load_of_visited free met]
    rfl
  obtain ⟨again, same, -⟩ := kept _ passed
  refine ⟨_, _, calls, rfl, ?_, visited, inOrder, passed, again, same⟩
  have fresh : "c.lua" ∉ progress.table.keys := by
    rw [keys]
    decide
  rw [(Progress.keys_enter fresh (readModule_eq_ok readArm).1).2, keys]
  rfl

end Builder

end LuaBundle
