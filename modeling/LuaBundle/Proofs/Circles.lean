import LuaBundle.Proofs.Traversal
import Mathlib.Data.List.Chain
import Mathlib.Logic.Relation

/-! # Where a build stops

At every moment the open modules are a line of imports from the entry on, in which no module stands
twice; `Trail` is such a line together with the module that is looked at next. Opening that module
makes the line longer by one, and the modules beside it are looked at behind the same line again.
So a build that stops does so at the end of a line: there is a module whose file is open already, or
one that cannot be read. In the first case the line from that module on is a circle.
-/

namespace LuaBundle.Builder

variable {builder : Builder} {start module : String} {line : List String}

/-- Modules that are open, with their files. -/
def stack (builder : Builder) (line : List String) : OpenModules :=
  line.map fun module => (builder.fileOf module, module)

@[simp]
theorem files_stack (builder : Builder) (line : List String) :
    (builder.stack line).map (·.1) = line.map builder.fileOf := by
  simp [stack]

theorem stack_concat (builder : Builder) (line : List String) (module : String) :
    builder.stack (line ++ [module]) = builder.stack line ++ [(builder.fileOf module, module)] := by
  simp [stack]

/-- A line of imports from `start` to `module`, all of which but the last is open. -/
structure Trail (builder : Builder) (start : String) (line : List String) (module : String) :
    Prop where
  linked : (line ++ [module]).IsChain builder.Imports
  unique : line.Nodup
  reached : ∀ name ∈ line ++ [module], Relation.ReflTransGen builder.Imports start name

namespace Trail

/-- The line from which a build begins. -/
theorem first (imports : builder.Imports start module) : Trail builder start [start] module where
  linked := List.isChain_pair.2 imports
  unique := List.pairwise_singleton _ start
  reached := by
    intro name mem
    rcases List.mem_cons.1 mem with rfl | mem
    · exact .refl
    · rw [List.mem_singleton.1 mem]
      exact .single imports

/-- Opening the module at the end of a line, and going on to what it imports. -/
theorem extend (trail : Trail builder start line module)
    (closed : builder.fileOf module ∉ line.map builder.fileOf) {dependency : String}
    (imports : builder.Imports module dependency) :
    Trail builder start (line ++ [module]) dependency where
  linked := by
    refine List.isChain_append.2 ⟨trail.linked, List.isChain_singleton dependency, ?_⟩
    intro last isLast next isNext
    simp only [List.getLast?_concat, Option.mem_def, Option.some.injEq] at isLast
    simp only [List.head?_cons, Option.mem_def, Option.some.injEq] at isNext
    exact isLast ▸ isNext ▸ imports
  unique := by
    have absent : module ∉ line := fun mem => closed (List.mem_map_of_mem mem)
    refine List.nodup_append.2 ⟨trail.unique, List.pairwise_singleton _ module, ?_⟩
    intro name mem other here same
    rw [List.mem_singleton.1 here] at same
    exact absent (same ▸ mem)
  reached := by
    intro name mem
    rcases List.mem_append.1 mem with before | here
    · exact trail.reached name before
    · rw [List.mem_singleton.1 here]
      exact (trail.reached module (by simp)).tail imports

theorem isCanonical (trail : Trail builder start line module) (rooted : builder.resolver.Rooted)
    (named : builder.resolver.IsCanonical start) {name : String} (mem : name ∈ line ++ [module]) :
    builder.resolver.IsCanonical name := by
  cases trail.reached name mem with
  | refl => exact named
  | tail _ imports => exact imports.isCanonical rooted

/-- A circle that a line ends in is one of imports, passes no module twice and can be reached. -/
theorem circle {front back : List String} (trail : Trail builder start line module)
    (cut : line = front ++ module :: back) :
    (module :: back ++ [module]).IsChain builder.Imports ∧ (module :: back).Nodup ∧
      Relation.ReflTransGen builder.Imports start module := by
  have linked := trail.linked
  have unique := trail.unique
  rw [cut] at linked unique
  rw [List.append_assoc] at linked
  exact ⟨linked.right_of_append, (List.nodup_append.1 unique).2.1, trail.reached module (by simp)⟩

end Trail

/-- An error that a build from `start` meets at the end of a line of imports. -/
inductive Meets (builder : Builder) (start : String) : BuildError → Prop where
  /-- The file of the last module is open. -/
  | circle {line : List String} {module : String} (trail : Trail builder start line module)
      (isOpen : builder.fileOf module ∈ line.map builder.fileOf) :
      Meets builder start
        (.circularImport ((builder.stack line).cycleThrough (builder.fileOf module) module))
  /-- The last module cannot be read or linked. -/
  | unread {line : List String} {module : String} {error : BuildError}
      (trail : Trail builder start line module)
      (failed : builder.readModule module = .error error) : Meets builder start error

/-- Bringing in modules only ever stops at the end of a line of imports. -/
theorem Fails.meets {opened : OpenModules} {progress : Progress} {modules : List String}
    {error : BuildError} (failed : Fails builder opened progress modules error)
    (isStack : opened = builder.stack line)
    (trails : ∀ module ∈ modules, Trail builder start line module) :
    Meets builder start error := by
  -- The line is left general: it grows by one with every module that is opened.
  induction failed generalizing line with
  | circle isOpen =>
      subst isStack
      rw [files_stack] at isOpen
      exact .circle (trails _ List.mem_cons_self) isOpen
  | unread closed new read => exact .unread (trails _ List.mem_cons_self) read
  | @inside opened progress module rest loaded error closed new read failed ih =>
      subst isStack
      rw [files_stack] at closed
      refine ih (builder.stack_concat line module).symm fun dependency needed => ?_
      exact (trails module List.mem_cons_self).extend closed ⟨loaded, read, needed⟩
  | later first failed ih =>
      exact ih isStack fun module mem => trails module (List.mem_cons_of_mem _ mem)

/-- A build that fails could not read the entry, or stopped at the end of a line of imports. -/
theorem meets_of_build {entry : Path} {error : BuildError}
    (failed : (builder.build entry).result = .error error) :
    builder.readModule (builder.resolver.canonical entry) = .error error ∨
      Meets builder (builder.resolver.canonical entry) error := by
  rcases build_eq_error failed with unread | ⟨loaded, read, stopped⟩
  · exact .inl unread
  · have isStack : builder.opening entry = builder.stack [builder.resolver.canonical entry] := rfl
    refine .inr (stopped.meets isStack fun module needed => ?_)
    exact .first ⟨loaded, read, needed⟩

end LuaBundle.Builder
