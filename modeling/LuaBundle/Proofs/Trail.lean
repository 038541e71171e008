import LuaBundle.Proofs.Traversal
import Mathlib.Logic.Relation

/-! # What the trail of a build tells

Every question that a build puts to its files is put on behalf of a module: its file is read, and
the candidates of its literals are tested one after the other up to the first that is a file.
`Asks` says which questions a module is the reason for. A build asks nothing else, and only for
modules that the entry reaches.
-/

namespace LuaBundle

variable {event : Event} {importer literal module : String}

namespace Resolver

theorem mem_events_probe {files : FileView} {paths : List Path}
    (mem : event ∈ (probe files paths).1) :
    ∃ before path after, paths = before ++ path :: after ∧
      (∀ earlier ∈ before, files.isFile earlier = false) ∧
      event = .probed path (files.isFile path) := by
  induction paths with
  | nil => cases mem
  | cons first rest ih =>
      unfold probe at mem
      split at mem
      · next isFile =>
          rw [List.mem_singleton.1 mem]
          exact ⟨[], first, rest, rfl, by simp, by rw [isFile]⟩
      · next unmet =>
          rw [Bool.not_eq_true] at unmet
          rcases List.mem_cons.1 mem with rfl | later
          · exact ⟨[], first, rest, rfl, by simp, by rw [unmet]⟩
          · obtain ⟨before, path, after, rfl, others, same⟩ := ih later
            refine ⟨first :: before, path, after, rfl, fun earlier inside => ?_, same⟩
            rcases List.mem_cons.1 inside with rfl | inside
            · exact unmet
            · exact others earlier inside

/-- Resolving tests candidates, each only if none before it is a file, and reports what it found. -/
theorem mem_events_resolve {resolver : Resolver}
    (mem : event ∈ (resolver.resolve importer literal).events) :
    (∃ before path after, resolver.candidates importer literal = before ++ path :: after ∧
      (∀ earlier ∈ before, resolver.files.isFile earlier = false) ∧
      event = .probed path (resolver.files.isFile path)) ∨
    ∃ module, event = .resolved literal importer module := by
  simp only [resolve] at mem
  split at mem
  · next events path outcome =>
      rcases List.mem_append.1 mem with tested | reported
      · refine .inl (mem_events_probe ?_)
        rw [outcome]
        exact tested
      · exact .inr ⟨_, List.mem_singleton.1 reported⟩
  · next events outcome =>
      refine .inl (mem_events_probe ?_)
      rw [outcome]
      exact mem

end Resolver

namespace Linker

variable {linker : Linker}

theorem mem_events_linkCall {gap : List Char} {call : ImportCall}
    (mem : event ∈ (linker.linkCall importer call).events) :
    ∃ literal ∈ literalOf? (gap, call),
      event ∈ (linker.resolver.resolve importer literal).events := by
  unfold linkCall at mem
  split at mem
  · next literal isLiteral =>
      rcases Traced.mem_events_bind.1 mem with asked | ⟨module, -, nothing⟩
      · exact ⟨String.ofList literal, by simp [literalOf?, isLiteral], asked⟩
      · cases nothing
  · cases mem

theorem mem_events_linkCalls {tail : List Char} {calls : List (List Char × ImportCall)}
    (mem : event ∈ (linker.linkCalls importer tail calls).events) :
    ∃ literal ∈ calls.filterMap literalOf?,
      event ∈ (linker.resolver.resolve importer literal).events := by
  induction calls with
  | nil => cases mem
  | cons cut calls ih =>
      rcases Traced.mem_events_bind.1 mem with first | ⟨linked, -, later⟩
      · obtain ⟨literal, here, asked⟩ := mem_events_linkCall first
        exact ⟨literal, List.mem_filterMap.2 ⟨cut, List.mem_cons_self, here⟩, asked⟩
      · rcases Traced.mem_events_bind.1 later with later | ⟨rest, -, nothing⟩
        · obtain ⟨literal, inside, asked⟩ := ih later
          obtain ⟨other, among, isLiteral⟩ := List.mem_filterMap.1 inside
          exact ⟨literal, List.mem_filterMap.2 ⟨other, List.mem_cons_of_mem _ among, isLiteral⟩,
            asked⟩
        · cases nothing

end Linker

namespace Builder

variable {builder : Builder} {opened : OpenModules} {progress : Progress}

/-- A question that a build asks because of a module: what its file holds, or whether a candidate of
one of its literals is a file. -/
inductive Asks (builder : Builder) (module : String) : Event → Prop where
  | read : Asks builder module (.read (builder.resolver.absolute module))
  | probed {literal : String} {before after : List Path} {path : Path}
      (mem : literal ∈ builder.literals module)
      (cut : builder.resolver.candidates module literal = before ++ path :: after)
      (unmet : ∀ earlier ∈ before, builder.resolver.files.isFile earlier = false) :
      Asks builder module (.probed path (builder.resolver.files.isFile path))

theorem mem_events_moduleOf {source : String}
    (read : builder.resolver.files.read (builder.resolver.absolute module) = .ok source)
    (mem : event ∈ (builder.moduleOf module source).events) :
    event.readPath? = none ∧ (event.path? = none ∨ builder.Asks module event) := by
  rcases Traced.mem_events_bind.1 mem with remarked | ⟨-, -, linked⟩
  · unfold Traced.tell remarks at remarked
    split at remarked
    · obtain ⟨diagnostic, -, rfl⟩ := List.mem_map.1 remarked
      exact ⟨rfl, .inl rfl⟩
    · cases remarked
  · rcases Traced.mem_events_bind.1 linked with asked | ⟨linked, -, nothing⟩
    · obtain ⟨literal, inside, asked⟩ := Linker.mem_events_linkCalls asked
      have written : literal ∈ builder.literals module := by
        rw [literals, read]
        exact inside
      rcases Resolver.mem_events_resolve asked with ⟨before, path, after, cut, unmet, rfl⟩ | told
      · exact ⟨rfl, .inr (.probed written cut unmet)⟩
      · obtain ⟨found, rfl⟩ := told
        exact ⟨rfl, .inl rfl⟩
    · cases nothing

theorem mem_events_openModule (mem : event ∈ (builder.openModule module).events) :
    event.path? = none ∨ builder.Asks module event := by
  rcases Traced.mem_events_bind.1 mem with read | ⟨-, -, further⟩
  · rw [List.mem_singleton.1 read]
    exact .inr .read
  · split at further
    · cases further
    · next source text => exact (mem_events_moduleOf text further).2

/-- Opening a module reads its file and no other. -/
theorem reads_openModule (builder : Builder) (module : String) :
    (builder.openModule module).reads = [builder.resolver.absolute module] := by
  have other : ∀ source,
      builder.resolver.files.read (builder.resolver.absolute module) = .ok source →
      (builder.moduleOf module source).reads = [] := by
    intro source text
    rw [Traced.reads, List.filterMap_eq_nil_iff]
    intro event mem
    exact (mem_events_moduleOf text mem).1
  rw [openModule, Traced.reads, Traced.events_bind_of_ok (Traced.result_tell _),
    List.filterMap_append, ← Traced.reads, ← Traced.reads]
  split
  · rfl
  · next source text =>
      rw [other source text]
      rfl

/-- Bringing in a module asks only on behalf of modules that can be reached from it. -/
theorem asked_of_mem_load {importer : String}
    (mem : event ∈ (builder.load opened importer progress module).events)
    (asks : event.path? ≠ none) :
    ∃ asker, Relation.ReflTransGen builder.Imports module asker ∧ builder.Asks asker event := by
  induction opened, importer, progress, module using load_induct builder with
  | circle opened importer progress module isOpen =>
      rw [load_of_open isOpen] at mem
      cases mem
  | met opened importer progress module closed visited =>
      rw [load_of_visited closed visited] at mem
      rw [List.mem_singleton.1 mem] at asks
      exact absurd rfl asks
  | entered opened importer progress module closed new ih =>
      rw [load_of_new closed new] at mem
      rcases Traced.mem_events_bind.1 mem with loading | ⟨-, -, mem⟩
      · rw [List.mem_singleton.1 loading] at asks
        exact absurd rfl asks
      rcases Traced.mem_events_bind.1 mem with here | ⟨loaded, read, mem⟩
      · exact ⟨module, .refl, (mem_events_openModule here).resolve_left asks⟩
      rw [result_openModule] at read
      rcases Traced.mem_events_bind.1 mem with below | ⟨final, -, nothing⟩
      · obtain ⟨dependency, needed, before, inside⟩ := Traced.mem_events_forEach below
        obtain ⟨asker, reached, asked⟩ := ih loaded read before dependency inside
        exact ⟨asker, .head ⟨loaded, read, needed⟩ reached, asked⟩
      · cases nothing

/-- A build asks only on behalf of the entry and of modules that the entry reaches. -/
theorem asked_of_mem_build {entry : Path} (mem : event ∈ (builder.build entry).events)
    (asks : event.path? ≠ none) :
    ∃ asker, Relation.ReflTransGen builder.Imports (builder.resolver.canonical entry) asker ∧
      builder.Asks asker event := by
  rw [build_eq] at mem
  rcases Traced.mem_events_bind.1 mem with began | ⟨-, -, mem⟩
  · rw [List.mem_singleton.1 began] at asks
    exact absurd rfl asks
  rcases Traced.mem_events_bind.1 mem with here | ⟨loaded, read, mem⟩
  · exact ⟨_, .refl, (mem_events_openModule here).resolve_left asks⟩
  rw [result_openModule] at read
  rcases Traced.mem_events_bind.1 mem with below | ⟨final, -, collected⟩
  · obtain ⟨dependency, needed, before, inside⟩ := Traced.mem_events_forEach below
    obtain ⟨asker, reached, asked⟩ := asked_of_mem_load inside asks
    exact ⟨asker, .head ⟨loaded, read, needed⟩ reached, asked⟩
  · rcases Traced.mem_events_bind.1 collected with told | ⟨-, -, nothing⟩
    · rw [List.mem_singleton.1 told] at asks
      exact absurd rfl asks
    · cases nothing

end Builder

end LuaBundle
