import LuaBundle.ModuleGraph
import LuaBundle.Proofs.Linking
import LuaBundle.Proofs.Resolution

/-! # What one module imports

Reading a module either gives it with its imports linked, or fails because its file cannot be read
or one of its literals does not resolve. `Imports` are the imports of a module that was read;
`LinksTo` holds literal by literal, also in a module some other literal of which does not resolve.
Seen from a base directory at the root, every imported module is known by its canonical path.
-/

namespace LuaBundle.Builder

/-- Where the file of a module is. -/
def fileOf (builder : Builder) (module : String) : Location :=
  (builder.resolver.absolute module).location

/-- Read a module's file and link it. -/
def readModule (builder : Builder) (module : String) : Except BuildError Module :=
  match builder.resolver.files.read (builder.resolver.absolute module) with
  | .error fault => .error (.file (builder.resolver.absolute module) fault)
  | .ok source => (builder.moduleOf module source).result

/-- The paths that a module imports by literals, from left to right. -/
def literals (builder : Builder) (module : String) : List String :=
  match builder.resolver.files.read (builder.resolver.absolute module) with
  | .error _ => []
  | .ok source => builder.linker.literals source.toList

/-- One module imports another. -/
def Imports (builder : Builder) (module dependency : String) : Prop :=
  ∃ loaded, builder.readModule module = .ok loaded ∧ dependency ∈ loaded.dependencies

/-- A literal of one module resolves to another. -/
def LinksTo (builder : Builder) (module dependency : String) : Prop :=
  ∃ literal ∈ builder.literals module,
    (builder.resolver.resolve module literal).result = .ok dependency

theorem result_moduleOf (builder : Builder) (module source : String) :
    (builder.moduleOf module source).result =
      (builder.linker.link module source.toList).result.bind fun linked =>
        .ok ⟨module, source, String.ofList linked.text, linked.dependencies⟩ := by
  rw [moduleOf, Traced.result_bind]
  exact Traced.result_bind _ _

/-- A module that was read is the linked text of its file. -/
theorem readModule_eq_ok {builder : Builder} {module : String} {loaded : Module}
    (read : builder.readModule module = .ok loaded) :
    loaded.path = module ∧
      builder.resolver.files.read (builder.resolver.absolute module) = .ok loaded.source ∧
      ∃ linked, (builder.linker.link module loaded.source.toList).result = .ok linked ∧
        loaded.body = String.ofList linked.text ∧ loaded.dependencies = linked.dependencies := by
  unfold readModule at read
  split at read
  · cases read
  · next source text =>
      rw [result_moduleOf] at read
      cases result : (builder.linker.link module source.toList).result with
      | error error =>
          rw [result] at read
          cases read
      | ok linked =>
          rw [result] at read
          cases read
          exact ⟨rfl, text, linked, result, rfl, rfl⟩

/-- A module that was not read has no file, or a literal that does not resolve. -/
theorem readModule_eq_error {builder : Builder} {module : String} {error : BuildError}
    (failed : builder.readModule module = .error error) :
    (∃ fault, builder.resolver.files.read (builder.resolver.absolute module) = .error fault ∧
      error = .file (builder.resolver.absolute module) fault) ∨
    ∃ literal ∈ builder.literals module,
      (builder.resolver.resolve module literal).result = .error error := by
  unfold readModule at failed
  unfold literals
  split at failed
  · next fault unread =>
      cases failed
      exact .inl ⟨fault, unread, rfl⟩
  · next source text =>
      rw [result_moduleOf] at failed
      cases result : (builder.linker.link module source.toList).result with
      | error error =>
          rw [result] at failed
          cases failed
          rw [text]
          exact .inr (Linker.link_error result)
      | ok linked =>
          rw [result] at failed
          cases failed

theorem dependencies_of_readModule {builder : Builder} {module : String} {loaded : Module}
    (read : builder.readModule module = .ok loaded) :
    List.Forall₂
      (fun literal dependency =>
        (builder.resolver.resolve module literal).result = .ok dependency)
      (builder.literals module) loaded.dependencies := by
  obtain ⟨-, text, linked, link, -, same⟩ := readModule_eq_ok read
  rw [literals, text, same]
  exact Linker.link_ok link

theorem exists_of_mem_right {α β : Type} {R : α → β → Prop} {as : List α} {bs : List β}
    (related : List.Forall₂ R as bs) {b : β} (mem : b ∈ bs) : ∃ a ∈ as, R a b := by
  induction related with
  | nil => cases mem
  | cons here _ ih =>
      rcases List.mem_cons.1 mem with rfl | mem
      · exact ⟨_, List.mem_cons_self, here⟩
      · obtain ⟨a, inside, there⟩ := ih mem
        exact ⟨a, List.mem_cons_of_mem _ inside, there⟩

theorem Imports.linksTo {builder : Builder} {module dependency : String}
    (imports : builder.Imports module dependency) : builder.LinksTo module dependency := by
  obtain ⟨loaded, read, mem⟩ := imports
  exact exists_of_mem_right (dependencies_of_readModule read) mem

/-- In a module that was read, every literal resolves. -/
theorem resolves_of_readModule {builder : Builder} {module literal : String} {loaded : Module}
    (read : builder.readModule module = .ok loaded) (mem : literal ∈ builder.literals module) :
    ∃ dependency ∈ loaded.dependencies,
      (builder.resolver.resolve module literal).result = .ok dependency :=
  exists_of_mem_right (dependencies_of_readModule read).flip mem

theorem LinksTo.imports {builder : Builder} {module dependency : String} {loaded : Module}
    (links : builder.LinksTo module dependency) (read : builder.readModule module = .ok loaded) :
    builder.Imports module dependency := by
  obtain ⟨literal, mem, resolved⟩ := links
  obtain ⟨other, inside, same⟩ := resolves_of_readModule read mem
  rw [resolved] at same
  cases same
  exact ⟨loaded, read, inside⟩

theorem Imports.isCanonical {builder : Builder} (rooted : builder.resolver.Rooted)
    {module dependency : String} (imports : builder.Imports module dependency) :
    builder.resolver.IsCanonical dependency := by
  obtain ⟨literal, -, resolved⟩ := imports.linksTo
  exact Resolver.isCanonical_of_resolve rooted resolved

end LuaBundle.Builder
