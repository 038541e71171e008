import LuaBundle.Proofs.Imports
import Mathlib.Logic.Relation

/-! # Imports written out as a tree

Following every import from a module, and every import of what is imported, without ever looking
whether a module was met before, gives a tree in which a module stands as often as it is imported.
`Unfolds` relates modules to their trees. A module has at most one tree, and if it has one then the
modules in it are those that can be reached, and none of them can be reached from itself.
-/

namespace LuaBundle

/-- A module with the trees of what it imports, in the order of the imports. -/
inductive ImportTree where
  | node (module : String) (below : List ImportTree)

namespace ImportTree

mutual
/-- The modules of a tree, each before those below it. -/
def walk : ImportTree → List String
  | .node module below => module :: walkAll below

/-- The modules of trees that stand side by side. -/
def walkAll : List ImportTree → List String
  | [] => []
  | tree :: trees => tree.walk ++ walkAll trees
end

end ImportTree

open ImportTree (walkAll)

namespace Builder

variable {builder : Builder}

/-- The full trees of modules that stand side by side. -/
inductive Unfolds (builder : Builder) : List String → List ImportTree → Prop where
  | nil : Unfolds builder [] []
  | cons {module rest loaded below beside} (read : builder.readModule module = .ok loaded)
      (inside : Unfolds builder loaded.dependencies below) (further : Unfolds builder rest beside) :
      Unfolds builder (module :: rest) (.node module below :: beside)

namespace Unfolds

theorem unique {modules trees others} (first : Unfolds builder modules trees)
    (second : Unfolds builder modules others) : trees = others := by
  induction first generalizing others with
  | nil =>
      cases second
      rfl
  | cons read _ _ ihBelow ihBeside =>
      cases second with
      | cons readAgain inside further =>
          rw [read] at readAgain
          cases readAgain
          rw [ihBelow inside, ihBeside further]

theorem cons_of_singleton {module tree modules trees} (first : Unfolds builder [module] [tree])
    (further : Unfolds builder modules trees) :
    Unfolds builder (module :: modules) (tree :: trees) := by
  cases first with
  | cons read inside _ => exact .cons read inside further

theorem mem_walkAll {modules trees} (unfolds : Unfolds builder modules trees) {module : String}
    (mem : module ∈ modules) : module ∈ walkAll trees := by
  induction unfolds with
  | nil => cases mem
  | cons _ _ _ _ ihBeside =>
      rw [walkAll, ImportTree.walk]
      rcases List.mem_cons.1 mem with rfl | mem
      · exact List.mem_cons_self
      · exact List.mem_append_right _ (ihBeside mem)

/-- What a module of a tree imports is in the tree too. -/
theorem imports_closed {modules trees} (unfolds : Unfolds builder modules trees)
    {module dependency : String} (mem : module ∈ walkAll trees)
    (imports : builder.Imports module dependency) : dependency ∈ walkAll trees := by
  induction unfolds with
  | nil => cases mem
  | cons read inside further ihBelow ihBeside =>
      rw [walkAll, ImportTree.walk] at mem ⊢
      rcases List.mem_append.1 mem with here | beside
      · apply List.mem_append_left
        apply List.mem_cons_of_mem
        rcases List.mem_cons.1 here with rfl | below
        · obtain ⟨loaded, readAgain, among⟩ := imports
          rw [read] at readAgain
          cases readAgain
          exact inside.mem_walkAll among
        · exact ihBelow below
      · exact List.mem_append_right _ (ihBeside beside)

theorem reached_of_mem {modules trees} (unfolds : Unfolds builder modules trees) {module : String}
    (mem : module ∈ walkAll trees) :
    ∃ start ∈ modules, Relation.ReflTransGen builder.Imports start module := by
  induction unfolds with
  | nil => cases mem
  | cons read inside further ihBelow ihBeside =>
      rw [walkAll, ImportTree.walk] at mem
      rcases List.mem_append.1 mem with here | beside
      · rcases List.mem_cons.1 here with rfl | below
        · exact ⟨_, List.mem_cons_self, .refl⟩
        · obtain ⟨start, among, reached⟩ := ihBelow below
          exact ⟨_, List.mem_cons_self, .head ⟨_, read, among⟩ reached⟩
      · obtain ⟨start, among, reached⟩ := ihBeside beside
        exact ⟨start, List.mem_cons_of_mem _ among, reached⟩

/-- The modules of trees are those that can be reached from where the trees start. -/
theorem mem_walkAll_iff {modules trees} (unfolds : Unfolds builder modules trees)
    (module : String) : module ∈ walkAll trees ↔
      ∃ start ∈ modules, Relation.ReflTransGen builder.Imports start module := by
  constructor
  · exact unfolds.reached_of_mem
  · rintro ⟨start, among, reached⟩
    induction reached with
    | refl => exact unfolds.mem_walkAll among
    | tail _ imports ih => exact unfolds.imports_closed ih imports

end Unfolds

end Builder

end LuaBundle
