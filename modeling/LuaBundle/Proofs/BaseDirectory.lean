import LuaBundle.Proofs.Resolution

/-! # Base directories

A canonical path is how a file is seen from the base directory. It leads back to that file whenever
there is a way from the one to the other, that is if the base directory begins at the root or the
path does not.

Resolving an import asks for more. The candidate that was found lies below the base directory
already, and its canonical path is made by joining it to that directory once more. From a directory
at the root this changes nothing, and neither does it from the empty path. From every other base
directory imports can resolve to a module whose file is not the one that was tested.
-/

namespace LuaBundle

namespace Component

theorem mem_of_mem_fold {step component : Component} {above : List Component}
    (mem : step ∈ fold above component) : step = component ∨ step ∈ above := by
  unfold fold at mem
  split at mem
  · exact .inr mem
  · exact .inr (List.mem_cons_of_mem _ mem)
  · exact .inr mem
  · exact List.mem_cons.1 mem

/-- Folding brings in no component that was not there. -/
theorem mem_of_mem_foldl {step : Component} {above components : List Component}
    (mem : step ∈ components.foldl fold above) : step ∈ components ∨ step ∈ above := by
  induction components generalizing above with
  | nil => exact .inr mem
  | cons component components ih =>
      rcases ih mem with later | before
      · exact .inl (List.mem_cons_of_mem component later)
      · rcases mem_of_mem_fold before with rfl | held
        · exact .inl List.mem_cons_self
        · exact .inr held

theorem root_not_mem_foldl {above components : List Component} (absent : .root ∉ above)
    (others : .root ∉ components) : .root ∉ components.foldl fold above :=
  fun mem => (mem_of_mem_foldl mem).elim others absent

end Component

namespace Path

theorem join_of_empty {base : Path} (empty : base.text = "") (other : Path) :
    base.join other = other := by
  cases kind : other.isAbsolute with
  | true => exact join_of_isAbsolute base kind
  | false => simp [join, kind, empty]

theorem root_not_mem_location {path : Path} (relative : path.isAbsolute = false) :
    .root ∉ path.location := by
  intro mem
  rw [← Bool.not_eq_true, isAbsolute_iff] at relative
  have spelled := path.spellable_location
  generalize path.location = location at relative spelled mem
  cases spelled with
  | relative each => exact each .root mem
  | root each => exact relative rfl
  | current each => exact each .root ((List.mem_cons.1 mem).resolve_left (by simp))

theorem isAbsolute_normalize_of_relative {path : Path} (relative : path.isAbsolute = false) :
    path.normalize.isAbsolute = false := by
  rw [← Bool.not_eq_true, isAbsolute_iff]
  intro first
  have held : .root ∈ path.location.foldl Component.fold [] := by
    rw [location_normalize, Component.normalize] at first
    exact List.mem_reverse.1 (List.mem_of_head? first)
  exact Component.root_not_mem_foldl (by simp) (root_not_mem_location relative) held

end Path

namespace Resolver

variable {resolver : Resolver} {importer literal module : String}

/-- A module leads to the file that an import was found at: the first candidate that is one. -/
def LeadsToTested (resolver : Resolver) (importer literal module : String) : Prop :=
  ∃ before path after, resolver.candidates importer literal = before ++ path :: after ∧
    (∀ earlier ∈ before, resolver.files.isFile earlier = false) ∧
    resolver.files.isFile path = true ∧ (resolver.absolute module).location = path.location

theorem LeadsToTested.isFile {files : Files} (view : resolver.files = files.view)
    (leads : resolver.LeadsToTested importer literal module) :
    files.isFile (resolver.absolute module) = true := by
  obtain ⟨before, path, after, -, -, isFile, same⟩ := leads
  rw [view] at isFile
  rw [files.isFile_congr same]
  exact isFile

end Resolver

end LuaBundle
