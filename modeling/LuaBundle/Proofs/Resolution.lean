import LuaBundle.Proofs.Path.Normal
import LuaBundle.Resolver

/-! # Canonical paths name files

Seen from a base directory that begins at the root, a canonical path leads back to the very file it
was made from, so two modules with one file have one canonical path. Resolution only ever hands out
canonical paths, and where files are kept under normal paths the module it finds is the file it
tested.
-/

namespace LuaBundle

namespace Resolver

/-- The base directory is in normal form and begins at the root. -/
structure Rooted (resolver : Resolver) : Prop where
  normal : resolver.base.normalize = resolver.base
  absolute : resolver.base.isAbsolute = true

theorem rooted_ofBase {base : Path} (absolute : base.isAbsolute = true) (extensions : List String)
    (files : FileView) : (ofBase base extensions files).Rooted :=
  ⟨base.normalize_normalize, Path.isAbsolute_normalize absolute⟩

/-- A canonical path leads back to the file it was made from. Only a relative base directory with an
absolute path below it is left out: there is no way from the one to the other. -/
theorem absolute_canonical {resolver : Resolver} (normal : resolver.base.normalize = resolver.base)
    {path : Path} (kind : resolver.base.isAbsolute = true ∨ path.isAbsolute = false) :
    resolver.absolute (resolver.canonical path) = (resolver.base.join path).normalize := by
  have forked := Path.forked_join normal kind
  have normalFile := (resolver.base.join path).normalize_normalize
  unfold absolute canonical Path.relativeTo
  generalize (resolver.base.join path).normalize = file at forked normalFile
  have each := forked.isStep_way
  have heldBase := Path.held_location normal
  have arrives := Component.normalize_way heldBase (Path.held_location normalFile)
    forked.names_below_shared
  rw [Component.normalize_append heldBase] at arrives
  rw [Component.relativeTo_eq each, ← Path.ofLocation]
  generalize Component.way resolver.base.location file.location = way at each arrives
  have same : (resolver.base.join (Path.ofLocation way)).normalize = file.normalize := by
    apply Path.normalize_ext
    rw [Path.location_normalize_join _ (Path.isAbsolute_ofLocation each),
      Path.steps_ofLocation each, normal, arrives, normalFile]
  exact same.trans normalFile

/-- A name that canonical paths are: the file it leads to is known by that very name. -/
def IsCanonical (resolver : Resolver) (module : String) : Prop :=
  resolver.canonical (resolver.absolute module) = module

theorem isCanonical_canonical {resolver : Resolver} (rooted : resolver.Rooted) (path : Path) :
    resolver.IsCanonical (resolver.canonical path) := by
  have file := Path.isAbsolute_normalize (Path.isAbsolute_join rooted.absolute path)
  rw [IsCanonical, absolute_canonical rooted.normal (.inl rooted.absolute), canonical,
    Path.join_of_isAbsolute _ file,
    Path.normalize_normalize, canonical]

/-- Modules with one file have one name. -/
theorem IsCanonical.eq_of_location {resolver : Resolver} {module other : String}
    (first : resolver.IsCanonical module) (second : resolver.IsCanonical other)
    (same : (resolver.absolute module).location = (resolver.absolute other).location) :
    module = other := by
  have file : resolver.absolute module = resolver.absolute other := Path.normalize_ext same
  rw [← first, ← second, file]

theorem isAbsolute_absolute {resolver : Resolver} (rooted : resolver.Rooted) (module : String) :
    (resolver.absolute module).isAbsolute = true :=
  Path.isAbsolute_normalize (Path.isAbsolute_join rooted.absolute _)

theorem isAbsolute_directory {resolver : Resolver} (rooted : resolver.Rooted) (importer : String) :
    (((resolver.absolute importer).parent?).getD resolver.base).isAbsolute = true := by
  cases parent : (resolver.absolute importer).parent? with
  | none => exact rooted.absolute
  | some directory => exact Path.isAbsolute_parent? (isAbsolute_absolute rooted importer) parent

theorem isAbsolute_target {resolver : Resolver} (rooted : resolver.Rooted)
    (importer literal : String) : (resolver.target importer literal).isAbsolute = true := by
  apply Path.isAbsolute_normalize
  apply Path.isAbsolute_join
  exact isAbsolute_directory rooted importer

theorem isAbsolute_of_mem_candidates {resolver : Resolver} (rooted : resolver.Rooted)
    {importer literal : String} {path : Path} (mem : path ∈ resolver.candidates importer literal) :
    path.isAbsolute = true := by
  have target := isAbsolute_target rooted importer literal
  unfold candidates at mem
  split at mem
  · rw [List.mem_singleton.1 mem]
    exact target
  · obtain ⟨extension, -, rfl⟩ := List.mem_map.1 mem
    exact Path.isAbsolute_append target extension

theorem snd_probe (files : FileView) (paths : List Path) :
    (probe files paths).2 = paths.find? files.isFile := by
  induction paths with
  | nil => rfl
  | cons path paths ih =>
      unfold probe
      cases isFile : files.isFile path with
      | true => simp [isFile]
      | false => simp [isFile, ih]

/-- What an import means is settled by the first of its candidates that is a file. -/
theorem result_resolve (resolver : Resolver) (importer literal : String) :
    (resolver.resolve importer literal).result =
      match (resolver.candidates importer literal).find? resolver.files.isFile with
      | some path => .ok (resolver.canonical path)
      | none => .error (.moduleNotFound literal
          ((resolver.candidates importer literal).map resolver.canonical) importer) := by
  have outcome := snd_probe resolver.files (resolver.candidates importer literal)
  simp only [resolve]
  split
  · next events path probed =>
      rw [probed] at outcome
      rw [← outcome]
  · next events probed =>
      rw [probed] at outcome
      rw [← outcome]

/-- A resolved import means the first of its candidates that is a file. -/
theorem cut_of_resolve {resolver : Resolver} {importer literal module : String}
    (resolved : (resolver.resolve importer literal).result = .ok module) :
    ∃ before path after, resolver.candidates importer literal = before ++ path :: after ∧
      (∀ earlier ∈ before, resolver.files.isFile earlier = false) ∧
      resolver.files.isFile path = true ∧ module = resolver.canonical path := by
  rw [result_resolve] at resolved
  split at resolved
  · next path found =>
      obtain ⟨isFile, before, after, cut, others⟩ := List.find?_eq_some_iff_append.1 found
      refine ⟨before, path, after, cut, fun earlier mem => ?_, isFile, ?_⟩
      · simpa using others earlier mem
      · exact (Except.ok.inj resolved).symm
  · cases resolved

theorem candidate_of_resolve {resolver : Resolver} {importer literal module : String}
    (resolved : (resolver.resolve importer literal).result = .ok module) :
    ∃ path ∈ resolver.candidates importer literal,
      resolver.files.isFile path = true ∧ module = resolver.canonical path := by
  obtain ⟨before, path, after, cut, -, isFile, same⟩ := cut_of_resolve resolved
  exact ⟨path, by simp [cut], isFile, same⟩

theorem error_of_resolve {resolver : Resolver} {importer literal : String} {error : BuildError}
    (failed : (resolver.resolve importer literal).result = .error error) :
    error = .moduleNotFound literal
      ((resolver.candidates importer literal).map resolver.canonical) importer := by
  rw [result_resolve] at failed
  split at failed
  · cases failed
  · exact (Except.error.inj failed).symm

theorem isCanonical_of_resolve {resolver : Resolver} (rooted : resolver.Rooted)
    {importer literal module : String}
    (resolved : (resolver.resolve importer literal).result = .ok module) :
    resolver.IsCanonical module := by
  obtain ⟨path, -, -, rfl⟩ := candidate_of_resolve resolved
  exact isCanonical_canonical rooted path

/-- The file of a resolved module is the candidate that was tested, with its `..` folded. -/
theorem absolute_of_resolve {resolver : Resolver} (rooted : resolver.Rooted)
    {importer literal module : String}
    (resolved : (resolver.resolve importer literal).result = .ok module) :
    ∃ path ∈ resolver.candidates importer literal,
      resolver.files.isFile path = true ∧ resolver.absolute module = path.normalize := by
  obtain ⟨path, mem, isFile, rfl⟩ := candidate_of_resolve resolved
  refine ⟨path, mem, isFile, ?_⟩
  have rootedPath := isAbsolute_of_mem_candidates rooted mem
  rw [absolute_canonical rooted.normal (.inl rooted.absolute),
    Path.join_of_isAbsolute _ rootedPath]

end Resolver

namespace Files

/-- Every file is kept under a path without `.` and with its `..` folded. -/
def Normal (files : Files) : Prop :=
  ∀ location ∈ files.view.locations, Component.normalize location = location

instance (files : Files) : Decidable files.Normal :=
  inferInstanceAs (Decidable (∀ location ∈ files.view.locations, _))

theorem isFile_iff {files : Files} {path : Path} :
    files.isFile path = true ↔ ∃ text, files.read path = .ok text := by
  unfold isFile read
  cases files.get? path.location with
  | none => simp
  | some text => simp

theorem isFile_congr (files : Files) {path other : Path} (same : path.location = other.location) :
    files.isFile path = files.isFile other := by
  rw [isFile, isFile, same]

theorem Normal.location_normalize {files : Files} (normal : files.Normal) {path : Path}
    (isFile : files.isFile path = true) : path.normalize.location = path.location := by
  obtain ⟨text, read⟩ := isFile_iff.1 isFile
  rw [Path.location_normalize, normal path.location (files.view.mem_locations read)]

end Files

end LuaBundle
