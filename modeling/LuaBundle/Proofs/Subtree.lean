import LuaBundle.Proofs.Resolution
import Mathlib.Data.List.Forall2
import Mathlib.Data.List.Infix

/-! # Trees of files below a base directory

A tree of files is kept under locations that go down from its top by names alone. Put below a base
directory, its files are found at that directory with such a location behind it. Every path that is
tried for an import inside the tree has this form too, as long as the import does not lead out of
the tree on its way: `StaysInside`. Folding `..`, writing an extension behind a path and taking the
canonical path then all happen behind the base directory, so that what an import means is read off
the tree alone.
-/

namespace LuaBundle

namespace Component

/-- Steps from a directory that lead to something below the top of a tree, never passing above
that top on the way. The directory is given as seen from the top. -/
def StaysInside (directory steps : List Component) : Prop :=
  (∀ front ∈ steps.inits, .parent ∉ front.foldl fold directory.reverse) ∧
    steps.foldl fold directory.reverse ≠ []

instance (directory steps : List Component) : Decidable (StaysInside directory steps) :=
  inferInstanceAs (Decidable (_ ∧ _))

/-- Where steps from a directory lead. -/
def after (directory steps : List Component) : List Component :=
  (steps.foldl fold directory.reverse).reverse

/-- A step that leads down. -/
def IsName (step : Component) : Prop :=
  IsStep step ∧ step ≠ .parent

theorem IsName.eq_name {step : Component} (isName : IsName step) : ∃ chars, step = .name chars := by
  obtain ⟨isStep, down⟩ := isName
  cases step with
  | root => exact isStep.elim
  | current => exact isStep.elim
  | parent => exact absurd rfl down
  | name chars => exact ⟨chars, rfl⟩

theorem foldl_names {names : List Component} (each : ∀ step ∈ names, IsName step)
    (above : List Component) : names.foldl fold above = names.reverse ++ above := by
  induction names generalizing above with
  | nil => rfl
  | cons step names ih =>
      obtain ⟨chars, rfl⟩ := (each step List.mem_cons_self).eq_name
      rw [List.foldl_cons, fold_name, ih fun other mem => each other (List.mem_cons_of_mem _ mem)]
      simp

/-- Steps that never pass above the top of a tree do not touch what the tree lies on. -/
theorem foldl_inside {held steps : List Component} (above : List Component)
    (names : ∀ step ∈ held, IsName step) (each : ∀ step ∈ steps, IsStep step)
    (inside : ∀ front ∈ steps.inits, .parent ∉ front.foldl fold held) :
    steps.foldl fold (held ++ above) = steps.foldl fold held ++ above ∧
      ∀ step ∈ steps.foldl fold held, IsName step := by
  induction steps generalizing held with
  | nil => exact ⟨rfl, names⟩
  | cons step steps ih =>
      have others : ∀ other ∈ steps, IsStep other :=
        fun other mem => each other (List.mem_cons_of_mem step mem)
      have further : ∀ front ∈ steps.inits, .parent ∉ front.foldl fold (fold held step) := by
        intro front mem
        rw [List.mem_inits] at mem
        exact inside (step :: front) ((List.mem_inits _ _).2 (List.cons_prefix_cons.2 ⟨rfl, mem⟩))
      rw [List.foldl_cons, List.foldl_cons]
      cases step with
      | root => exact (each .root List.mem_cons_self).elim
      | current => exact (each .current List.mem_cons_self).elim
      | name chars =>
          rw [fold_name] at further
          rw [fold_name, fold_name, ← List.cons_append]
          have isName : IsName (.name chars) := ⟨each _ List.mem_cons_self, by simp⟩
          exact ih (List.forall_mem_cons.2 ⟨isName, names⟩) others further
      | parent =>
          cases held with
          | nil =>
              have top := inside [.parent] ((List.mem_inits _ _).2 (by simp))
              exact absurd List.mem_cons_self top
          | cons top held =>
              obtain ⟨isName, below⟩ := List.forall_mem_cons.1 names
              obtain ⟨chars, rfl⟩ := isName.eq_name
              exact ih below others further

theorem Spellable.append {location steps : List Component} (spellable : Spellable location)
    (each : ∀ step ∈ steps, IsStep step) : Spellable (location ++ steps) := by
  induction steps generalizing location with
  | nil => simpa using spellable
  | cons step steps ih =>
      obtain ⟨isStep, each⟩ := List.forall_mem_cons.1 each
      simpa using ih (spellable.concat isStep) each

end Component

namespace Files

/-- The same files below a directory. -/
def under (files : Files) (base : Path) : Files :=
  ⟨files.entries.map fun entry => (base.location ++ entry.1, entry.2)⟩

theorem get?_under (files : Files) (base : Path) (location : Location) :
    (files.under base).get? (base.location ++ location) = files.get? location := by
  have same : (fun entry : Location × String =>
      base.location ++ entry.1 == base.location ++ location) =
        fun entry => entry.1 == location := by
    funext entry
    rw [Bool.eq_iff_iff]
    simp
  simp [get?, under, List.find?_map, Function.comp_def, same]

theorem isSome_get?_of_mem {files : Files} {location : Location}
    (mem : location ∈ files.view.locations) : (files.get? location).isSome = true := by
  obtain ⟨⟨location, text⟩, inside, rfl⟩ := List.mem_map.1 mem
  simpa [get?] using ⟨text, inside⟩

/-- Every file is kept below the top, and by names alone. -/
def IsTree (files : Files) : Prop :=
  ∀ location ∈ files.view.locations, location ≠ [] ∧ ∀ step ∈ location, ∃ chars, step = .name chars

end Files

namespace Text

theorem joinWith_append {separator : List Char} {front back : List (List Char)} (first : front ≠ [])
    (last : back ≠ []) :
    joinWith separator (front ++ back) =
      joinWith separator front ++ separator ++ joinWith separator back := by
  induction front with
  | nil => exact absurd rfl first
  | cons piece front ih =>
      cases front with
      | nil =>
          obtain ⟨next, rest, rfl⟩ := List.exists_cons_of_ne_nil last
          rfl
      | cons second front =>
          have further := ih (by simp)
          simp only [List.cons_append, joinWith, List.append_assoc] at further ⊢
          rw [further]

end Text

namespace Component

/-- More text behind a path from the root says something about its last steps only. -/
theorem ofChars_render_append {names steps : List Component} (suffix : List Char)
    (each : ∀ step ∈ names, IsStep step) (some : steps ≠ []) :
    ofChars (render (.root :: names ++ steps) ++ suffix) =
      .root :: names ++ Component.steps (Text.joinWith ['/'] (steps.map chars) ++ suffix) := by
  have rooted : ∀ s, ofChars ('/' :: s) = .root :: Component.steps s := by
    intro s
    rw [ofChars_eq, ← List.nil_append ('/' :: s), steps_append]
    rfl
  simp only [render, List.cons_append, rooted]
  cases names with
  | nil => rfl
  | cons name names =>
      rw [List.map_append, Text.joinWith_append (by simp) (by simpa using some), List.append_assoc,
        List.append_assoc, List.singleton_append, steps_append, steps_joinWith each]

end Component

namespace Path

/-- A path that goes down by names alone is read the same wherever it stands. -/
theorem steps_of_names {path : Path} (names : ∀ step ∈ path.location, ∃ chars, step = .name chars) :
    path.isAbsolute = false ∧ Component.steps path.text.toList = path.location := by
  constructor
  · rw [← Bool.not_eq_true, isAbsolute_iff]
    intro first
    obtain ⟨chars, bad⟩ := names .root (List.mem_of_head? first)
    cases bad
  · rw [Path.location, Component.ofChars_eq] at names ⊢
    suffices unled : Component.lead path.text.toList = [] by rw [unled, List.nil_append]
    rw [List.eq_nil_iff_forall_not_mem]
    intro step mem
    obtain ⟨chars, rfl⟩ := names step (List.mem_append_left _ mem)
    unfold Component.lead at mem
    split at mem
    · simp at mem
    · split at mem <;> simp at mem

end Path

namespace Resolver

open Component (IsName IsStep StaysInside after)

variable {resolver : Resolver} {tree : Files} {location importer : Location} {literal : String}

/-- The name of a module whose file lies below the base directory at a location. -/
def nameOf (location : Location) : String :=
  (Path.ofLocation location).text

/-- A location that goes down, and by names alone. -/
structure IsBelow (location : Location) : Prop where
  started : location ≠ []
  names : ∀ step ∈ location, IsName step

theorem IsBelow.steps (below : IsBelow location) : ∀ step ∈ location, IsStep step :=
  fun step mem => (below.names step mem).1

/-- A resolver whose files are a tree below its base directory. -/
structure Holds (resolver : Resolver) (tree : Files) : Prop extends resolver.Rooted where
  view : resolver.files = (tree.under resolver.base).view

theorem Holds.isFile (holds : resolver.Holds tree) {path : Path}
    (place : path.location = resolver.base.location ++ location) :
    resolver.files.isFile path = (tree.get? location).isSome := by
  rw [holds.view]
  change ((tree.under resolver.base).get? path.location).isSome = _
  rw [place, Files.get?_under]

theorem Holds.read (holds : resolver.Holds tree) {path : Path}
    (place : path.location = resolver.base.location ++ location) {text : String} :
    resolver.files.read path = .ok text ↔ tree.get? location = some text := by
  rw [holds.view]
  change (tree.under resolver.base).read path = .ok text ↔ _
  rw [Files.read, place, Files.get?_under]
  cases tree.get? location <;> simp

theorem location_normalize_join_names (normal : resolver.base.normalize = resolver.base)
    {path : Path} (relative : path.isAbsolute = false)
    (names : ∀ step ∈ Component.steps path.text.toList, IsName step) :
    (resolver.base.join path).normalize.location =
      resolver.base.location ++ Component.steps path.text.toList := by
  rw [Path.location_normalize_join _ relative, normal, Component.foldl_names names]
  simp

theorem location_absolute_nameOf (normal : resolver.base.normalize = resolver.base)
    (below : IsBelow location) :
    (resolver.absolute (nameOf location)).location = resolver.base.location ++ location := by
  have spelled := Path.steps_ofLocation below.steps
  have joined := location_normalize_join_names normal (Path.isAbsolute_ofLocation below.steps)
    (by rw [spelled]; exact below.names)
  rw [spelled] at joined
  exact joined

theorem canonical_eq_nameOf {path : Path} (below : IsBelow location)
    (place : (resolver.base.join path).normalize.location = resolver.base.location ++ location) :
    resolver.canonical path = nameOf location := by
  have whole := Component.sharedLength_append resolver.base.location [] location
  rw [List.append_nil] at whole
  rw [canonical, Path.relativeTo, place, Component.relativeTo, whole, nameOf, Path.ofLocation,
    Component.render_of_isStep below.steps]
  simp [Component.sharedLength]

theorem normalize_append_names (normal : resolver.base.normalize = resolver.base)
    (names : ∀ step ∈ location, IsName step) :
    Component.normalize (resolver.base.location ++ location) =
      resolver.base.location ++ location := by
  rw [Component.normalize_append (Path.held_location normal), Component.foldl_names names]
  simp

theorem canonical_of_names (normal : resolver.base.normalize = resolver.base) {path : Path}
    (below : IsBelow path.location) : resolver.canonical path = nameOf path.location := by
  obtain ⟨relative, spelled⟩ := Path.steps_of_names fun step mem => (below.names step mem).eq_name
  apply canonical_eq_nameOf below
  rw [location_normalize_join_names normal relative, spelled]
  rw [spelled]
  exact below.names

/-- An import from a module in a tree leads to the base directory with the same steps behind it,
wherever that directory is. -/
theorem target_inside (rooted : resolver.Rooted) (below : IsBelow importer)
    (relative : (Path.mk literal).isAbsolute = false)
    (inside : StaysInside importer.dropLast (Component.steps literal.toList)) :
    resolver.target (nameOf importer) literal =
        .ofLocation (resolver.base.location ++ after importer.dropLast
          (Component.steps literal.toList)) ∧
      IsBelow (after importer.dropLast (Component.steps literal.toList)) := by
  obtain empty | ⟨directory, last, rfl⟩ := List.eq_nil_or_concat' importer
  · exact absurd empty below.started
  rw [List.dropLast_concat] at inside ⊢
  obtain ⟨names, isName⟩ : (∀ step ∈ directory, IsName step) ∧ IsName last := by
    simpa [or_imp, forall_and] using below.names
  obtain ⟨chars, rfl⟩ := isName.eq_name
  have parent : (resolver.absolute (nameOf (directory ++ [.name chars]))).parent? =
      some (.ofLocation (resolver.base.location ++ directory)) := by
    rw [Path.parent?, location_absolute_nameOf rooted.normal below, ← List.append_assoc]
    simp
  obtain ⟨reached, inner⟩ := Component.foldl_inside resolver.base.location.reverse
    (fun step mem => names step (List.mem_reverse.1 mem))
    (fun step mem => Component.isStep_of_mem_steps (s := literal.toList) mem) inside.1
  have spellable := resolver.base.spellable_location.append fun step mem => (names step mem).1
  constructor
  · rw [target, parent, Option.getD_some, Path.normalize, ← Path.location_normalize,
      Path.location_normalize_join _ relative, Path.location_normalize,
      Path.location_ofLocation spellable, normalize_append_names rooted.normal names,
      List.reverse_append, reached, after]
    simp
  · constructor
    · simpa [after] using inside.2
    · intro step mem
      exact inner step (List.mem_reverse.1 mem)

/-- The locations in a tree that an import can mean, in the order they are tried. -/
def innerCandidates (resolver : Resolver) (importer : Location) (literal : String) :
    List Location :=
  let target := after importer.dropLast (Component.steps literal.toList)
  if resolver.hasExtension literal then [target]
  else resolver.extensions.map fun extension =>
    Component.steps (nameOf target ++ extension).toList

theorem innerCandidates_congr {other : Resolver} (same : resolver.extensions = other.extensions)
    (importer : Location) (literal : String) :
    resolver.innerCandidates importer literal = other.innerCandidates importer literal := by
  obtain ⟨base, extensions, files⟩ := resolver
  cases same
  rfl

theorem location_append (rooted : resolver.Rooted) (below : IsBelow location) (suffix : String) :
    ((Path.ofLocation (resolver.base.location ++ location)).append suffix).location =
      resolver.base.location ++ Component.steps (nameOf location ++ suffix).toList := by
  have spelled := resolver.base.spellable_location
  have start := (Path.isAbsolute_iff _).1 rooted.absolute
  simp only [Path.location, Path.append, Path.ofLocation, nameOf, String.toList_append,
    String.toList_ofList, Component.render_of_isStep below.steps]
  generalize base : Component.ofChars resolver.base.text.toList = place
  rw [Path.location, base] at spelled start
  cases spelled with
  | relative each => exact (each .root (List.mem_of_head? start)).elim
  | current each => cases start
  | root each => exact Component.ofChars_render_append suffix.toList each below.started

/-- A path that is the base directory with a location of a tree behind it. -/
def Places (resolver : Resolver) (path : Path) (location : Location) : Prop :=
  path.isAbsolute = true ∧ path.location = resolver.base.location ++ location ∧
    ∀ step ∈ location, IsStep step

theorem places_candidates (rooted : resolver.Rooted) (below : IsBelow importer)
    (relative : (Path.mk literal).isAbsolute = false)
    (inside : StaysInside importer.dropLast (Component.steps literal.toList)) :
    List.Forall₂ resolver.Places (resolver.candidates (nameOf importer) literal)
      (resolver.innerCandidates importer literal) := by
  obtain ⟨target, within⟩ := target_inside rooted below relative inside
  have absolute := isAbsolute_target rooted (nameOf importer) literal
  simp only [candidates, innerCandidates, target] at absolute ⊢
  split
  · refine .cons ⟨absolute, ?_, within.steps⟩ .nil
    exact Path.location_ofLocation (resolver.base.spellable_location.append within.steps)
  · rw [List.forall₂_map_left_iff, List.forall₂_map_right_iff, List.forall₂_same]
    intro extension _
    refine ⟨Path.isAbsolute_append absolute extension, location_append rooted within extension, ?_⟩
    exact fun step mem => Component.isStep_of_mem_steps mem

theorem toOption_resolve (resolver : Resolver) (importer literal : String) :
    (resolver.resolve importer literal).result.toOption =
      ((resolver.candidates importer literal).find? resolver.files.isFile).map
        resolver.canonical := by
  rw [result_resolve]
  split
  · next found => rw [found]; rfl
  · next found => rw [found]; rfl

theorem isBelow_of_isStep (isTree : tree.IsTree) (held : (tree.get? location).isSome = true)
    (each : ∀ step ∈ location, IsStep step) : IsBelow location := by
  obtain ⟨text, found⟩ := Option.isSome_iff_exists.1 held
  obtain ⟨started, names⟩ := isTree location (Files.get?_mem found)
  refine ⟨started, fun step mem => ⟨each step mem, ?_⟩⟩
  obtain ⟨chars, rfl⟩ := names step mem
  simp

theorem Holds.canonical_of_places (holds : resolver.Holds tree) (isTree : tree.IsTree) {path : Path}
    (place : resolver.Places path location) (held : (tree.get? location).isSome = true) :
    IsBelow location ∧ resolver.canonical path = nameOf location := by
  obtain ⟨absolute, located, each⟩ := place
  have below := isBelow_of_isStep isTree held each
  refine ⟨below, canonical_eq_nameOf below ?_⟩
  rw [Path.join_of_isAbsolute _ absolute, Path.location_normalize, located,
    normalize_append_names holds.normal below.names]

theorem find?_places (holds : resolver.Holds tree) (isTree : tree.IsTree) {paths : List Path}
    {locations : List Location} (places : List.Forall₂ resolver.Places paths locations) :
    (paths.find? resolver.files.isFile).map resolver.canonical =
      (locations.find? fun location => (tree.get? location).isSome).map nameOf := by
  induction places with
  | nil => rfl
  | @cons path location paths locations place _ ih =>
      have isFile := holds.isFile place.2.1
      cases held : (tree.get? location).isSome with
      | false => simpa [isFile, held] using ih
      | true => simp [isFile, held, (holds.canonical_of_places isTree place held).2]

/-- What an import from a module in a tree means does not depend on where the tree lies. -/
theorem resolve_inside (holds : resolver.Holds tree) (isTree : tree.IsTree)
    (below : IsBelow importer) (relative : (Path.mk literal).isAbsolute = false)
    (inside : StaysInside importer.dropLast (Component.steps literal.toList)) :
    (resolver.resolve (nameOf importer) literal).result.toOption =
      ((resolver.innerCandidates importer literal).find? fun location =>
        (tree.get? location).isSome).map nameOf := by
  rw [toOption_resolve]
  exact find?_places holds isTree (places_candidates holds.toRooted below relative inside)

end Resolver

end LuaBundle
