import LuaBundle.Proofs.BaseDirectory
import LuaBundle.Proofs.CheckedSettings
import LuaBundle.Proofs.Circles
import LuaBundle.Proofs.Comments

/-! # Messages of one line

The message of a build error is made of canonical paths and, if an import did not resolve, of the
literal as it was written. No character besides slashes and dots gets into a canonical path but from
the base directory and the path it is made from. Modules have their names from the entry and from
files, so if neither these nor the base directory have a line feed, no name of a module has one.
What is left is an import that did not resolve: its literal can have a line feed, and so can the
extensions that are written behind it.
-/

namespace LuaBundle

variable {c : Char}

namespace Text

theorem mem_joinWith_of_mem (separator : List Char) {pieces : List (List Char)} {piece : List Char}
    (among : piece ∈ pieces) (inside : c ∈ piece) : c ∈ joinWith separator pieces := by
  induction pieces with
  | nil => cases among
  | cons first pieces ih =>
      cases pieces with
      | nil => exact List.mem_singleton.1 among ▸ inside
      | cons next pieces =>
          rw [joinWith, List.mem_append, List.mem_append]
          · rcases List.mem_cons.1 among with rfl | later
            · exact .inl (.inl inside)
            · exact .inr (ih later)
          · simp

theorem mem_of_mem_split {separator : Char} {s piece : List Char}
    (among : piece ∈ split separator s) (inside : c ∈ piece) : c ∈ s := by
  induction s generalizing piece with
  | nil => simp_all [split]
  | cons d rest ih =>
      rw [split] at among
      split at among
      · rcases List.mem_cons.1 among with rfl | later
        · cases inside
        · exact List.mem_cons_of_mem d (ih later inside)
      · cases pieces : split separator rest with
        | nil => exact absurd pieces (split_ne_nil separator rest)
        | cons first others =>
            simp only [pieces] at among ih
            rcases List.mem_cons.1 among with rfl | later
            · rcases List.mem_cons.1 inside with rfl | inside
              · exact List.mem_cons_self
              · exact List.mem_cons_of_mem d (ih List.mem_cons_self inside)
            · exact List.mem_cons_of_mem d (ih (List.mem_cons_of_mem first later) inside)

/-- Text without a separator goes to the last piece. -/
theorem split_append_of_not_mem {separator : Char} (s : List Char) {t : List Char}
    (absent : separator ∉ t) :
    ∃ front last, split separator (s ++ t) = front ++ [last ++ t] := by
  induction s with
  | nil => exact ⟨[], [], split_of_not_mem absent⟩
  | cons d rest ih =>
      obtain ⟨front, last, cut⟩ := ih
      rw [List.cons_append, split]
      split
      · exact ⟨[] :: front, last, by rw [cut, List.cons_append]⟩
      · cases front with
        | nil => exact ⟨[], d :: last, by rw [cut]; rfl⟩
        | cons first front => exact ⟨(d :: first) :: front, last, by rw [cut]; rfl⟩

theorem mem_intercalate {separator : String} {texts : List String}
    (apart : c ∉ separator.toList) :
    c ∈ (separator.intercalate texts).toList ↔ ∃ text ∈ texts, c ∈ text.toList := by
  induction texts with
  | nil => simp
  | cons first texts ih =>
      by_cases last : texts = []
      · simp [last]
      · rw [String.intercalate_cons_of_ne_nil last, String.toList_append, String.toList_append,
          List.mem_append, List.mem_append, ih]
        simp [apart]

end Text

namespace Component

variable {location base path : List Component}

/-- A character occurs in a location. -/
def Uses (c : Char) (location : List Component) : Prop :=
  ∃ step ∈ location, c ∈ step.chars

theorem chars_of_ofPiece? {piece : List Char} {step : Component}
    (read : ofPiece? piece = some step) : step.chars = piece := by
  unfold ofPiece? at read
  split at read
  · cases read
  · cases read
  · cases read
    rfl
  · cases read
    rfl

/-- What is read from a text was written there. -/
theorem mem_of_uses_ofChars {s : List Char} (uses : Uses c (ofChars s)) : c ∈ s := by
  obtain ⟨step, mem, inside⟩ := uses
  rw [ofChars_eq] at mem
  rcases List.mem_append.1 mem with start | further
  · unfold lead at start
    split at start
    · next rooted =>
        rw [List.mem_singleton.1 start] at inside
        rw [List.mem_singleton.1 inside]
        exact List.mem_of_head? rooted
    · split at start
      · next dot =>
          rw [List.mem_singleton.1 start, chars, ← dot] at inside
          exact (List.takeWhile_sublist _).mem inside
      · cases start
  · obtain ⟨piece, among, read⟩ := List.mem_filterMap.1 further
    exact Text.mem_of_mem_split among (chars_of_ofPiece? read ▸ inside)

theorem Uses.of_normalize (uses : Uses c (normalize location)) : Uses c location := by
  obtain ⟨step, mem, inside⟩ := uses
  exact ⟨step, (mem_of_mem_foldl (List.mem_reverse.1 mem)).resolve_right (by simp), inside⟩

theorem uses_of_mem_render (mem : c ∈ render location) (slash : c ≠ '/') : Uses c location := by
  have joined : ∀ {components : List Component},
      c ∈ Text.joinWith ['/'] (components.map chars) → Uses c components := by
    intro components mem
    obtain between | ⟨piece, among, inside⟩ := Text.mem_joinWith mem
    · exact absurd (List.mem_singleton.1 between) slash
    · obtain ⟨step, part, rfl⟩ := List.mem_map.1 among
      exact ⟨step, part, inside⟩
  unfold render at mem
  split at mem
  · obtain ⟨step, part, inside⟩ := joined ((List.mem_cons.1 mem).resolve_left slash)
    exact ⟨step, List.mem_cons_of_mem _ part, inside⟩
  · exact joined mem

theorem uses_of_mem_relativeTo (mem : c ∈ relativeTo base path) (slash : c ≠ '/')
    (dot : c ≠ '.') : Uses c path := by
  obtain between | ⟨piece, among, inside⟩ := Text.mem_joinWith mem
  · exact absurd (List.mem_singleton.1 between) slash
  rcases List.mem_append.1 among with up | down
  · rw [List.eq_of_mem_replicate up] at inside
    simp [chars, dot] at inside
  · obtain ⟨step, part, rfl⟩ := List.mem_map.1 down
    exact ⟨step, List.mem_of_mem_drop part, inside⟩

/-- Nothing is left out on the way to a path but what the base directory has too. -/
theorem mem_relativeTo (uses : Uses c path) (absent : ¬ Uses c base) :
    c ∈ relativeTo base path := by
  obtain ⟨step, mem, inside⟩ := uses
  have down : step ∈ path.drop (sharedLength base path) := by
    rw [← List.take_append_drop (sharedLength base path) path] at mem
    refine (List.mem_append.1 mem).resolve_left fun shared => absent ⟨step, ?_, inside⟩
    rw [← take_sharedLength] at shared
    exact List.mem_of_mem_take shared
  exact Text.mem_joinWith_of_mem _ (List.mem_append_right _ (List.mem_map_of_mem down)) inside

/-- An extension that is more than dots is the end of a name. -/
theorem steps_append_extension (s : List Char) {suffix : List Char} (slashless : '/' ∉ suffix)
    (inside : c ∈ suffix) (dot : c ≠ '.') :
    ∃ front name, steps (s ++ suffix) = front ++ [name] ∧ IsName name ∧ c ∈ name.chars := by
  obtain ⟨front, last, cut⟩ := Text.split_append_of_not_mem s slashless
  have mem : c ∈ last ++ suffix := List.mem_append_right last inside
  have read : ofPiece? (last ++ suffix) = some (.name (last ++ suffix)) := by
    generalize last ++ suffix = piece at mem
    unfold ofPiece?
    split <;> simp_all
  have written : steps (s ++ suffix) = front.filterMap ofPiece? ++ [.name (last ++ suffix)] := by
    rw [steps, cut, List.filterMap_append, List.filterMap_cons, read, List.filterMap_nil]
  refine ⟨_, _, written, ⟨isStep_of_mem_steps (s := s ++ suffix) ?_, by simp⟩, mem⟩
  rw [written]
  simp

end Component

namespace Path

variable {base path directory : Path}

theorem mem_of_uses (uses : Component.Uses c path.location) : c ∈ path.text.toList :=
  Component.mem_of_uses_ofChars uses

theorem uses_of_join (uses : Component.Uses c (base.join path).location) :
    Component.Uses c base.location ∨ Component.Uses c path.location := by
  cases kind : path.isAbsolute with
  | true => exact .inr (join_of_isAbsolute base kind ▸ uses)
  | false =>
      by_cases empty : base.text = ""
      · exact .inr (join_of_empty empty path ▸ uses)
      · rw [location_join (by simpa using empty) kind] at uses
        obtain ⟨step, mem, inside⟩ := uses
        rcases List.mem_append.1 mem with before | walked
        · exact .inl ⟨step, before, inside⟩
        · refine .inr ⟨step, ?_, inside⟩
          rw [Path.location, Component.ofChars_eq]
          exact List.mem_append_right _ walked

theorem uses_of_mem_normalize (mem : c ∈ path.normalize.text.toList) (slash : c ≠ '/') :
    Component.Uses c path.location := by
  rw [normalize, ofLocation, String.toList_ofList] at mem
  exact (Component.uses_of_mem_render mem slash).of_normalize

theorem uses_of_parent? (parent : path.parent? = some directory)
    (mem : c ∈ directory.text.toList) (slash : c ≠ '/') : Component.Uses c path.location := by
  unfold parent? at parent
  split at parent
  · cases parent
  · cases parent
  · cases parent
    rw [ofLocation, String.toList_ofList] at mem
    obtain ⟨step, among, inside⟩ := Component.uses_of_mem_render mem slash
    exact ⟨step, List.mem_of_mem_dropLast among, inside⟩

end Path

namespace Resolver

variable {resolver : Resolver} {importer literal : String} {path : Path}

/-- A character of a canonical path is one of the base directory or of the path. -/
theorem uses_of_mem_canonical (mem : c ∈ (resolver.canonical path).toList) (slash : c ≠ '/')
    (dot : c ≠ '.') :
    Component.Uses c resolver.base.location ∨ Component.Uses c path.location := by
  rw [canonical, Path.relativeTo, String.toList_ofList] at mem
  have uses := Component.uses_of_mem_relativeTo mem slash dot
  rw [Path.location_normalize] at uses
  exact Path.uses_of_join uses.of_normalize

theorem uses_of_mem_absolute {module : String} (mem : c ∈ (resolver.absolute module).text.toList)
    (slash : c ≠ '/') : Component.Uses c resolver.base.location ∨ c ∈ module.toList :=
  (Path.uses_of_join (Path.uses_of_mem_normalize mem slash)).imp_right Path.mem_of_uses

theorem uses_of_mem_target (mem : c ∈ (resolver.target importer literal).text.toList)
    (slash : c ≠ '/') :
    Component.Uses c resolver.base.location ∨ c ∈ importer.toList ∨ c ∈ literal.toList := by
  rcases Path.uses_of_join (Path.uses_of_mem_normalize mem slash) with within | written
  · cases parent : (resolver.absolute importer).parent? with
    | none =>
        rw [parent] at within
        exact .inl within
    | some directory =>
        rw [parent] at within
        have above := Path.uses_of_parent? parent (Path.mem_of_uses within) slash
        exact (uses_of_mem_absolute (Path.mem_of_uses above) slash).imp_right .inl
  · exact .inr (.inr (Path.mem_of_uses written))

/-- A character of a candidate comes from the base directory, the importing module, the literal, or
an extension that the literal does not have. -/
theorem uses_of_mem_candidate (tested : path ∈ resolver.candidates importer literal)
    (mem : c ∈ path.text.toList) (slash : c ≠ '/') :
    Component.Uses c resolver.base.location ∨ c ∈ importer.toList ∨ c ∈ literal.toList ∨
      resolver.hasExtension literal = false ∧
        ∃ extension ∈ resolver.extensions, c ∈ extension.toList := by
  unfold candidates at tested
  split at tested
  · rw [List.mem_singleton.1 tested] at mem
    exact (uses_of_mem_target mem slash).imp_right (Or.imp_right .inl)
  · next plain =>
      obtain ⟨extension, given, rfl⟩ := List.mem_map.1 tested
      rw [Path.append, String.toList_append] at mem
      rcases List.mem_append.1 mem with front | behind
      · exact (uses_of_mem_target front slash).imp_right (Or.imp_right .inl)
      · exact .inr (.inr (.inr ⟨by simpa using plain, extension, given, behind⟩))

/-- An extension shows in the canonical path of the candidate that it was written behind. -/
theorem mem_canonical_append {extension : String}
    (absent : ¬ Component.Uses c resolver.base.location) (slashless : '/' ∉ extension.toList)
    (inside : c ∈ extension.toList) (dot : c ≠ '.') (path : Path) :
    c ∈ (resolver.canonical (path.append extension)).toList := by
  obtain ⟨front, name, read, isName, among⟩ :=
    Component.steps_append_extension path.text.toList slashless inside dot
  have written : Component.steps (path.append extension).text.toList = front ++ [name] := by
    rw [Path.append, String.toList_append, read]
  have kept := Path.names_subset_normalize_join resolver.base written (by simpa using isName)
  rw [canonical, Path.relativeTo, String.toList_ofList]
  exact Component.mem_relativeTo ⟨name, kept name List.mem_cons_self, among⟩ absent

end Resolver

namespace BuildError

theorem feed_mem_moduleNotFound {literal importer : String} {tried : List String} :
    '\n' ∈ (moduleNotFound literal tried importer).message.toList ↔
      '\n' ∈ literal.toList ∨ (∃ candidate ∈ tried, '\n' ∈ candidate.toList) ∨
        '\n' ∈ importer.toList := by
  change '\n' ∈ ("Module not found: '" ++ literal ++ "' (tried " ++ ", ".intercalate tried ++
    ") referenced from " ++ importer).toList ↔ _
  simp only [String.toList_append, List.mem_append]
  rw [Text.mem_intercalate (by decide)]
  simp [or_assoc]

theorem feed_mem_circularImport {chain : List String} :
    '\n' ∈ (circularImport chain).message.toList ↔ ∃ module ∈ chain, '\n' ∈ module.toList := by
  change '\n' ∈ ("Circular import detected: " ++ " -> ".intercalate chain).toList ↔ _
  rw [String.toList_append, List.mem_append, Text.mem_intercalate (by decide)]
  simp

theorem feed_mem_file_unknown {path : Path} :
    '\n' ∈ (file path (.unknown path)).message.toList ↔ '\n' ∈ path.text.toList := by
  change '\n' ∈ ("Failed to read " ++ path.text ++ ": " ++
    ("no such file: " ++ path.text)).toList ↔ _
  simp

end BuildError

theorem Files.read_eq_error {files : Files} {path : Path} {fault : FileFault}
    (missing : files.read path = .error fault) : fault = .unknown path := by
  unfold read at missing
  split at missing
  · cases missing
  · exact (Except.error.inj missing).symm

namespace Builder

variable {builder : Builder} {entry : Path} {error : BuildError} {module : String}

/-- Neither the base directory nor a file has a character in its path. -/
structure Lacks (builder : Builder) (c : Char) : Prop where
  base : ¬ Component.Uses c builder.resolver.base.location
  files : ∀ path, builder.resolver.files.isFile path = true → ¬ Component.Uses c path.location

/-- A module that an entry reaches is called after the entry or after a file, so a character that is
in no path of a file is not in its name. -/
theorem Lacks.not_mem_of_reached (lacks : builder.Lacks c) (slash : c ≠ '/') (dot : c ≠ '.')
    (plainEntry : c ∉ entry.text.toList)
    (reached : Relation.ReflTransGen builder.Imports (builder.resolver.canonical entry) module) :
    c ∉ module.toList := by
  have named : ∃ path, builder.resolver.canonical path = module ∧
      ¬ Component.Uses c path.location := by
    cases reached with
    | refl => exact ⟨entry, rfl, fun uses => plainEntry (Path.mem_of_uses uses)⟩
    | tail _ imports =>
        obtain ⟨literal, -, resolved⟩ := imports.linksTo
        obtain ⟨path, -, isFile, same⟩ := Resolver.candidate_of_resolve resolved
        exact ⟨path, same.symm, lacks.files path isFile⟩
  obtain ⟨path, rfl, absent⟩ := named
  intro mem
  exact (Resolver.uses_of_mem_canonical mem slash dot).elim lacks.base absent

theorem Lacks.of_mem_candidate (lacks : builder.Lacks c) (slash : c ≠ '/') (dot : c ≠ '.')
    {importer literal : String} (absent : c ∉ importer.toList)
    (mem : ∃ candidate ∈ (builder.resolver.candidates importer literal).map
      builder.resolver.canonical, c ∈ candidate.toList) :
    c ∈ literal.toList ∨ builder.resolver.hasExtension literal = false ∧
      ∃ extension ∈ builder.resolver.extensions, c ∈ extension.toList := by
  obtain ⟨candidate, among, inside⟩ := mem
  obtain ⟨path, tested, rfl⟩ := List.mem_map.1 among
  have uses := (Resolver.uses_of_mem_canonical inside slash dot).resolve_left lacks.base
  have sources := Resolver.uses_of_mem_candidate tested (Path.mem_of_uses uses) slash
  exact (sources.resolve_left lacks.base).resolve_left absent

theorem Lacks.exists_candidate (lacks : builder.Lacks c) (dot : c ≠ '.') {importer literal : String}
    (plain : builder.resolver.hasExtension literal = false)
    (extended : ∃ extension ∈ builder.resolver.extensions,
      c ∈ extension.toList ∧ '/' ∉ extension.toList) :
    ∃ candidate ∈ (builder.resolver.candidates importer literal).map builder.resolver.canonical,
      c ∈ candidate.toList := by
  obtain ⟨extension, given, inside, slashless⟩ := extended
  have tested : (builder.resolver.target importer literal).append extension ∈
      builder.resolver.candidates importer literal := by
    rw [Resolver.candidates, plain]
    exact List.mem_map_of_mem given
  exact ⟨_, List.mem_map_of_mem tested,
    Resolver.mem_canonical_append lacks.base slashless inside dot _⟩

theorem mem_of_mem_cycleThrough {line : List String} {file : Location} {name : String}
    (mem : name ∈ (builder.stack line).cycleThrough file module) : name ∈ line ++ [module] := by
  rcases List.mem_append.1 mem with before | last
  · obtain ⟨held, among, rfl⟩ := List.mem_map.1 before
    obtain ⟨name, inside, rfl⟩ := List.mem_map.1 ((List.dropWhile_sublist _).mem among)
    exact List.mem_append_left _ inside
  · exact List.mem_append_right _ last

/-- A build fails with a circle of modules that the entry reaches, or at one of them that cannot be
read or linked. -/
theorem cause_of_build (failed : (builder.build entry).result = .error error) :
    (∃ chain, error = .circularImport chain ∧ ∀ module ∈ chain,
      Relation.ReflTransGen builder.Imports (builder.resolver.canonical entry) module) ∨
    ∃ module, Relation.ReflTransGen builder.Imports (builder.resolver.canonical entry) module ∧
      builder.readModule module = .error error := by
  rcases meets_of_build failed with unread | met
  · exact .inr ⟨_, .refl, unread⟩
  cases met with
  | circle trail isOpen =>
      exact .inl ⟨_, rfl, fun name mem => trail.reached name (mem_of_mem_cycleThrough mem)⟩
  | @unread line module _ trail unread =>
      exact .inr ⟨module, trail.reached module (by simp), unread⟩

theorem bundle_eq_error {made : Instant}
    (failed : (builder.bundle entry made).result = .error error) :
    (builder.build entry).result = .error error := by
  rcases Traced.result_bind_eq_error.1 failed with stopped | ⟨graph, -, written⟩
  · exact stopped
  · cases written

theorem lacks_ofBase {settings : Settings} {files : Files} {base : Path}
    (origin : builder = .ofBase settings files.view base) (plainBase : c ∉ base.text.toList)
    (plainFiles : ∀ location ∈ files.view.locations, ∀ step ∈ location, c ∉ step.chars) :
    builder.Lacks c where
  base := by
    rw [origin]
    intro uses
    have normal : Component.Uses c base.normalize.location := uses
    rw [Path.location_normalize] at normal
    exact plainBase (Path.mem_of_uses normal.of_normalize)
  files := by
    rw [origin]
    rintro path isFile ⟨step, mem, inside⟩
    obtain ⟨text, read⟩ := Files.isFile_iff.1 isFile
    exact plainFiles path.location (files.view.mem_locations read) step mem inside

/-- A build of files fails with a message of one line, unless it fails because an import did not
resolve and there is a line feed in its literal or in one of its candidates. A candidate has one
only if the literal has, or an extension that is tried; and it has one if that extension is a part
of a name. The settings need not have been checked. -/
theorem bundle_error_feed_iff {settings : Settings} {files : Files} {base entry : Path}
    {made : Instant} {builder : Builder} {error : BuildError}
    (origin : builder = .ofBase settings files.view base)
    (plainFiles : ∀ location ∈ files.view.locations, ∀ step ∈ location, '\n' ∉ step.chars)
    (plainBase : '\n' ∉ base.text.toList) (plainEntry : '\n' ∉ entry.text.toList)
    (failed : (builder.bundle entry made).result = .error error) :
    ('\n' ∈ error.message.toList ↔ ∃ literal tried importer,
      error = .moduleNotFound literal tried importer ∧
        ('\n' ∈ literal.toList ∨ ∃ candidate ∈ tried, '\n' ∈ candidate.toList)) ∧
    ∀ literal tried importer, error = .moduleNotFound literal tried importer →
      Relation.ReflTransGen builder.Imports (builder.resolver.canonical entry) importer ∧
      literal ∈ builder.literals importer ∧
      tried = (builder.resolver.candidates importer literal).map builder.resolver.canonical ∧
      ((∃ candidate ∈ tried, '\n' ∈ candidate.toList) → '\n' ∈ literal.toList ∨
        builder.resolver.hasExtension literal = false ∧
          ∃ extension ∈ settings.extensions, '\n' ∈ extension.toList) ∧
      (builder.resolver.hasExtension literal = false →
        (∃ extension ∈ settings.extensions, '\n' ∈ extension.toList ∧ '/' ∉ extension.toList) →
        ∃ candidate ∈ tried, '\n' ∈ candidate.toList) := by
  have lacks := lacks_ofBase origin plainBase plainFiles
  have unnamed : ∀ module,
      Relation.ReflTransGen builder.Imports (builder.resolver.canonical entry) module →
      '\n' ∉ module.toList :=
    fun module => lacks.not_mem_of_reached (by decide) (by decide) plainEntry
  rcases cause_of_build (bundle_eq_error failed) with ⟨chain, rfl, each⟩ | ⟨module, reached, unread⟩
  · -- All that a circle names are modules.
    refine ⟨⟨fun mem => ?_, nofun⟩, nofun⟩
    obtain ⟨name, among, inside⟩ := BuildError.feed_mem_circularImport.1 mem
    exact absurd inside (unnamed name (each name among))
  have absent := unnamed module reached
  rcases readModule_eq_error unread with ⟨fault, missing, rfl⟩ | ⟨literal, written, unresolved⟩
  · -- The file is named twice, as it was asked for.
    refine ⟨⟨fun mem => ?_, nofun⟩, nofun⟩
    obtain rfl : fault = .unknown (builder.resolver.absolute module) := by
      subst origin
      exact Files.read_eq_error missing
    rw [BuildError.feed_mem_file_unknown] at mem
    rcases Resolver.uses_of_mem_absolute mem (by decide) with uses | inside
    · exact absurd uses lacks.base
    · exact absurd inside absent
  · obtain rfl := Resolver.error_of_resolve unresolved
    have extensions : builder.resolver.extensions = settings.extensions := by rw [origin]; rfl
    constructor
    · rw [BuildError.feed_mem_moduleNotFound]
      simp [absent]
    · rintro _ _ _ ⟨⟩
      rw [← extensions]
      exact ⟨reached, written, rfl, lacks.of_mem_candidate (by decide) (by decide) absent,
        lacks.exists_candidate (by decide)⟩

theorem bundle_error_feed_iff_missing :
    ∃ files : Files, files = .ofList [
        (⟨"/p/main.luau"⟩, "import('./d/x')"), (⟨"/p/d/x.lua"⟩, "import(\"../y.lua\")")] ∧
      ∃ error, ((ofBase {} files.view ⟨"/p"⟩).bundle ⟨"main.luau"⟩ ⟨⟨1970, 1, 1⟩, 0, 0, 0⟩).result =
          .error error ∧
        error = .moduleNotFound "../y.lua" ["y.lua"] "d/x.lua" ∧ '\n' ∉ error.message.toList := by
  have failed : ((ofBase {} (Files.view (.ofList [
      (⟨"/p/main.luau"⟩, "import('./d/x')"), (⟨"/p/d/x.lua"⟩, "import(\"../y.lua\")")]))
      ⟨"/p"⟩).bundle ⟨"main.luau"⟩ ⟨⟨1970, 1, 1⟩, 0, 0, 0⟩).result =
      .error (.moduleNotFound "../y.lua" ["y.lua"] "d/x.lua") := by decide +kernel
  obtain ⟨feed, -⟩ := bundle_error_feed_iff rfl (by decide +kernel) (by decide) (by decide) failed
  refine ⟨_, rfl, _, failed, rfl, ?_⟩
  rw [feed]
  rintro ⟨literal, tried, importer, ⟨⟩, broken⟩
  exact absurd broken (by decide)

/-- An import inside a comment, where a line feed between quotes is allowed, is taken for a literal
and breaks the message that it is not found. -/
theorem bundle_error_feed_in_literal :
    ({} : Settings).check = .ok {} ∧
    ∃ files : Files, files = .ofList [(⟨"/p/main.luau"⟩, "--[[ import('./a\nb') ]]")] ∧
      (∀ location ∈ files.view.locations, ∀ step ∈ location, '\n' ∉ step.chars) ∧
      ∃ error, ((ofBase {} files.view ⟨"/p"⟩).bundle ⟨"main.luau"⟩ ⟨⟨1970, 1, 1⟩, 0, 0, 0⟩).result =
          .error error ∧
        error = .moduleNotFound "./a\nb" ["a\nb.luau", "a\nb.lua"] "main.luau" ∧
        '\n' ∈ error.message.toList := by
  have accepted : ({} : Settings).check = .ok {} :=
    Settings.check_eq_self (by decide +kernel) (by simp) (by decide +kernel)
  refine ⟨accepted, _, rfl, by decide +kernel, _, by decide +kernel, rfl, ?_⟩
  exact BuildError.feed_mem_moduleNotFound.2 (.inl (by decide))

end Builder

end LuaBundle
