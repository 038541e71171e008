import LuaBundle.Proofs.ClosedBundle
import LuaBundle.Proofs.Subtree
import Mathlib.Data.List.TakeWhile

/-! # The comments of a bundle

In front of each slot and of the entry's body stands a comment with the path of the module. A
comment lasts to the next line break. The path is written as it is, so the comment ends where it
should unless there is a line break in the path; the key of the slot, which is quoted, never has
one. Every name in a path is the name of a file that was read or of a directory above it, so only a
line break in such a name can break a comment, and there it does.
-/

namespace LuaBundle

namespace Lua

/-- The characters that end a comment. -/
def isLineBreak (c : Char) : Bool :=
  c == '\n' || c == '\r'

/-- What is left of a text after its first line, from the line break on. -/
def afterLine (text : String) : List Char :=
  text.toList.dropWhile fun c => !isLineBreak c

/-- A text without a line break. -/
def IsOneLine (s : List Char) : Prop :=
  ∀ c ∈ s, isLineBreak c = false

instance (s : List Char) : Decidable (IsOneLine s) :=
  List.decidableBAll _ s

theorem isOneLine_iff (s : List Char) :
    IsOneLine s ↔ s.dropWhile (fun c => !isLineBreak c) = [] := by
  simp [IsOneLine, List.dropWhile_eq_nil_iff]

/-- A comment with a path in it, and all that is written behind its line. -/
structure Comment where
  sign : String
  path : String
  after : String

namespace Comment

/-- A comment as it is written. -/
def text (comment : Comment) : String :=
  comment.sign ++ comment.path ++ "\n" ++ comment.after

/-- The line of a comment is over where it should be: its first line break is the line feed behind
the path. -/
def Ends (comment : Comment) : Prop :=
  afterLine comment.text = ("\n" ++ comment.after).toList

variable {comment : Comment}

theorem afterLine_text (signed : IsOneLine comment.sign.toList) :
    afterLine comment.text =
      (comment.path.toList ++ '\n' :: comment.after.toList).dropWhile fun c => !isLineBreak c := by
  simp only [afterLine, text, String.toList_append, List.append_assoc]
  exact List.dropWhile_append_of_pos fun c mem => by simp [signed c mem]

theorem ends_iff (signed : IsOneLine comment.sign.toList) :
    comment.Ends ↔ IsOneLine comment.path.toList := by
  rw [Ends, afterLine_text signed, List.dropWhile_append, isOneLine_iff]
  constructor
  · intro ended
    split at ended
    · next nothing => simpa using nothing
    · simpa using ended
  · intro nothing
    rw [nothing]
    simp [isLineBreak]

end Comment

theorem isOneLine_quoted (text : String) : IsOneLine (quoted text).toList := by
  intro c mem
  simpa [isLineBreak] using not_break_of_mem_quoted mem

end Lua

namespace Text

theorem mem_joinWith {separator : List Char} {pieces : List (List Char)} {c : Char}
    (mem : c ∈ joinWith separator pieces) : c ∈ separator ∨ ∃ piece ∈ pieces, c ∈ piece := by
  induction pieces with
  | nil => cases mem
  | cons piece pieces ih =>
      cases pieces with
      | nil => exact .inr ⟨piece, List.mem_cons_self, mem⟩
      | cons next pieces =>
          simp only [joinWith, List.mem_append] at mem
          rcases mem with (here | between) | further
          · exact .inr ⟨piece, List.mem_cons_self, here⟩
          · exact .inl between
          · refine (ih further).imp_right ?_
            rintro ⟨other, among, inside⟩
            exact ⟨other, List.mem_cons_of_mem _ among, inside⟩

end Text

namespace Component

/-- A normal path ends in names, and nothing but ways up or the root stands before them. -/
theorem Held.cut {held : List Component} (isHeld : Held held) :
    ∃ names above, held = names ++ above ∧ (∀ step ∈ names, IsName step) ∧
      ∀ step ∈ above, step = .parent ∨ step = .root := by
  induction isHeld with
  | parents n =>
      exact ⟨[], _, rfl, by simp, fun step mem => .inl (List.eq_of_mem_replicate mem)⟩
  | root => exact ⟨[], _, rfl, by simp, by simp⟩
  | name isStep _ ih =>
      obtain ⟨names, above, rfl, each, others⟩ := ih
      exact ⟨_ :: names, above, rfl, List.forall_mem_cons.2 ⟨⟨isStep, by simp⟩, each⟩, others⟩

theorem steps_joinWith_append (pieces : List (List Char)) {names : List Component}
    (each : ∀ step ∈ names, IsStep step) :
    ∃ front, steps (Text.joinWith ['/'] (pieces ++ names.map chars)) = front ++ names := by
  by_cases first : pieces = []
  · exact ⟨[], by rw [first, List.nil_append, steps_joinWith each, List.nil_append]⟩
  by_cases last : names = []
  · exact ⟨_, by rw [last, List.append_nil]⟩
  · refine ⟨steps (Text.joinWith ['/'] pieces), ?_⟩
    rw [Text.joinWith_append first (by simpa using last), List.append_assoc, List.singleton_append,
      steps_append, steps_joinWith each]

theorem way_cut {path : List Component} (held : Held path.reverse) (base : List Component) :
    ∃ front names, way base path = front ++ names ∧
      (∀ step ∈ front, step = .parent ∨ step = .root) ∧ ∀ step ∈ names, IsName step := by
  obtain ⟨names, above, cut, each, others⟩ := held.cut
  have whole : path = above.reverse ++ names.reverse := by
    rw [← List.reverse_append, ← cut, List.reverse_reverse]
  unfold way
  generalize sharedLength base path = shared
  rw [whole, List.drop_append, ← List.append_assoc]
  refine ⟨_, _, rfl, ?_, ?_⟩
  · intro step mem
    rcases List.mem_append.1 mem with up | down
    · exact .inl (List.eq_of_mem_replicate up)
    · exact others step (List.mem_reverse.1 (List.mem_of_mem_drop down))
  · intro step mem
    exact each step (List.mem_reverse.1 (List.mem_of_mem_drop mem))

/-- The way from a directory to a normal path ends in names, and besides them nothing but slashes
and dots is written. -/
theorem steps_relativeTo {path : List Component} (held : Held path.reverse)
    (base : List Component) :
    ∃ front names, steps (relativeTo base path) = front ++ names ∧ (∀ step ∈ names, IsName step) ∧
      ∀ c ∈ relativeTo base path, c = '/' ∨ c = '.' ∨ ∃ step ∈ names, c ∈ step.chars := by
  obtain ⟨above, names, cut, others, each⟩ := way_cut held base
  have written : relativeTo base path =
      Text.joinWith ['/'] (above.map chars ++ names.map chars) := by
    rw [← List.map_append, ← cut, relativeTo, way, List.map_append, List.map_replicate]
  obtain ⟨front, read⟩ := steps_joinWith_append (above.map chars) fun step mem => (each step mem).1
  rw [written]
  refine ⟨front, names, read, each, ?_⟩
  intro c mem
  obtain slash | ⟨piece, among, inside⟩ := Text.mem_joinWith mem
  · exact .inl (List.mem_singleton.1 slash)
  rw [← List.map_append] at among
  obtain ⟨step, onWay, rfl⟩ := List.mem_map.1 among
  rcases List.mem_append.1 onWay with high | low
  · rcases others step high with rfl | rfl
    · exact .inr (.inl (by simpa [chars] using inside))
    · exact .inl (by simpa [chars] using inside)
  · exact .inr (.inr ⟨step, low, inside⟩)

end Component

namespace Path

/-- The names at the end of a path stay when the path is seen from a directory and normalized. -/
theorem names_subset_normalize_join (base : Path) {path : Path} {front names : List Component}
    (read : Component.steps path.text.toList = front ++ names)
    (each : ∀ step ∈ names, Component.IsName step) :
    ∀ step ∈ names, step ∈ (base.join path).normalize.location := by
  intro step mem
  cases kind : path.isAbsolute with
  | false =>
      rw [location_normalize_join base kind, read, List.foldl_append, Component.foldl_names each]
      simp [mem]
  | true =>
      rw [join_of_isAbsolute base kind, location_normalize, Component.normalize, Path.location,
        Component.ofChars_eq, read, ← List.append_assoc, List.foldl_append,
        Component.foldl_names each]
      simp [mem]

end Path

namespace Resolver

/-- Whatever is in a canonical path besides slashes and dots is in a name on the way to its file. -/
theorem mem_canonical {resolver : Resolver} {path : Path} {c : Char}
    (mem : c ∈ (resolver.canonical path).toList) (slash : c ≠ '/') (dot : c ≠ '.') :
    ∃ step ∈ (resolver.absolute (resolver.canonical path)).location, c ∈ step.chars := by
  have held := Path.held_location (resolver.base.join path).normalize_normalize
  obtain ⟨front, names, read, each, only⟩ :=
    Component.steps_relativeTo held resolver.base.location
  have text : (resolver.canonical path).toList = _ := String.toList_ofList
  rw [text] at mem
  obtain bad | bad | ⟨step, among, inside⟩ := only c mem
  · exact absurd bad slash
  · exact absurd bad dot
  · rw [← text] at read
    exact ⟨step, Path.names_subset_normalize_join resolver.base read each step among, inside⟩

end Resolver

theorem ModuleTable.mem_insert {table : ModuleTable} {module other : Module}
    (mem : other ∈ (table.insert module).modules) : other = module ∨ other ∈ table.modules := by
  unfold insert at mem
  split at mem
  · obtain ⟨held, among, replaced⟩ := List.mem_map.1 mem
    split at replaced
    · exact .inl replaced.symm
    · exact .inr (replaced ▸ among)
  · simpa [or_comm] using mem

namespace Builder

variable {builder : Builder} {known : String → Prop}

/-- Every module that is entered has been read, and it is known if those to start from are and
whatever a module imports. -/
theorem Collects.mem_table (closed : ∀ module loaded, builder.readModule module = .ok loaded →
      ∀ dependency ∈ loaded.dependencies, known dependency) {opened : OpenModules}
    {progress final : Progress} {modules : List String}
    (collects : Collects builder opened progress modules final)
    (start : ∀ module ∈ modules, known module) {module : Module}
    (mem : module ∈ final.table.modules) :
    module ∈ progress.table.modules ∨
      known module.path ∧ builder.readModule module.path = .ok module := by
  induction collects with
  | done => exact .inl mem
  | met _ _ _ ih => exact ih (List.forall_mem_cons.1 start).2 mem
  | @entered opened progress name rest loaded inner final _ _ read _ _ ihBelow ih =>
      obtain ⟨here, others⟩ := List.forall_mem_cons.1 start
      rcases ih others mem with inside | found
      · rcases ihBelow (closed name loaded read) inside with before | found
        · rcases ModuleTable.mem_insert before with rfl | before
          · have named := (readModule_eq_ok read).1
            exact .inr (named ▸ ⟨here, read⟩)
          · exact .inl before
        · exact .inr found
      · exact .inr found

/-- Each module of a build has the canonical path of something and was read under that path. -/
theorem canonical_of_mem {entry : Path} {graph : ModuleGraph}
    (built : (builder.build entry).result = .ok graph) {module : Module}
    (mem : module ∈ graph.entry :: graph.modules.modules) :
    (∃ path, module.path = builder.resolver.canonical path) ∧
      builder.readModule module.path = .ok module := by
  obtain ⟨read, progress, table, collects⟩ := build_eq_ok built
  have closed : ∀ module loaded, builder.readModule module = .ok loaded →
      ∀ dependency ∈ loaded.dependencies,
        ∃ path, dependency = builder.resolver.canonical path := by
    intro module loaded read dependency needed
    obtain ⟨literal, -, resolved⟩ := Imports.linksTo ⟨loaded, read, needed⟩
    obtain ⟨path, -, -, same⟩ := Resolver.candidate_of_resolve resolved
    exact ⟨path, same⟩
  rcases List.mem_cons.1 mem with rfl | mem
  · have named := (readModule_eq_ok read).1
    exact ⟨⟨entry, named⟩, named ▸ read⟩
  · rw [← table] at mem
    exact (collects.mem_table closed (closed _ _ read) mem).resolve_left (by simp)

theorem isOneLine_path {entry : Path} {graph : ModuleGraph}
    (built : (builder.build entry).result = .ok graph)
    (plain : ∀ location ∈ builder.resolver.files.locations, ∀ step ∈ location,
      Lua.IsOneLine step.chars) :
    ∀ module ∈ graph.entry :: graph.modules.modules, Lua.IsOneLine module.path.toList := by
  intro module mem c inside
  obtain ⟨⟨path, named⟩, read⟩ := canonical_of_mem built mem
  have held := builder.resolver.files.mem_locations (readModule_eq_ok read).2.1
  by_contra broken
  have slash : c ≠ '/' := by
    rintro rfl
    exact broken (by decide)
  have dot : c ≠ '.' := by
    rintro rfl
    exact broken (by decide)
  rw [named] at inside held
  obtain ⟨step, among, part⟩ := Resolver.mem_canonical inside slash dot
  exact broken (plain _ held step among c part)

end Builder

namespace Artifact

/-- What is written of a slot behind the comment that stands in front of it. -/
def assignment (module : Module) : String :=
  "__modules[" ++ Lua.quoted module.path ++
    "] = \x7b state = \"pending\", thunk = function(...)\n" ++ withFinalNewline module.body ++
    "end \x7d\n\n"

/-- The comment in front of a module's slot, with the slots of `later` modules and then the rest of
the bundle behind it. -/
def slotComment (settings : Settings) (entry module : Module) (later : List Module) :
    Lua.Comment :=
  ⟨"-- Module: ", module.path,
    assignment module ++ String.join (later.map thunk) ++ afterSlots settings entry⟩

/-- The comment in front of the entry's body. -/
def entryComment (entry : Module) : Lua.Comment :=
  ⟨"-- Entry: ", entry.path, withFinalNewline entry.body⟩

variable (settings : Settings) (made : Instant) (entry module : Module)

theorem isOneLine_sign_slotComment (later : List Module) :
    Lua.IsOneLine (slotComment settings entry module later).sign.toList := by
  change Lua.IsOneLine "-- Module: ".toList
  decide

theorem isOneLine_sign_entryComment : Lua.IsOneLine (entryComment entry).sign.toList := by
  change Lua.IsOneLine "-- Entry: ".toList
  decide

theorem thunk_eq :
    thunk module = "-- Module: " ++ module.path ++ "\n" ++ assignment module := by
  have opening : "\n__modules[" = "\n" ++ "__modules[" := rfl
  unfold thunk assignment
  rw [opening]
  simp only [String.append_assoc]

variable {module}

theorem render_at_slot {graph : ModuleGraph} {earlier later : List Module}
    (cut : graph.modules.modules = earlier ++ module :: later) :
    render settings made graph = beforeSlots settings made ++ String.join (earlier.map thunk) ++
      (slotComment settings graph.entry module later).text := by
  have written : (slots graph).map Slot.text =
      earlier.map thunk ++ thunk module :: later.map thunk := by
    rw [slots, List.map_map, cut, List.map_append]
    rfl
  rw [render_eq, written, String.join_append, String.join_cons, thunk_eq, slotComment,
    Lua.Comment.text]
  simp only [String.append_assoc]

theorem render_at_entry (graph : ModuleGraph) :
    ∃ before, render settings made graph = before ++ (entryComment graph.entry).text :=
  ⟨_, rfl⟩

end Artifact

namespace Builder

/-- In every bundle, the comment in front of a slot is over where the slot's assignment begins, and
the comment in front of the entry's body where that body begins, exactly if the path in the comment
has no line break; the key of a slot never has one. If no name of a file or directory has a line
break, then neither has any path. -/
theorem bundle_comments_end_iff {settings : Settings} {files : FileView} {base entry : Path}
    {made : Instant} {bundle : Bundle}
    (bundled : ((ofBase settings files base).bundle entry made).result = .ok bundle) :
    (∀ earlier module later, bundle.graph.modules.modules = earlier ++ module :: later →
      bundle.artifact = Artifact.beforeSlots settings made ++
          String.join (earlier.map Artifact.thunk) ++
          (Artifact.slotComment settings bundle.graph.entry module later).text ∧
        ((Artifact.slotComment settings bundle.graph.entry module later).Ends ↔
          Lua.IsOneLine module.path.toList) ∧
        Lua.IsOneLine (Lua.quoted module.path).toList) ∧
    (∃ before, bundle.artifact = before ++ (Artifact.entryComment bundle.graph.entry).text) ∧
    ((Artifact.entryComment bundle.graph.entry).Ends ↔
      Lua.IsOneLine bundle.graph.entry.path.toList) ∧
    ((∀ location ∈ files.locations, ∀ step ∈ location, Lua.IsOneLine step.chars) →
      ∀ module ∈ bundle.graph.entry :: bundle.graph.modules.modules,
        Lua.IsOneLine module.path.toList) := by
  obtain ⟨graph, built, rfl⟩ := bundle_eq_ok.1 bundled
  refine ⟨?_, Artifact.render_at_entry _ _ _,
    Lua.Comment.ends_iff (Artifact.isOneLine_sign_entryComment _), isOneLine_path built⟩
  intro earlier module later cut
  exact ⟨Artifact.render_at_slot settings made cut,
    Lua.Comment.ends_iff (Artifact.isOneLine_sign_slotComment _ _ _ _),
    Lua.isOneLine_quoted module.path⟩

theorem bundle_comments_end_iff_diamond :
    ∃ bundle, (diamond.bundle ⟨"m.lua"⟩ ⟨⟨1970, 1, 1⟩, 0, 0, 0⟩).result = .ok bundle ∧
      bundle.graph.modules.keys = ["b.lua", "d.lua", "c.lua"] ∧
      (Artifact.entryComment bundle.graph.entry).Ends ∧
      ∀ earlier module later, bundle.graph.modules.modules = earlier ++ module :: later →
        (Artifact.slotComment diamond.settings bundle.graph.entry module later).Ends := by
  have keys : (diamond.build ⟨"m.lua"⟩).result.map (·.modules.keys) =
      .ok ["b.lua", "d.lua", "c.lua"] := by decide +kernel
  have plain : ∀ location ∈ diamond.resolver.files.locations, ∀ step ∈ location,
      Lua.IsOneLine step.chars := by decide +kernel
  obtain ⟨graph, built, keys⟩ := Traced.exists_of_map_eq_ok keys
  have bundled : (diamond.bundle ⟨"m.lua"⟩ ⟨⟨1970, 1, 1⟩, 0, 0, 0⟩).result = _ :=
    bundle_eq_ok.2 ⟨graph, built, rfl⟩
  obtain ⟨slots, -, entry, oneLine⟩ := bundle_comments_end_iff bundled
  refine ⟨_, bundled, keys, entry.2 (oneLine plain _ List.mem_cons_self), ?_⟩
  intro earlier module later cut
  have whole : graph.modules.modules = earlier ++ module :: later := cut
  have mem : module ∈ graph.modules.modules := by simp [whole]
  exact (slots earlier module later cut).2.1.2 (oneLine plain module (List.mem_cons_of_mem _ mem))

/-- Two modules in a directory whose name has a line feed in it. -/
def linefed : Builder :=
  .ofBase {} (Files.view (.ofList [
    (⟨"/d\nf()--/m.lua"⟩, "import('./u')"),
    (⟨"/d\nf()--/u.lua"⟩, "")])) ⟨"/"⟩

theorem bundle_comment_broken_by_name :
    ∃ bundle, (linefed.bundle ⟨"d\nf()--/m.lua"⟩ ⟨⟨1970, 1, 1⟩, 0, 0, 0⟩).result = .ok bundle ∧
      ∃ module before comment, bundle.graph.modules.modules = [module] ∧
        comment = Artifact.slotComment linefed.settings bundle.graph.entry module [] ∧
        bundle.artifact = before ++ comment.text ∧ ¬ comment.Ends ∧
        Lua.afterLine comment.text = ("\nf()--/u.lua\n" ++ comment.after).toList ∧
        ¬ (Artifact.entryComment bundle.graph.entry).Ends := by
  have paths : (linefed.build ⟨"d\nf()--/m.lua"⟩).result.map
      (fun graph => (graph.entry.path, graph.modules.modules.map (·.path))) =
      .ok ("d\nf()--/m.lua", ["d\nf()--/u.lua"]) := by decide +kernel
  obtain ⟨graph, built, paths⟩ := Traced.exists_of_map_eq_ok paths
  obtain ⟨entryPath, tablePaths⟩ := Prod.mk.inj paths
  obtain ⟨module, only, path⟩ := List.map_eq_singleton_iff.1 tablePaths
  have cut : graph.modules.modules = [] ++ module :: [] := only
  have signed := Artifact.isOneLine_sign_slotComment linefed.settings graph.entry module []
  refine ⟨_, bundle_eq_ok.2 ⟨graph, built, rfl⟩, module, _, _, only, rfl,
    Artifact.render_at_slot _ _ cut, ?_, ?_, ?_⟩
  · rw [Lua.Comment.ends_iff signed]
    change ¬ Lua.IsOneLine module.path.toList
    rw [path]
    decide
  · rw [Lua.Comment.afterLine_text signed, String.toList_append]
    change (module.path.toList ++ _).dropWhile _ = _
    rw [path]
    rfl
  · rw [Lua.Comment.ends_iff (Artifact.isOneLine_sign_entryComment _)]
    change ¬ Lua.IsOneLine graph.entry.path.toList
    rw [entryPath]
    decide

end Builder

end LuaBundle
