import LuaBundle.CommandLine
import LuaBundle.Proofs.Discovery
import LuaBundle.Proofs.Subtree

/-! # Which changes call for a new build

Imports are looked up by the last name of a path, and changes are told by the end of its text. Both
mean the same files: what a candidate ends in, its normal form ends in too, because the last name of
a path is never folded away. The root directory is the one path without a last name. An extension
that adds nothing to it, the empty one or a single dot, leads there, and only the empty one is what
the text of the root ends in.
-/

namespace LuaBundle

theorem Text.suffix_joinWith (separator : List Char) (pieces : List (List Char))
    (piece : List Char) : piece <:+ joinWith separator (pieces ++ [piece]) := by
  by_cases none : pieces = []
  · subst none
    exact List.suffix_rfl
  · rw [joinWith_append none (by simp)]
    exact List.suffix_append _ _

namespace Component

variable {location : List Component} {name : List Char}

theorem suffix_render (last : location.getLast? = some (.name name)) :
    name <:+ render location := by
  obtain ⟨front, rfl⟩ := List.getLast?_eq_some_iff.1 last
  match front with
  | [] => exact List.suffix_rfl
  | .root :: front =>
      simp only [List.cons_append, render, List.map_append]
      exact (Text.suffix_joinWith ['/'] (front.map chars) name).trans (List.suffix_cons '/' _)
  | .current :: front | .parent :: front | .name _ :: front =>
      simp only [List.cons_append, render]
      rw [← List.cons_append, List.map_append]
      exact Text.suffix_joinWith ['/'] _ name

/-- Nothing behind the last name can take it back. -/
theorem getLast?_normalize (last : location.getLast? = some (.name name)) :
    (normalize location).getLast? = some (.name name) := by
  obtain ⟨front, rfl⟩ := List.getLast?_eq_some_iff.1 last
  rw [normalize, List.foldl_append, List.getLast?_reverse, List.foldl_cons, List.foldl_nil,
    fold_name]
  rfl

theorem getLast?_steps {s : List Char} (last : (ofChars s).getLast? = some (.name name)) :
    (steps s).getLast? = some (.name name) := by
  rw [ofChars_eq, List.getLast?_append] at last
  cases ending : (steps s).getLast? with
  | some step =>
      rw [ending] at last
      exact last
  | none =>
      -- Where a path starts there is no name.
      rw [ending, lead] at last
      split at last
      · cases last
      · split at last <;> cases last

theorem ofChars_slash (s : List Char) : ofChars ('/' :: s) = .root :: steps s := by
  rw [ofChars_eq, ← List.nil_append ('/' :: s), steps_append]
  rfl

end Component

namespace Path

variable {path : Path} {name : List Char}

theorem suffix_text_normalize (last : path.location.getLast? = some (.name name)) :
    name <:+ path.normalize.text.toList := by
  rw [normalize, ofLocation, String.toList_ofList]
  exact Component.suffix_render (Component.getLast?_normalize last)

theorem getLast?_location_join {other : Path} (absolute : path.isAbsolute = true)
    (last : other.location.getLast? = some (.name name)) :
    (path.join other).location.getLast? = some (.name name) := by
  cases kind : other.isAbsolute with
  | true =>
      rw [join_of_isAbsolute path kind]
      exact last
  | false =>
      have written : path.text.toList ≠ [] := by
        intro empty
        simp [isAbsolute, empty] at absolute
      rw [location_join written kind, List.getLast?_append, Component.getLast?_steps last]
      rfl

theorem fileName?_eq_some (named : path.fileName? = some name) :
    path.location.getLast? = some (.name name) := by
  unfold fileName? at named
  split at named
  · next chars last =>
      cases named
      exact last
  · cases named

/-- A normal path from the root is the root or has a last name. -/
theorem cut_of_normal (normal : path.normalize = path) (absolute : path.isAbsolute = true) :
    path.location = [.root] ∨ ∃ front name, path.location = .root :: front ++ [.name name] ∧
      ∀ step ∈ front ++ [.name name], Component.IsStep step := by
  have start := (isAbsolute_iff path).1 absolute
  have spelled := path.spellable_location
  obtain ⟨names, reversed, each⟩ := (held_location normal).names_of_rooted
    (by rwa [List.getLast?_reverse])
  have written : path.location = .root :: names.reverse := by
    simpa using congrArg List.reverse reversed
  rw [written] at spelled ⊢
  cases names with
  | nil => exact .inl rfl
  | cons last names =>
      obtain ⟨name, rfl⟩ := each last List.mem_cons_self
      refine .inr ⟨names.reverse, name, by simp, ?_⟩
      rw [List.reverse_cons] at spelled
      cases spelled with
      | relative steps => exact (steps .root List.mem_cons_self).elim
      | root steps => exact steps

theorem text_of_location_root (normal : path.normalize = path) (root : path.location = [.root]) :
    path.text = "/" := by
  rw [← normal, normalize, root]
  rfl

/-- An extension that is written behind a normal path becomes the end of its last name. Behind the
root it is the whole name, unless it is read as nothing or as a way up. -/
theorem location_append_extension {suffix : String} (normal : path.normalize = path)
    (absolute : path.isAbsolute = true) (slashless : '/' ∉ suffix.toList) :
    (∃ name, (path.append suffix).location.getLast? = some (.name name) ∧
      suffix.toList <:+ name) ∨
    (path.append suffix).location = [.root] ∧ (suffix = "" ∨ suffix = ".") ∨
    (path.append suffix).location = [.root, .parent] := by
  have text : path.text.toList = Component.render path.location := by
    conv_lhs => rw [← normal, normalize, ofLocation, String.toList_ofList]
    rw [← location_normalize, normal]
  have spelled : (path.append suffix).location =
      Component.ofChars (Component.render path.location ++ suffix.toList) := by
    rw [location, append, String.toList_append, text]
  rw [spelled]
  rcases cut_of_normal normal absolute with root | ⟨front, name, cut, each⟩
  · have below : Component.ofChars (Component.render path.location ++ suffix.toList) =
        .root :: (Component.ofPiece? suffix.toList).toList := by
      rw [root, ← Component.steps_of_slashless slashless]
      exact Component.ofChars_slash suffix.toList
    rw [below]
    unfold Component.ofPiece?
    split
    · next empty => exact .inr (.inl ⟨rfl, .inl (String.toList_inj.1 empty)⟩)
    · next dot => exact .inr (.inl ⟨rfl, .inr (String.toList_inj.1 dot)⟩)
    · exact .inr (.inr rfl)
    · exact .inl ⟨suffix.toList, rfl, List.suffix_rfl⟩
  · have isStep := Component.isStep_name_append (each (.name name) (by simp)) slashless
    refine .inl ⟨name ++ suffix.toList, ?_, List.suffix_append _ _⟩
    have read : Component.steps (name ++ suffix.toList) = [.name (name ++ suffix.toList)] :=
      @Component.steps_joinWith [.name (name ++ suffix.toList)] (by simpa using isStep)
    rw [cut, Component.ofChars_render_append suffix.toList
      (fun step mem => each step (List.mem_append_left _ mem)) (by simp)]
    simp only [List.map_cons, List.map_nil, Text.joinWith, Component.chars, read,
      List.getLast?_append, List.getLast?_singleton, Option.some_or]

end Path

namespace Resolver

variable {resolver : Resolver} {importer literal module : String} {files : Files}

theorem getLast?_target (rooted : resolver.Rooted) (explicit : resolver.hasExtension literal = true)
    (importer : String) :
    ∃ extension ∈ resolver.extensions, ∃ name,
      (resolver.target importer literal).location.getLast? = some (.name name) ∧
        extension.toList <:+ name := by
  unfold hasExtension at explicit
  split at explicit
  · cases explicit
  · next name named =>
      obtain ⟨extension, mem, ending⟩ := List.any_eq_true.1 explicit
      refine ⟨extension, mem, name, ?_, ?_⟩
      · rw [target, Path.location_normalize]
        apply Component.getLast?_normalize
        apply Path.getLast?_location_join (isAbsolute_directory rooted importer)
        exact Path.fileName?_eq_some named
      · exact List.isSuffixOf_iff_suffix.1 (Bool.and_eq_true_iff.1 ending).1

/-- A file that an import was found at has a last name with an extension at its end, or else it is
the root, to which the extension added nothing. -/
theorem getLast?_of_candidate (rooted : resolver.Rooted)
    (slashless : ∀ extension ∈ resolver.extensions, '/' ∉ extension.toList) {path : Path}
    (mem : path ∈ resolver.candidates importer literal)
    (normal : path.normalize.location = path.location) :
    (∃ extension ∈ resolver.extensions, ∃ name,
      path.location.getLast? = some (.name name) ∧ extension.toList <:+ name) ∨
    path.location = [.root] ∧ ("" ∈ resolver.extensions ∨ "." ∈ resolver.extensions) := by
  unfold candidates at mem
  split at mem
  · next explicit =>
      rw [List.mem_singleton.1 mem]
      exact .inl (getLast?_target rooted explicit importer)
  · obtain ⟨extension, given, rfl⟩ := List.mem_map.1 mem
    have absolute := isAbsolute_target rooted importer literal
    have plain : (resolver.target importer literal).normalize = resolver.target importer literal :=
      Path.normalize_normalize _
    rcases Path.location_append_extension plain absolute (slashless extension given) with
      ⟨name, last, ending⟩ | ⟨root, blank⟩ | up
    · exact .inl ⟨extension, given, name, last, ending⟩
    · refine .inr ⟨root, ?_⟩
      rcases blank with rfl | rfl
      · exact .inl given
      · exact .inr given
    · rw [Path.location_normalize, up] at normal
      cases normal

end Resolver

variable {outputs : List Path} {extensions : List String} {path : Path}

theorem isModuleChange_iff (normal : path.normalize = path) :
    isModuleChange outputs extensions path = true ↔ path.location ∉ outputs.map Path.location ∧
      ∃ extension ∈ extensions, extension.toList <:+ path.text.toList := by
  simp [isModuleChange, normal]

/-- However a file that a build writes is spelled, its change calls for nothing. -/
theorem isModuleChange_output {arguments : Arguments} {working written : Path}
    (extensions : List String) (mem : written ∈ arguments.output :: arguments.manifest.toList)
    (same : path.normalize.location = (working.join written).normalize.location) :
    isModuleChange (arguments.outputPaths working) extensions path = false := by
  have held : path.normalize.location ∈ (arguments.outputPaths working).map Path.location := by
    rw [same]
    exact List.mem_map_of_mem (List.mem_map_of_mem mem)
  simp only [isModuleChange, List.contains_iff_mem.2 held, Bool.not_true, Bool.false_and]

namespace Resolver

variable {resolver : Resolver} {importer literal module : String} {files : Files}

theorem isModuleChange_of_resolve (rooted : resolver.Rooted)
    (slashless : ∀ extension ∈ resolver.extensions, '/' ∉ extension.toList)
    (normal : files.Normal) (view : resolver.files = files.view)
    (resolved : (resolver.resolve importer literal).result = .ok module) (outputs : List Path) :
    (isModuleChange outputs resolver.extensions (resolver.absolute module) = true ↔
      (resolver.absolute module).location ∉ outputs.map Path.location ∧
        ((resolver.absolute module).location = [.root] → "" ∈ resolver.extensions)) ∧
    ((resolver.absolute module).location = [.root] →
      "" ∈ resolver.extensions ∨ "." ∈ resolver.extensions) := by
  obtain ⟨path, mem, isFile, file⟩ := absolute_of_resolve rooted resolved
  rw [view] at isFile
  have same := normal.location_normalize isFile
  rw [file, isModuleChange_iff path.normalize_normalize, same]
  rcases getLast?_of_candidate rooted slashless mem same with
    ⟨extension, given, name, last, ending⟩ | ⟨root, blank⟩
  · have ends := ending.trans (Path.suffix_text_normalize last)
    have below : path.location ≠ [.root] := by
      intro root
      rw [root] at last
      cases last
    simp only [below, false_imp_iff, and_true, and_iff_left_iff_imp]
    exact fun _ => ⟨extension, given, ends⟩
  · have text := Path.text_of_location_root path.normalize_normalize (same.trans root)
    refine ⟨and_congr_right fun _ => ?_, fun _ => blank⟩
    rw [text, show "/".toList = ['/'] from rfl]
    constructor
    · rintro ⟨extension, given, ending⟩ -
      -- Of the two ends of a slash, only the empty one is not the slash itself.
      rcases List.suffix_cons_iff.1 ending with slash | ending
      · exact absurd (by simp [slash]) (slashless extension given)
      · have empty : extension = "" := by simpa using ending
        exact empty ▸ given
    · intro empty
      exact ⟨"", empty root, by simp⟩

end Resolver

namespace Builder

/-- A change of a module in the table calls for a new build unless the module is a file that the
build writes itself. The root directory is the exception, and to be led there takes an extension
that is empty or a dot. A change of a file that the build writes never does, however that file is
spelled. -/
theorem isModuleChange_iff_of_build {settings : Settings} {files : Files} {base entry : Path}
    {builder : Builder} {graph : ModuleGraph} {arguments : Arguments} {working : Path}
    {outputs : List Path} (made : builder = .ofBase settings files.view base)
    (absolute : base.isAbsolute = true)
    (slashless : ∀ extension ∈ settings.extensions, '/' ∉ extension.toList)
    (normal : files.Normal) (built : (builder.build entry).result = .ok graph)
    (written : outputs = arguments.outputPaths working) :
    (∀ key ∈ graph.modules.keys,
      (isModuleChange outputs settings.extensions (builder.resolver.absolute key) = true ↔
        (builder.resolver.absolute key).location ∉ outputs.map Path.location ∧
          ((builder.resolver.absolute key).location = [.root] → "" ∈ settings.extensions)) ∧
      ((builder.resolver.absolute key).location = [.root] →
        "" ∈ settings.extensions ∨ "." ∈ settings.extensions)) ∧
    ∀ path, ∀ output ∈ arguments.output :: arguments.manifest.toList,
      path.normalize.location = (working.join output).normalize.location →
      isModuleChange outputs settings.extensions path = false := by
  have rooted : builder.resolver.Rooted := made ▸ Resolver.rooted_ofBase absolute _ _
  have view : builder.resolver.files = files.view := made ▸ rfl
  have extended : builder.resolver.extensions = settings.extensions := made ▸ rfl
  constructor
  · intro key mem
    -- The last import on the way to a module is what it was found by.
    obtain ⟨importer, -, imports⟩ :=
      Relation.TransGen.tail'_iff.1 ((mem_keys_iff rooted built key).1 mem)
    obtain ⟨literal, -, resolved⟩ := imports.linksTo
    rw [← extended] at slashless ⊢
    exact Resolver.isModuleChange_of_resolve rooted slashless normal view resolved outputs
  · intro path output mem same
    rw [written]
    exact isModuleChange_output settings.extensions mem same

theorem isModuleChange_iff_of_build_diamond :
    ∃ (arguments : Arguments) (outputs : List Path),
      arguments = { base := ⟨"/"⟩, entry := ⟨"m.lua"⟩, output := ⟨"../d.lua"⟩ } ∧
      outputs = arguments.outputPaths ⟨"/p"⟩ ∧ outputs = [⟨"/d.lua"⟩] ∧
      (∃ graph, (diamond.build ⟨"m.lua"⟩).result = .ok graph ∧ "b.lua" ∈ graph.modules.keys) ∧
      isModuleChange outputs [".lua"] (diamond.resolver.absolute "b.lua") = true ∧
      isModuleChange outputs [".lua"] ⟨"/x/../d.lua"⟩ = false := by
  let arguments : Arguments := { base := ⟨"/"⟩, entry := ⟨"m.lua"⟩, output := ⟨"../d.lua"⟩ }
  have outputs : arguments.outputPaths ⟨"/p"⟩ = [⟨"/d.lua"⟩] := by decide +kernel
  have keys : (diamond.build ⟨"m.lua"⟩).result.map (·.modules.keys) =
      .ok ["b.lua", "d.lua", "c.lua"] := by decide +kernel
  cases built : (diamond.build ⟨"m.lua"⟩).result with
  | error error =>
      rw [built] at keys
      cases keys
  | ok graph =>
      rw [built] at keys
      have table : graph.modules.keys = ["b.lua", "d.lua", "c.lua"] := Except.ok.inj keys
      have mem : "b.lua" ∈ graph.modules.keys := by simp [table]
      obtain ⟨changes, written⟩ :=
        isModuleChange_iff_of_build rfl (by decide) (by decide +kernel) (by decide +kernel) built
          (rfl : _ = arguments.outputPaths ⟨"/p"⟩)
      refine ⟨arguments, _, rfl, rfl, outputs, ⟨graph, rfl, mem⟩, ?_, ?_⟩
      · rw [← show diamond.settings.extensions = [".lua"] from rfl]
        refine (changes "b.lua" mem).1.2 ⟨?_, fun root => ?_⟩
        · rw [outputs]
          decide +kernel
        · exact absurd root (by decide +kernel)
      · exact written ⟨"/x/../d.lua"⟩ ⟨"../d.lua"⟩ (by simp [arguments]) (by decide +kernel)

/-- A dot as an extension leads an import to a file at the root, whose text does not end in one. -/
theorem isModuleChange_root_false :
    ∃ (builder : Builder) (files : Files) (outputs : List Path),
      builder = .ofBase { extensions := ["."] } files.view ⟨"/"⟩ ∧
      files = .ofList [(⟨"/m"⟩, "import('.')"), (⟨"/"⟩, "")] ∧ files.Normal ∧
      outputs = Arguments.outputPaths { base := ⟨"/"⟩, entry := ⟨"m"⟩, output := ⟨"/o"⟩ } ⟨"/"⟩ ∧
      (builder.build ⟨"m"⟩).result.map (·.modules.keys) = .ok [""] ∧
      (builder.resolver.absolute "").location ∉ outputs.map Path.location ∧
      isModuleChange outputs ["."] (builder.resolver.absolute "") = false := by
  refine ⟨_, _, _, rfl, rfl, ?_, rfl, ?_, ?_, ?_⟩ <;> decide +kernel

end Builder

end LuaBundle
