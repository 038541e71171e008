import LuaBundle.Artifact
import LuaBundle.Proofs.Discovery
import LuaBundle.Proofs.QuotedString

/-! # Bundles are closed

A bundle is written slot by slot. A slot is found by its key, which is a quoted string, and so is
the argument that a literal import is linked to. Both are read back to canonical paths, of which
each file has only one; so whatever spelling an import has, the loader is asked for the key of
exactly one slot, and that slot holds the linked text of the file the import means.
-/

namespace LuaBundle

namespace Artifact

/-- The parts of a written slot that depend on its module. -/
structure Slot where
  /-- What the comment in front of the slot says. -/
  comment : String
  /-- What stands between the brackets behind the table of modules. -/
  key : String
  /-- The lines of the function that the slot holds. -/
  body : String

theorem toList_withFinalNewline (text : String) :
    (withFinalNewline text).toList =
      text.toList ++ (if text.toList.getLast? = some '\n' then [] else ['\n']) := by
  rw [withFinalNewline]
  split
  · rw [List.append_nil]
  · rw [String.toList_append]
    rfl

namespace Slot

/-- The slot that is written for a module. -/
def ofModule (module : Module) : Slot :=
  ⟨module.path, Lua.quoted module.path, withFinalNewline module.body⟩

/-- A slot as it is written. -/
def text (slot : Slot) : String :=
  "-- Module: " ++ slot.comment ++ "\n__modules[" ++ slot.key ++
    "] = \x7b state = \"pending\", thunk = function(...)\n" ++ slot.body ++ "end \x7d\n\n"

/-- Whether a slot's key is a string that is read as `module`. -/
def isFor (slot : Slot) (module : String) : Bool :=
  Lua.readString? slot.key.toList == some (module.toList, [])

theorem isFor_ofModule (module : Module) (name : String) :
    (ofModule module).isFor name = (module.path == name) := by
  rw [Bool.eq_iff_iff]
  simp [isFor, ofModule, Lua.readString?_quoted, String.toList_inj]

end Slot

/-- What is written before the slots. -/
def beforeSlots (settings : Settings) (made : Instant) : String :=
  (if settings.header then header made else "") ++
    prelude settings.loaderName ++
    (if settings.bridge.enabled then bridgeDeclaration settings.bridge.name else "") ++ "\n"

/-- What is written after the slots. -/
def afterSlots (settings : Settings) (module : Module) : String :=
  loader settings.loaderName ++ "\n" ++
    (if settings.bridge.enabled then bridge settings.bridge ++ "\n" else "") ++
    entry module

/-- The slots of a bundle, in table order. -/
def slots (graph : ModuleGraph) : List Slot :=
  graph.modules.modules.map .ofModule

theorem render_eq (settings : Settings) (made : Instant) (graph : ModuleGraph) :
    render settings made graph = beforeSlots settings made ++
      String.join ((slots graph).map Slot.text) ++ afterSlots settings graph.entry := by
  have written : (slots graph).map Slot.text = graph.modules.modules.map thunk := by
    rw [slots, List.map_map]
    rfl
  rw [written, render, beforeSlots, afterSlots]
  simp only [String.append_assoc]

theorem slots_filter_isFor {graph : ModuleGraph} (unique : graph.modules.keys.Nodup)
    {module : Module} (mem : module ∈ graph.modules.modules) :
    (slots graph).filter (·.isFor module.path) = [.ofModule module] := by
  have only := ModuleTable.filter_of_mem unique mem
  rw [slots, List.filter_map]
  simp only [Function.comp_def, Slot.isFor_ofModule, only, List.map_cons, List.map_nil]

end Artifact

namespace Builder

variable {builder : Builder} {entry : Path} {made : Instant} {bundle : Bundle}
  {graph : ModuleGraph}

theorem bundle_eq_ok : (builder.bundle entry made).result = .ok bundle ↔
    ∃ graph, (builder.build entry).result = .ok graph ∧
      bundle = ⟨graph, Artifact.render builder.settings made graph, made⟩ := by
  constructor
  · intro bundled
    obtain ⟨graph, built, bundled⟩ := Traced.result_bind_eq_ok.1 bundled
    cases bundled
    exact ⟨graph, built, rfl⟩
  · rintro ⟨graph, built, rfl⟩
    exact Traced.result_bind_eq_ok.2 ⟨graph, built, rfl⟩

/-- The table holds whatever one of the modules depends on. -/
theorem mem_keys_of_mem_dependencies (rooted : builder.resolver.Rooted)
    (built : (builder.build entry).result = .ok graph) {module : Module}
    (mem : module ∈ graph.entry :: graph.modules.modules) {dependency : String}
    (needed : dependency ∈ module.dependencies) : dependency ∈ graph.modules.keys := by
  have imports : builder.Imports module.path dependency :=
    ⟨module, readModule_of_mem rooted built mem, needed⟩
  rw [mem_keys_iff rooted built]
  rcases List.mem_cons.1 mem with rfl | mem
  · have named := (readModule_eq_ok (discovers_of_build rooted built).1).1
    exact .single (named ▸ imports)
  · have reached := (mem_keys_iff rooted built module.path).1 (List.mem_map_of_mem mem)
    exact reached.tail imports

/-- In a bundle of files below a directory at the root, every literal import of the entry or of a
module in the table has become a call of the loader whose argument is the key of exactly one slot,
and the body of that slot is the linked text of the file the import means, with a line feed behind
it if it does not end in one. The settings need not have been checked. -/
theorem bundle_closed {settings : Settings} {files : Files} {base entry : Path} {made : Instant}
    {builder : Builder} {bundle : Bundle} (origin : builder = .ofBase settings files.view base)
    (absolute : base.isAbsolute = true)
    (bundled : (builder.bundle entry made).result = .ok bundle) :
    bundle.artifact = Artifact.beforeSlots settings made ++
      String.join ((Artifact.slots bundle.graph).map Artifact.Slot.text) ++
      Artifact.afterSlots settings bundle.graph.entry ∧
    ∀ module ∈ bundle.graph.entry :: bundle.graph.modules.modules,
      ∀ front gap call back tail literal,
        ImportCuts.ofSource settings.importFunction.toList module.source.toList =
          ⟨front ++ (gap, call) :: back, tail⟩ →
        call.literal? = some literal →
        ∃ before argument after dependency,
          (builder.linker.linkCalls module.path [] front).result = .ok before ∧
          (builder.linker.linkCalls module.path tail back).result = .ok after ∧
          module.body.toList = before.text ++ gap ++
            (settings.loaderName.toList ++ '(' :: argument ++ [')']) ++ after.text ∧
          (builder.resolver.resolve module.path (String.ofList literal)).result =
            .ok dependency ∧
          Lua.readString? argument = some (dependency.toList, []) ∧
          ∃ slot source linked,
            (Artifact.slots bundle.graph).filter (·.isFor dependency) = [slot] ∧
            files.read (builder.resolver.absolute dependency) = .ok source ∧
            (builder.linker.link dependency source.toList).result = .ok linked ∧
            slot.body.toList =
              linked.text ++ (if linked.text.getLast? = some '\n' then [] else ['\n']) := by
  have rooted : builder.resolver.Rooted := origin ▸ Resolver.rooted_ofBase absolute _ _
  have view : builder.resolver.files = files.view := origin ▸ rfl
  have same : builder.settings = settings := origin ▸ rfl
  obtain ⟨graph, built, rfl⟩ := bundle_eq_ok.1 bundled
  refine ⟨by rw [same, Artifact.render_eq], ?_⟩
  intro module mem front gap call back tail literal cuts isLiteral
  obtain ⟨-, -, linked, link, body, needed⟩ :=
    readModule_eq_ok (readModule_of_mem rooted built mem)
  have cuts : ImportCuts.ofSource builder.linker.importFunction.toList module.source.toList =
      ⟨front ++ (gap, call) :: back, tail⟩ := by
    rw [linker, same]
    exact cuts
  obtain ⟨before, after, dependency, early, late, resolved, text, among⟩ :=
    Linker.link_literal cuts isLiteral link
  have key := mem_keys_of_mem_dependencies rooted built mem (needed ▸ among)
  obtain ⟨target, held, rfl⟩ := List.mem_map.1 key
  obtain ⟨-, source, linkedTarget, linkTarget, bodyTarget, -⟩ :=
    readModule_eq_ok (readModule_of_mem rooted built (List.mem_cons_of_mem _ held))
  refine ⟨before, Lua.quote target.path.toList, after, target.path, early, late, ?_, resolved, ?_,
    .ofModule target, target.source, linkedTarget,
    Artifact.slots_filter_isFor (nodup_keys rooted built) held, ?_, linkTarget, ?_⟩
  · rw [body, String.toList_ofList, text, Linker.loaderCall, linker, same]
  · have whole := Lua.readString?_quote target.path.toList []
    rwa [List.append_nil] at whole
  · rw [view] at source
    exact source
  · rw [Artifact.Slot.ofModule, Artifact.toList_withFinalNewline, bodyTarget, String.toList_ofList]

theorem bundle_closed_diamond :
    ∃ bundle, (diamond.bundle ⟨"m.lua"⟩ ⟨⟨1970, 1, 1⟩, 0, 0, 0⟩).result = .ok bundle ∧
      bundle.graph.entry.source = "use('b') use('c') use('b')" ∧
      ∃ argument slot, Lua.readString? argument = some ("c.lua".toList, []) ∧
        bundle.graph.entry.body.toList =
          "import(\"b.lua\") import(".toList ++ argument ++ ") import(\"b.lua\")".toList ∧
        (Artifact.slots bundle.graph).filter (·.isFor "c.lua") = [slot] ∧
        slot.body.toList = "import(\"d.lua\")\n".toList := by
  have entry : (diamond.build ⟨"m.lua"⟩).result.map
      (fun graph => (graph.entry.path, graph.entry.source)) =
      .ok ("m.lua", "use('b') use('c') use('b')") := by
    decide +kernel
  obtain ⟨graph, built, same⟩ := Traced.exists_of_map_eq_ok entry
  obtain ⟨path, source⟩ := Prod.mk.inj same
  have bundled : (diamond.bundle ⟨"m.lua"⟩ ⟨⟨1970, 1, 1⟩, 0, 0, 0⟩).result = _ :=
    bundle_eq_ok.2 ⟨graph, built, rfl⟩
  -- The call in the middle, with one cut on either side of it.
  have cuts : ImportCuts.ofSource diamond.settings.importFunction.toList
      graph.entry.source.toList = ⟨[([], ⟨[], "'b'".toList⟩)] ++
        ([' '], ⟨[], "'c'".toList⟩) :: [([' '], ⟨[], "'b'".toList⟩)], []⟩ := by
    rw [source]
    decide +kernel
  obtain ⟨before, argument, after, dependency, early, late, body, resolved, read, slot, text,
    linked, only, found, link, lines⟩ := (bundle_closed rfl (by decide) bundled).2 graph.entry
      List.mem_cons_self _ _ _ _ _ "c".toList cuts (by decide +kernel)
  rw [path] at early late resolved
  have front : (diamond.linker.linkCalls "m.lua" [] [([], ⟨[], "'b'".toList⟩)]).result =
      .ok ⟨"import(\"b.lua\")".toList, ["b.lua"]⟩ := by decide +kernel
  have back : (diamond.linker.linkCalls "m.lua" [] [([' '], ⟨[], "'b'".toList⟩)]).result =
      .ok ⟨" import(\"b.lua\")".toList, ["b.lua"]⟩ := by decide +kernel
  have meant : (diamond.resolver.resolve "m.lua" "c").result = .ok "c.lua" := by decide +kernel
  obtain rfl := Except.ok.inj (front.symm.trans early)
  obtain rfl := Except.ok.inj (back.symm.trans late)
  obtain rfl := Except.ok.inj (meant.symm.trans resolved)
  have kept : text = "use('./x/../d.lua')" := by
    have file : diamond.resolver.files.read (diamond.resolver.absolute "c.lua") =
        .ok "use('./x/../d.lua')" := by decide +kernel
    exact Except.ok.inj (Eq.symm (file.symm.trans found))
  have ended : (diamond.linker.link "c.lua" "use('./x/../d.lua')".toList).result =
      .ok ⟨"import(\"d.lua\")".toList, ["d.lua"]⟩ := by decide +kernel
  rw [kept] at link
  obtain rfl := Except.ok.inj (ended.symm.trans link)
  refine ⟨_, bundled, source, argument, slot, read, ?_, only, lines⟩
  simpa using body

end Builder

end LuaBundle
