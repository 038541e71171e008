import LuaBundle.Artifact
import LuaBundle.Proofs.CheckedSettings
import LuaBundle.Proofs.Templates

/-! # Names of the bundle and names of its host

The fixed parts of a bundle declare the names that all its modules share, and they use names that
the host has to have. Both are read off the templates. If a declared name is the name of something
the host has to have, the bundle means its own variable where it should mean the host's. Checked
settings keep the declared names apart from each other, but they do not rule this out; it is said
exactly for which settings it happens.
-/

namespace LuaBundle

namespace Token

/-- Code, that is neither blank nor a comment or a string. -/
def isCode : Token → Bool
  | .aside _ => false
  | .mark c => !Text.isAsciiBlank c
  | _ => true

/-- The tokens that stand for variables. The identity that a bridge takes on is a number. -/
def isVariable : Token → Bool
  | .word chars => !(Lua.keywords.map String.toList).contains chars
  | .slot name => name != "identity".toList
  | _ => false

/-- The variables at the front of some code, which have commas between them. -/
def listed : List Token → List Token
  | token :: .mark ',' :: rest => token :: listed rest
  | token :: _ => [token]
  | [] => []

/-- The variables that code declares as locals. -/
def locals : List Token → List Token
  | [] => []
  | token :: rest =>
    if token = .word "local".toList then listed rest ++ locals rest else locals rest

/-- The variables that code uses and has not declared before, with `inner` declared already. What
follows a dot is a field, unless there are two dots. -/
-- No scope is ever left: each template holds one function and ends with it.
def outer (inner : List Token) : List Token → List Token
  | [] => []
  | .mark '.' :: .mark '.' :: rest => outer inner rest
  | .mark '.' :: _ :: rest => outer inner rest
  | token :: rest =>
    if token = .word "local".toList then outer (listed rest ++ inner) rest
    else if token = .word "function".toList then outer (listed (rest.drop 1) ++ inner) rest
    else if token.isVariable && !inner.contains token then token :: outer inner rest
    else outer inner rest

end Token

namespace Template

def code (template : Template) : List Token :=
  template.tokens.filter Token.isCode

/-- The variables that a template declares. -/
def declared (template : Template) : List Token :=
  Token.locals template.code

/-- The variables that a template uses but does not declare for itself. -/
def used (template : Template) : List Token :=
  (Token.outer [] template.code).eraseDups

end Template

/-- A template and what its slots are filled with. -/
structure Snippet where
  template : Template
  values : List (String × String)

namespace Snippet

def text (snippet : Snippet) : String :=
  snippet.template.fill snippet.values

/-- The name that a variable of the template gets. -/
def name (snippet : Snippet) (token : Token) : String :=
  String.ofList (token.charsIn snippet.values)

end Snippet

namespace Settings

/-- The declaration of the bridge. -/
def bridgeDeclarationTemplate : Template := .ofLines ["local \x7bbridge\x7d"]

/-- The parts of a bundle that stand in front of its modules. -/
def declarations (settings : Settings) : List Snippet :=
  ⟨preludeTemplate, [("loader", settings.loaderName)]⟩ ::
    if settings.bridge.enabled then
      [⟨bridgeDeclarationTemplate, [("bridge", settings.bridge.name)]⟩]
    else []

/-- The parts of a bundle that stand behind its modules. -/
def runtime (settings : Settings) : List Snippet :=
  ⟨loaderTemplate, [("loader", settings.loaderName)]⟩ ::
    if settings.bridge.enabled then
      [⟨bridgeTemplate, [
        ("bridge", settings.bridge.name),
        ("host_loader", settings.bridge.loader),
        ("get_identity", settings.bridge.getIdentity),
        ("set_identity", settings.bridge.setIdentity),
        ("identity", toString settings.bridge.identity.toNat)]⟩]
    else []

/-- The variables that a bundle declares. -/
def ownVariables (settings : Settings) : List Token :=
  settings.declarations.flatMap (·.template.declared)

/-- The names that a bundle declares for all its modules. -/
def declares (settings : Settings) : List String :=
  settings.declarations.flatMap fun snippet => snippet.template.declared.map snippet.name

/-- The names that the host of a bundle has to have. -/
def needs (settings : Settings) : List String :=
  settings.runtime.flatMap fun snippet =>
    (snippet.template.used.filter (· ∉ settings.ownVariables)).map snippet.name

end Settings

/-! ## What the templates declare and use -/

-- The lines of a template are turned into characters before anything is evaluated: the kernel
-- would decode the bytes of each line.

theorem declared_prelude :
    preludeTemplate.declared = [.word "__modules".toList, .slot "loader".toList] ∧
      ∀ token ∈ preludeTemplate.tokens, token.IsPlain := by
  rw [Template.declared, Template.code, Template.tokens, preludeTemplate, Template.toList_ofLines]
  simp only [List.flatMap_cons, List.flatMap_nil]
  repeat rw [String.toList_ofList]
  decide +kernel

theorem declared_bridgeDeclaration :
    Settings.bridgeDeclarationTemplate.declared = [.slot "bridge".toList] ∧
      ∀ token ∈ Settings.bridgeDeclarationTemplate.tokens, token.IsPlain := by
  rw [Template.declared, Template.code, Template.tokens, Settings.bridgeDeclarationTemplate,
    Template.toList_ofLines]
  simp only [List.flatMap_cons, List.flatMap_nil]
  repeat rw [String.toList_ofList]
  decide +kernel

theorem used_loader :
    loaderTemplate.used = [.slot "loader".toList, .word "__modules".toList, .word "error".toList,
        .word "tostring".toList, .word "pcall".toList] ∧
      ∀ token ∈ loaderTemplate.tokens, token.IsPlain := by
  rw [Template.used, Template.code, Template.tokens, loaderTemplate, Template.toList_ofLines]
  simp only [List.flatMap_cons, List.flatMap_nil]
  repeat rw [String.toList_ofList]
  decide +kernel

theorem used_bridge :
    bridgeTemplate.used = [.slot "bridge".toList, .slot "get_identity".toList,
        .slot "set_identity".toList, .word "pcall".toList, .slot "host_loader".toList,
        .word "error".toList, .word "tostring".toList] ∧
      ∀ token ∈ bridgeTemplate.tokens, token.IsPlain := by
  rw [Template.used, Template.code, Template.tokens, bridgeTemplate, Template.toList_ofLines]
  simp only [List.flatMap_cons, List.flatMap_nil]
  repeat rw [String.toList_ofList]
  decide +kernel

namespace Settings

variable (settings : Settings)

theorem declares_eq : settings.declares =
    "__modules" :: settings.loaderName ::
      if settings.bridge.enabled then [settings.bridge.name] else [] := by
  unfold declares declarations
  cases settings.bridge.enabled <;>
    simp [declared_prelude.1, declared_bridgeDeclaration.1, Snippet.name, Token.charsIn,
      Token.chars]

theorem needs_eq : settings.needs =
    ["error", "tostring", "pcall"] ++
      if settings.bridge.enabled then
        [settings.bridge.getIdentity, settings.bridge.setIdentity, "pcall", settings.bridge.loader,
          "error", "tostring"]
      else [] := by
  unfold needs ownVariables runtime declarations
  cases settings.bridge.enabled <;>
    simp [declared_prelude.1, declared_bridgeDeclaration.1, used_loader.1, used_bridge.1,
      Snippet.name, Token.charsIn, Token.chars]

theorem mem_needs_iff (name : String) : name ∈ settings.needs ↔
    name ∈ ["pcall", "error", "tostring"] ∨
      settings.bridge.enabled = true ∧
        name ∈ [settings.bridge.loader, settings.bridge.getIdentity,
          settings.bridge.setIdentity] := by
  rw [needs_eq]
  grind

variable {settings}

theorem nodup_declares (named : settings.WellNamed) : settings.declares.Nodup := by
  have loader : settings.loaderName ≠ "__modules" := by
    simpa [reservedNames] using named.loaderFree
  rw [declares_eq]
  cases enabled : settings.bridge.enabled with
  | false => simpa using loader.symm
  | true =>
      have bridge : settings.bridge.name ≠ "__modules" := by
        simpa [reservedNames] using named.bridgeFree enabled
      have apart := named.apart enabled
      simpa using ⟨⟨loader.symm, bridge.symm⟩, apart.symm⟩

theorem captured_iff (settings : Settings) :
    (∃ name ∈ settings.declares, name ∈ settings.needs) ↔
      settings.loaderName ∈ ["pcall", "error", "tostring"] ∨
        settings.bridge.enabled = true ∧
          (settings.bridge.name ∈ ["pcall", "error", "tostring"] ∨
            ∃ name ∈ [settings.bridge.loader, settings.bridge.getIdentity,
              settings.bridge.setIdentity],
              name ∈ ["__modules", settings.loaderName, settings.bridge.name]) := by
  simp only [mem_needs_iff, declares_eq]
  grind

end Settings

/-! ## The bundle that is written -/

theorem Lua.brace_not_mem_of_isIdentifier {name : String} (isName : isIdentifier name = true) :
    '\x7b' ∉ name.toList := by
  have spelled : isNameSpelling name.toList = true := (Bool.and_eq_true_iff.1 isName).2
  generalize name.toList = chars at spelled
  cases chars with
  | nil => simp
  | cons first rest =>
      obtain ⟨start, each⟩ := Bool.and_eq_true_iff.1 spelled
      rw [List.all_eq_true] at each
      rintro (_ | mem)
      · exact absurd start (by decide)
      · exact absurd (each _ ‹_›) (by decide)

theorem brace_not_mem_toString (n : Nat) : '\x7b' ∉ (toString n).toList := by
  intro mem
  have mem : '\x7b' ∈ Nat.toDigits 10 n := by simpa [Nat.repr] using mem
  exact absurd (Nat.isDigit_of_mem_toDigits (by decide) (by decide) mem) (by decide)

theorem bridgeDeclaration_eq {name : String} (braceless : '\x7b' ∉ name.toList) :
    Artifact.bridgeDeclaration name =
      Snippet.text ⟨Settings.bridgeDeclarationTemplate, [("bridge", name)]⟩ := by
  have tokens : Settings.bridgeDeclarationTemplate.tokens =
      [.word "local".toList, .mark ' ', .slot "bridge".toList, .mark '\n'] := by
    rw [Template.tokens, Settings.bridgeDeclarationTemplate, Template.toList_ofLines]
    decide +kernel
  have filled : (Settings.bridgeDeclarationTemplate.fill [("bridge", name)]).toList = _ :=
    Template.toList_fill declared_bridgeDeclaration.2 (by simp) (by simpa using braceless)
  rw [← String.toList_inj, Snippet.text, filled, tokens]
  simp [Artifact.bridgeDeclaration, Token.charsIn, Token.chars]

namespace Settings

variable {settings checked : Settings}

/-- Each part is the code of its template, with names in place of the slots. -/
theorem toList_text (named : settings.WellNamed)
    (braceless : ∀ name ∈ [settings.bridge.loader, settings.bridge.getIdentity,
      settings.bridge.setIdentity], '\x7b' ∉ name.toList) :
    ∀ snippet ∈ settings.declarations ++ settings.runtime,
      snippet.text.toList = snippet.template.tokens.flatMap (Token.charsIn snippet.values) := by
  have loader := Lua.brace_not_mem_of_isIdentifier named.loader
  have bridge := fun enabled => Lua.brace_not_mem_of_isIdentifier (named.bridge enabled)
  intro snippet mem
  simp only [declarations, runtime, List.mem_append, List.mem_cons] at mem
  rcases mem with (rfl | mem) | (rfl | mem)
  · exact Template.toList_fill declared_prelude.2 (by simp) (by simpa using loader)
  · split at mem
    · next enabled =>
        obtain rfl := List.mem_singleton.1 mem
        exact Template.toList_fill declared_bridgeDeclaration.2 (by simp)
          (by simpa using bridge enabled)
    · cases mem
  · exact Template.toList_fill used_loader.2 (by simp) (by simpa using loader)
  · split at mem
    · next enabled =>
        obtain rfl := List.mem_singleton.1 mem
        have number := brace_not_mem_toString settings.bridge.identity.toNat
        refine Template.toList_fill used_bridge.2 (by simp) ?_
        simp only [List.forall_mem_cons, List.not_mem_nil, false_imp_iff, implies_true,
          and_true] at braceless ⊢
        exact ⟨bridge enabled, braceless.1, braceless.2.1, braceless.2.2, number⟩
    · cases mem

theorem render_eq_snippets (named : settings.WellNamed) (made : Instant) (graph : ModuleGraph) :
    Artifact.render settings made graph =
      (if settings.header then Artifact.header made else "") ++
        String.join (settings.declarations.map Snippet.text) ++ "\n" ++
        String.join (graph.modules.modules.map Artifact.thunk) ++
        String.join (settings.runtime.map fun snippet => snippet.text ++ "\n") ++
        Artifact.entry graph.entry := by
  have head : Snippet.text ⟨preludeTemplate, [("loader", settings.loaderName)]⟩ =
    Artifact.prelude settings.loaderName := rfl
  have loader : Snippet.text ⟨loaderTemplate, [("loader", settings.loaderName)]⟩ =
    Artifact.loader settings.loaderName := rfl
  unfold Artifact.render declarations runtime
  cases enabled : settings.bridge.enabled with
  | false =>
      simp only [Bool.false_eq_true, if_false, List.map_cons, List.map_nil, String.join_cons,
        String.join_nil, head, loader, String.append_assoc, String.append_empty]
  | true =>
      have braceless := Lua.brace_not_mem_of_isIdentifier (named.bridge enabled)
      simp only [if_true, List.map_cons, List.map_nil, String.join_cons, String.join_nil, head,
        loader, bridgeDeclaration_eq braceless, String.append_assoc, String.append_empty]
      rfl

/-- With accepted settings, a bundle is its declarations, its modules, its runtime and its entry,
and the names it declares are all different. They can still be names that the runtime needs from the
host: just if the loader or the bridge is called like a function of the language that the runtime
calls, or if one of the functions that the bridge wraps is called like something the bundle
declares. -/
theorem check_captures_iff (accepted : settings.check = .ok checked) :
    (∀ made graph, Artifact.render checked made graph =
      (if checked.header then Artifact.header made else "") ++
        String.join (checked.declarations.map Snippet.text) ++ "\n" ++
        String.join (graph.modules.modules.map Artifact.thunk) ++
        String.join (checked.runtime.map fun snippet => snippet.text ++ "\n") ++
        Artifact.entry graph.entry) ∧
    ((∀ name ∈ [checked.bridge.loader, checked.bridge.getIdentity, checked.bridge.setIdentity],
        '\x7b' ∉ name.toList) →
      ∀ snippet ∈ checked.declarations ++ checked.runtime,
        snippet.text.toList = snippet.template.tokens.flatMap (Token.charsIn snippet.values)) ∧
    checked.declares = "__modules" :: checked.loaderName ::
      (if checked.bridge.enabled then [checked.bridge.name] else []) ∧
    (∀ name, name ∈ checked.needs ↔ name ∈ ["pcall", "error", "tostring"] ∨
      checked.bridge.enabled = true ∧
        name ∈ [checked.bridge.loader, checked.bridge.getIdentity, checked.bridge.setIdentity]) ∧
    checked.declares.Nodup ∧
    ((∃ name ∈ checked.declares, name ∈ checked.needs) ↔
      checked.loaderName ∈ ["pcall", "error", "tostring"] ∨
        checked.bridge.enabled = true ∧
          (checked.bridge.name ∈ ["pcall", "error", "tostring"] ∨
            ∃ name ∈ [checked.bridge.loader, checked.bridge.getIdentity,
              checked.bridge.setIdentity],
              name ∈ ["__modules", checked.loaderName, checked.bridge.name])) := by
  obtain ⟨-, -, named⟩ := check_eq_ok.1 accepted
  exact ⟨render_eq_snippets named, toList_text named, declares_eq checked, mem_needs_iff checked,
    nodup_declares named, captured_iff checked⟩

theorem check_captures_iff_default :
    ({} : Settings).check = .ok {} ∧ ({} : Settings).declares.Nodup ∧
      ¬ ∃ name ∈ ({} : Settings).declares, name ∈ ({} : Settings).needs := by
  have accepted : ({} : Settings).check = .ok {} :=
    check_eq_self (by decide +kernel) (by simp) (by decide +kernel)
  obtain ⟨-, -, -, -, apart, captured⟩ := check_captures_iff accepted
  refine ⟨accepted, apart, ?_⟩
  rw [captured]
  decide

/-- Settings are accepted under which the loader calls itself in place of `pcall`, and others under
which the bridge wraps the bundle's own loader. -/
theorem check_accepts_captures :
    (∃ checked, ({ loaderName := "pcall" } : Settings).check = .ok checked ∧
      "pcall" ∈ checked.declares ∧ "pcall" ∈ checked.needs) ∧
    ∃ checked, ({ loaderName := "require" } : Settings).check = .ok checked ∧
      checked.bridge.enabled = true ∧ checked.bridge.loader = checked.loaderName ∧
      checked.bridge.loader ∈ checked.declares ∧ checked.bridge.loader ∈ checked.needs := by
  have usual : dottedAll [".luau", ".lua"] = [".luau", ".lua"] := by decide +kernel
  constructor
  · refine ⟨_, check_eq_self usual (by simp) (by decide +kernel), ?_, ?_⟩
    · rw [declares_eq]
      simp
    · rw [mem_needs_iff]
      simp
  · refine ⟨_, check_eq_self usual (by simp) (by decide +kernel), rfl, rfl, ?_, ?_⟩
    · rw [declares_eq]
      simp
    · rw [mem_needs_iff]
      simp

end Settings

end LuaBundle
