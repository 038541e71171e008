import LuaBundle.Program
import LuaBundle.Proofs.CheckedSettings
import LuaBundle.Proofs.Trimming

/-! # Settings that are checked twice

A run checks the settings of a file, lets the command line have its way, and checks what comes of
it. The first check leaves nothing to mend: what it accepts is `Usable`, and usable settings are
just those that a check hands back as they are. A check only looks at the usual form of the
extensions, so the second check cannot tell whether there was a first.
-/

namespace LuaBundle

namespace Text

theorem isAlpha_iff (c : Char) :
    c.isAlpha = true ↔ ('A' ≤ c ∧ c ≤ 'Z') ∨ ('a' ≤ c ∧ c ≤ 'z') := by
  have upper : c.isUpper = true ↔ 'A' ≤ c ∧ c ≤ 'Z' := decide_eq_true_iff
  have lower : c.isLower = true ↔ 'a' ≤ c ∧ c ≤ 'z' :=
    Bool.and_eq_true_iff.trans (and_congr decide_eq_true_iff decide_eq_true_iff)
  rw [← upper, ← lower]
  exact Bool.or_eq_true_iff

theorem isAlphanum_iff (c : Char) :
    c.isAlphanum = true ↔ c.isAlpha = true ∨ ('0' ≤ c ∧ c ≤ '9') := by
  have digit : c.isDigit = true ↔ '0' ≤ c ∧ c ≤ '9' :=
    Bool.and_eq_true_iff.trans (and_congr decide_eq_true_iff decide_eq_true_iff)
  rw [← digit]
  exact Bool.or_eq_true_iff

theorem isNameStart_iff (c : Char) : isNameStart c = true ↔ c.isAlpha = true ∨ c = '_' := by
  simp only [isNameStart, isAlpha_iff, Bool.or_eq_true, Bool.and_eq_true, decide_eq_true_eq,
    beq_iff_eq]
  tauto

theorem isNameChar_iff (c : Char) : isNameChar c = true ↔ c.isAlphanum = true ∨ c = '_' := by
  simp only [isNameChar, isAsciiAlphanumeric, isAlphanum_iff, isAlpha_iff, Bool.or_eq_true,
    Bool.and_eq_true, decide_eq_true_eq, beq_iff_eq]
  tauto

end Text

namespace Lua

/-- A letter or underscore, then letters, digits and underscores, and no word of the language. -/
def IsName (name : String) : Prop :=
  name ∉ keywords ∧ ∃ first rest, name.toList = first :: rest ∧
    (first.isAlpha = true ∨ first = '_') ∧ ∀ c ∈ rest, c.isAlphanum = true ∨ c = '_'

theorem isIdentifier_iff (name : String) : isIdentifier name = true ↔ IsName name := by
  rw [isIdentifier, IsName, Bool.and_eq_true]
  apply and_congr
  · simp
  · cases name.toList with
    | nil => simp [isNameSpelling]
    | cons first rest =>
        simp [isNameSpelling, List.all_eq_true, Text.isNameStart_iff, Text.isNameChar_iff]

end Lua

namespace Settings

variable {settings checked : Settings} {extension : String} {extensions : List String}

/-- The usual form of an extension: a dot and something behind it, without blanks at the ends. -/
structure IsExtension (extension : String) : Prop where
  dot : extension.toList.head? = some '.'
  long : 1 < Text.byteLength extension.toList
  tight : Text.Tight extension.toList

theorem head?_dotted (extension : String) : (dotted extension).toList.head? = some '.' := by
  unfold dotted
  split <;> simp

theorem tight_dotted (extension : String) : Text.Tight (dotted extension).toList := by
  have tight := Text.tight_trim extension.toList
  unfold dotted
  split
  · next rest trimmed =>
      rw [trimmed] at tight
      simpa using tight
  · next chars _ =>
      obtain ⟨-, back⟩ := tight
      simp only [String.toList_ofList]
      constructor
      · simp [Text.isBlank]
      · intro c last
        -- Only if nothing is left does the dot stand at the end.
        cases ending : (Text.trim extension.toList).getLast? with
        | none =>
            simp only [List.getLast?_cons, ending, Option.mem_def] at last
            cases last
            rfl
        | some final =>
            simp only [List.getLast?_cons, ending, Option.mem_def] at last
            cases last
            exact back final ending

theorem isExtension_of_mem_dottedAll (mem : extension ∈ dottedAll extensions) :
    IsExtension extension := by
  simp only [dottedAll, List.mem_filter, List.mem_map, bne_iff_ne] at mem
  obtain ⟨⟨given, -, rfl⟩, more⟩ := mem
  refine ⟨head?_dotted given, ?_, tight_dotted given⟩
  obtain ⟨rest, spelled⟩ := List.head?_eq_some_iff.1 (head?_dotted given)
  cases rest with
  | nil => exact absurd (String.toList_inj.1 spelled) more
  | cons c rest =>
      have dot := Char.utf8Size_pos '.'
      have next := c.utf8Size_pos
      rw [spelled, Text.byteLength, Text.byteLength]
      omega

theorem IsExtension.dotted (usual : IsExtension extension) : dotted extension = extension := by
  obtain ⟨rest, spelled⟩ := List.head?_eq_some_iff.1 usual.dot
  rw [Settings.dotted, Text.trim_eq_self usual.tight, spelled]
  exact String.toList_inj.1 (by simp [spelled])

theorem IsExtension.ne_dot (usual : IsExtension extension) : extension ≠ "." := by
  rintro rfl
  exact absurd usual.long (by decide)

/-- Extensions in their usual form stay as they are. -/
theorem dottedAll_eq_self (each : ∀ extension ∈ extensions, IsExtension extension) :
    dottedAll extensions = extensions := by
  have same : extensions.map dotted = extensions := by
    conv_rhs => rw [← List.map_id extensions]
    exact List.map_congr_left fun extension mem => (each extension mem).dotted
  rw [dottedAll, same, List.filter_eq_self]
  intro extension mem
  simpa using (each extension mem).ne_dot

theorem dottedAll_dottedAll (extensions : List String) :
    dottedAll (dottedAll extensions) = dottedAll extensions :=
  dottedAll_eq_self fun _ mem => isExtension_of_mem_dottedAll mem

/-- Settings that a bundle can be written with. -/
structure Usable (settings : Settings) : Prop where
  some : settings.extensions ≠ []
  dotted : ∀ extension ∈ settings.extensions, IsExtension extension
  importFunction : Lua.IsName settings.importFunction
  loader : Lua.IsName settings.loaderName
  loaderFree : settings.loaderName ≠ "__modules"
  bridge : settings.bridge.enabled = true → Lua.IsName settings.bridge.name ∧
    settings.bridge.name ≠ "__modules" ∧ settings.bridge.name ≠ settings.loaderName

theorem usable_iff : settings.Usable ↔ settings.extensions ≠ [] ∧
    (∀ extension ∈ settings.extensions, IsExtension extension) ∧ settings.WellNamed := by
  simp only [wellNamed_iff, Lua.isIdentifier_iff, reservedNames, List.mem_singleton]
  constructor
  · rintro ⟨some, dotted, importFunction, loader, loaderFree, bridge⟩
    exact ⟨some, dotted, importFunction, loader, loaderFree, bridge⟩
  · rintro ⟨some, dotted, importFunction, loader, loaderFree, bridge⟩
    exact ⟨some, dotted, importFunction, loader, loaderFree, bridge⟩

theorem usable_of_check (accepted : settings.check = .ok checked) : checked.Usable := by
  obtain ⟨same, some, named⟩ := check_eq_ok.1 accepted
  refine usable_iff.2 ⟨some, ?_, named⟩
  rw [same]
  intro extension mem
  exact isExtension_of_mem_dottedAll mem

theorem Usable.check (usable : settings.Usable) : settings.check = .ok settings := by
  obtain ⟨some, each, named⟩ := usable_iff.1 usable
  exact check_eq_self (dottedAll_eq_self each) some named

theorem check_dotted (settings : Settings) :
    { settings with extensions := dottedAll settings.extensions }.check = settings.check := by
  unfold check
  simp only [dottedAll_dottedAll]

/-- Overriding checked settings and checking again comes to the same as never having checked. -/
theorem check_override (accepted : settings.check = .ok checked) (overrides : SettingsOverrides) :
    (checked.override overrides).check = (settings.override overrides).check := by
  obtain ⟨rfl, -⟩ := check_eq_ok.1 accepted
  cases given : overrides.extensions with
  | some extensions =>
      -- The extensions of the file are not looked at.
      simp only [override, given, Option.getD_some]
  | none =>
      rw [← check_dotted (settings.override overrides)]
      simp only [override, given, Option.getD_none]

end Settings

/-- The settings of a run, read off one check: a file that is refused on its own ends the run, and
any other is as good as unchecked. -/
theorem Arguments.settings_of_file {arguments : Arguments} {scene : Scene} {disk : Disk}
    {path : Path} {text : String} {given : Settings}
    (found : arguments.settingsPath? scene disk = some path)
    (read : disk.read scene.working path = .ok text)
    (parsed : Settings.ofFileText path text = .ok given) :
    arguments.settings scene disk =
      match given.check with
      | .error fault => .error (.settings fault)
      | .ok _ => ((given.override arguments.overrides).check).mapError .settings := by
  simp only [Arguments.settings, found, Settings.load, read, parsed, Except.bind]
  cases first : given.check with
  | error fault => rfl
  | ok checked =>
      simp only [Settings.check_override first]
      cases (given.override arguments.overrides).check <;> rfl

namespace Settings

/-- What a check accepts can be used, is the given settings but for the extensions, passes a check
unchanged, and is as good as the given settings when the command line has its way with them. So a
run whose settings file passes on its own has the settings, or the complaint, that one check of the
overridden file gives. -/
theorem check_settles (settings : Settings) :
    (∀ checked, settings.check = .ok checked →
      checked.Usable ∧ { checked with extensions := settings.extensions } = settings ∧
      checked.check = .ok checked ∧
      ∀ overrides, (checked.override overrides).check = (settings.override overrides).check) ∧
    ∀ (arguments : Arguments) (scene : Scene) (disk : Disk) (path : Path) (text : String),
      arguments.settingsPath? scene disk = some path → disk.read scene.working path = .ok text →
      ofFileText path text = .ok settings →
      arguments.settings scene disk =
        match settings.check with
        | .error fault => .error (.settings fault)
        | .ok _ => ((settings.override arguments.overrides).check).mapError .settings := by
  constructor
  · intro checked accepted
    have usable := usable_of_check accepted
    refine ⟨usable, ?_, usable.check, check_override accepted⟩
    obtain ⟨rfl, -⟩ := check_eq_ok.1 accepted
    rfl
  · intro arguments scene disk path text found read parsed
    exact Arguments.settings_of_file found read parsed

theorem check_settles_blank_extension :
    ∃ (settings checked : Settings) (arguments : Arguments) (scene : Scene) (disk : Disk),
      settings = { extensions := [" lua", "."], bridge := { name := "end", enabled := false } } ∧
      arguments = { base := ⟨"/"⟩, entry := ⟨"m"⟩, output := ⟨"o"⟩, noHeader := true } ∧
      settings.check = .ok checked ∧ checked.extensions = [".lua"] ∧ checked.Usable ∧
      checked.check = .ok checked ∧
      (checked.override { bridge := some true }).check = .error (.notIdentifier .bridgeName "end") ∧
      arguments.settings scene disk = .ok { checked with header := false } := by
  let given : Settings :=
    { extensions := [" lua", "."], bridge := { name := "end", enabled := false } }
  let text : String :=
    "\x7b\"extensions\":[\" lua\",\".\"],\"bridge\":\x7b\"name\":\"end\",\"enabled\":false\x7d\x7d"
  let arguments : Arguments :=
    { base := ⟨"/"⟩, entry := ⟨"m"⟩, output := ⟨"o"⟩, noHeader := true }
  let scene : Scene := ⟨[], ⟨⟨1970, 1, 1⟩, 0, 0, 0⟩⟩
  let disk : Disk := ⟨[(["luapack.json".toList], .file text.toUTF8)]⟩
  have accepted : given.check = .ok { given with extensions := [".lua"] } := by decide +kernel
  obtain ⟨settles, ofFile⟩ := check_settles given
  obtain ⟨usable, -, again, overridden⟩ := settles _ accepted
  refine ⟨given, _, arguments, scene, disk, rfl, rfl, accepted, rfl, usable, again, ?_, ?_⟩
  · rw [overridden]
    decide +kernel
  · rw [ofFile arguments scene disk ⟨"/luapack.json"⟩ text (by decide +kernel) (by decide +kernel)
      (by decide +kernel), accepted]
    decide +kernel

end Settings

end LuaBundle
