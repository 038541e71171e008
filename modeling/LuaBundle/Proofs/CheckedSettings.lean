import LuaBundle.Settings

/-! # Checked settings

Settings are accepted exactly if an extension is left and the names can be bound; nothing but the
extensions changes.
-/

namespace LuaBundle.Settings

variable {settings checked : Settings}

/-- The names that a bundle binds or looks for are identifiers. The ones it binds are not reserved,
and the bridge does not take the loader's. -/
structure WellNamed (settings : Settings) : Prop where
  importFunction : Lua.isIdentifier settings.importFunction = true
  loader : Lua.isIdentifier settings.loaderName = true
  loaderFree : settings.loaderName ∉ reservedNames
  bridge : settings.bridge.enabled = true → Lua.isIdentifier settings.bridge.name = true
  bridgeFree : settings.bridge.enabled = true → settings.bridge.name ∉ reservedNames
  apart : settings.bridge.enabled = true → settings.bridge.name ≠ settings.loaderName

theorem bind_eq_ok {ε α β : Type} {result : Except ε α} {next : α → Except ε β} {value : β} :
    (result >>= next) = .ok value ↔ ∃ first, result = .ok first ∧ next first = .ok value := by
  cases result <;> simp [bind, Except.bind]

theorem checkIdentifier_eq_ok {setting : NameSetting} {value : String} {nothing : Unit} :
    checkIdentifier setting value = .ok nothing ↔ Lua.isIdentifier value = true := by
  unfold checkIdentifier
  split <;> simp_all

theorem checkFree_eq_ok {setting : NameSetting} {value : String} {nothing : Unit} :
    checkFree setting value = .ok nothing ↔ value ∉ reservedNames := by
  unfold checkFree
  split <;> simp_all

theorem checkBridge_eq_ok {nothing : Unit} : settings.checkBridge = .ok nothing ↔
    Lua.isIdentifier settings.bridge.name = true ∧ settings.bridge.name ∉ reservedNames ∧
      settings.bridge.name ≠ settings.loaderName := by
  simp only [checkBridge, bind_eq_ok, checkIdentifier_eq_ok, checkFree_eq_ok, exists_const]
  split <;> simp_all [pure, Except.pure]

theorem wellNamed_iff : settings.WellNamed ↔
    Lua.isIdentifier settings.importFunction = true ∧ Lua.isIdentifier settings.loaderName = true ∧
      settings.loaderName ∉ reservedNames ∧
      (settings.bridge.enabled = true → Lua.isIdentifier settings.bridge.name = true ∧
        settings.bridge.name ∉ reservedNames ∧ settings.bridge.name ≠ settings.loaderName) := by
  constructor
  · intro named
    exact ⟨named.importFunction, named.loader, named.loaderFree, fun enabled =>
      ⟨named.bridge enabled, named.bridgeFree enabled, named.apart enabled⟩⟩
  · rintro ⟨importFunction, loader, loaderFree, bridge⟩
    exact ⟨importFunction, loader, loaderFree, fun enabled => (bridge enabled).1,
      fun enabled => (bridge enabled).2.1, fun enabled => (bridge enabled).2.2⟩

instance : Decidable settings.WellNamed :=
  decidable_of_iff _ wellNamed_iff.symm

/-- Settings are accepted exactly if an extension is left and the names can be bound. -/
theorem check_eq_ok : settings.check = .ok checked ↔
    checked = { settings with extensions := dottedAll settings.extensions } ∧
      checked.extensions ≠ [] ∧ checked.WellNamed := by
  unfold check
  generalize { settings with extensions := dottedAll settings.extensions } = dotted
  by_cases none : dotted.extensions = []
  · rw [if_pos none]
    constructor
    · intro failed
      cases failed
    · rintro ⟨rfl, some, -⟩
      exact absurd none some
  · have bridged : (if dotted.bridge.enabled = true then do dotted.checkBridge; pure dotted
          else pure dotted) = Except.ok checked ↔
        checked = dotted ∧ (dotted.bridge.enabled = true → ∃ nothing,
          dotted.checkBridge = .ok nothing) := by
      cases dotted.bridge.enabled <;>
        simp [bind_eq_ok, pure, Except.pure, eq_comm (a := checked), and_comm]
    rw [if_neg none, wellNamed_iff]
    simp only [bind_eq_ok, checkIdentifier_eq_ok, checkFree_eq_ok, exists_const, bridged,
      checkBridge_eq_ok]
    constructor
    · rintro ⟨importFunction, loader, loaderFree, rfl, bridge⟩
      exact ⟨rfl, none, importFunction, loader, loaderFree, bridge⟩
    · rintro ⟨rfl, -, importFunction, loader, loaderFree, bridge⟩
      exact ⟨importFunction, loader, loaderFree, rfl, bridge⟩

theorem check_eq_self (usual : dottedAll settings.extensions = settings.extensions)
    (some : settings.extensions ≠ []) (named : settings.WellNamed) :
    settings.check = .ok settings := by
  refine check_eq_ok.2 ⟨?_, some, named⟩
  rw [usual]

end LuaBundle.Settings
