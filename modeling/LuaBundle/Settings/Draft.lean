import LuaBundle.Settings

/-! # Settings as far as a file gives them

A settings file gives any of the settings, each at most once. What it leaves out takes its default.
-/

namespace LuaBundle

/-- The bridge's settings as far as they are given. -/
structure BridgeDraft where
  enabled : Option Bool := none
  name : Option String := none
  loader : Option String := none
  getIdentity : Option String := none
  setIdentity : Option String := none
  identity : Option UInt32 := none

/-- The settings with defaults for what is not given. -/
def BridgeDraft.complete (draft : BridgeDraft) : BridgeSettings :=
  let default : BridgeSettings := {}
  { enabled := draft.enabled.getD default.enabled
    name := draft.name.getD default.name
    loader := draft.loader.getD default.loader
    getIdentity := draft.getIdentity.getD default.getIdentity
    setIdentity := draft.setIdentity.getD default.setIdentity
    identity := draft.identity.getD default.identity }

/-- Settings as far as they are given. -/
structure SettingsDraft where
  extensions : Option (List String) := none
  importFunction : Option String := none
  loaderName : Option String := none
  header : Option Bool := none
  typeWarnings : Option Bool := none
  bridge : Option BridgeSettings := none
  pretty : Option Bool := none

/-- The settings with defaults for what is not given. -/
def SettingsDraft.complete (draft : SettingsDraft) : Settings :=
  let default : Settings := {}
  { extensions := draft.extensions.getD default.extensions
    importFunction := draft.importFunction.getD default.importFunction
    loaderName := draft.loaderName.getD default.loaderName
    header := draft.header.getD default.header
    typeWarnings := draft.typeWarnings.getD default.typeWarnings
    bridge := draft.bridge.getD default.bridge
    pretty := draft.pretty.getD default.pretty }

end LuaBundle
