import LuaBundle.Lua.Identifier
import LuaBundle.Path

/-! # Settings of a build

Settings come from a file, from the command line, or from the defaults below. `Settings.check`
brings extensions into their usual form and refuses settings that no bundle can be written with.
-/

namespace LuaBundle

/-- The bridge to modules that live outside the bundle. -/
structure BridgeSettings where
  /-- Whether a bundle has a bridge. -/
  enabled : Bool := true
  /-- The name the bridge is bound to. -/
  name : String := "game_require"
  /-- The host's own loader, which the bridge wraps. -/
  loader : String := "require"
  /-- The host's function that tells the thread's identity. -/
  getIdentity : String := "getthreadidentity"
  /-- The host's function that changes the thread's identity. -/
  setIdentity : String := "setthreadidentity"
  /-- The identity held while the host's loader runs. -/
  identity : UInt32 := 2
  deriving Repr, DecidableEq

/-- The settings of a build. -/
structure Settings where
  /-- The extensions tried, in this order, for a path written without one. -/
  extensions : List String := [".luau", ".lua"]
  /-- The function whose calls are imports. -/
  importFunction : String := "import"
  /-- The function that linked imports call. -/
  loaderName : String := "import"
  /-- Whether a bundle begins with the tool and the time it was made. -/
  header : Bool := true
  /-- Whether type declarations are warned about. -/
  typeWarnings : Bool := true
  bridge : BridgeSettings := {}
  /-- Whether diagnostics are styled. -/
  pretty : Bool := true
  deriving Repr, DecidableEq

/-- A setting that names something in the bundle. -/
inductive NameSetting where
  | importFunction
  | loaderName
  | bridgeName
  deriving Repr, DecidableEq

/-- How a setting is called in a settings file. -/
def NameSetting.key : NameSetting → String
  | .importFunction => "importFunction"
  | .loaderName => "loaderName"
  | .bridgeName => "bridge.name"

/-- Why settings are refused. -/
inductive SettingsFault where
  /-- No extension is left. -/
  | noExtension
  /-- A name that is not one. -/
  | notIdentifier (setting : NameSetting) (value : String)
  /-- A name that every bundle binds itself. -/
  | reserved (setting : NameSetting) (value : String)
  /-- The bridge and the loader have one name. -/
  | sameName (value : String)
  /-- A settings file that cannot be understood, and what is wrong with it. -/
  | malformed (path : Path) (complaint : String)
  /-- A settings file in YAML that cannot be understood. What is wrong with it is left open. -/
  | malformedYaml (path : Path)
  deriving Repr, DecidableEq

/-- The wording of a refusal. -/
def SettingsFault.message : SettingsFault → String
  | .noExtension => "at least one module extension is required"
  | .notIdentifier setting value =>
    setting.key ++ " must be a Lua identifier, got '" ++ value ++ "'"
  | .reserved setting value =>
    setting.key ++ " '" ++ value ++ "' is reserved by the bundle runtime"
  | .sameName value => "bridge.name and loaderName must differ, both are '" ++ value ++ "'"
  | .malformed path complaint => path.text ++ ": " ++ complaint
  | .malformedYaml path => path.text ++ ": no valid settings in YAML"

/-- Settings given on the command line, each of which wins over a file's. -/
structure SettingsOverrides where
  extensions : Option (List String) := none
  header : Option Bool := none
  typeWarnings : Option Bool := none
  bridge : Option Bool := none
  pretty : Option Bool := none
  deriving Repr, DecidableEq

namespace Settings

/-- The names that every bundle binds itself. -/
def reservedNames : List String :=
  ["__modules"]

/-- An extension without blanks around it and with its dot. -/
def dotted (extension : String) : String :=
  match Text.trim extension.toList with
  | '.' :: rest => String.ofList ('.' :: rest)
  | chars => String.ofList ('.' :: chars)

/-- The usual form of a list of extensions; a dot alone is none. -/
def dottedAll (extensions : List String) : List String :=
  (extensions.map dotted).filter (· != ".")

/-- Refuse a name that is not one. -/
def checkIdentifier (setting : NameSetting) (value : String) : Except SettingsFault Unit :=
  if Lua.isIdentifier value then .ok () else .error (.notIdentifier setting value)

/-- Refuse a name that every bundle binds itself. -/
def checkFree (setting : NameSetting) (value : String) : Except SettingsFault Unit :=
  if reservedNames.contains value then .error (.reserved setting value) else .ok ()

/-- Refuse a bridge whose name cannot be bound next to the loader's. -/
def checkBridge (settings : Settings) : Except SettingsFault Unit := do
  checkIdentifier .bridgeName settings.bridge.name
  checkFree .bridgeName settings.bridge.name
  if settings.bridge.name = settings.loaderName then
    .error (.sameName settings.loaderName)

/-- Bring the extensions into their usual form and refuse what no bundle can be written with. -/
def check (settings : Settings) : Except SettingsFault Settings := do
  let settings := { settings with extensions := dottedAll settings.extensions }
  if settings.extensions = [] then
    throw .noExtension
  checkIdentifier .importFunction settings.importFunction
  checkIdentifier .loaderName settings.loaderName
  checkFree .loaderName settings.loaderName
  if settings.bridge.enabled then
    settings.checkBridge
  return settings

/-- Let the command line have its way. -/
def override (settings : Settings) (overrides : SettingsOverrides) : Settings :=
  { settings with
    extensions := overrides.extensions.getD settings.extensions
    header := overrides.header.getD settings.header
    typeWarnings := overrides.typeWarnings.getD settings.typeWarnings
    bridge := { settings.bridge with
      enabled := overrides.bridge.getD settings.bridge.enabled }
    pretty := overrides.pretty.getD settings.pretty }

end Settings

end LuaBundle
