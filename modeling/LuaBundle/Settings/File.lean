import LuaBundle.Disk
import LuaBundle.Settings.Json
import LuaBundle.Settings.Yaml
import LuaBundle.Trace

/-! # Settings files

A settings file is JSON if its extension says so and YAML otherwise. A project keeps it in its base
directory under one of three names. What is wrong with a file is told in full for JSON; for YAML it is
only told that something is.
-/

namespace LuaBundle.Settings

/-- The names that a settings file is looked for under, in this order. -/
def fileNames : List String :=
  ["luapack.yaml", "luapack.yml", "luapack.json"]

/-- The settings that the text of a file gives, before they are checked. -/
def ofFileText (path : Path) (text : String) : Except SettingsFault Settings :=
  if path.extension? = some "json".toList then
    match ofJson text with
    | .ok settings => .ok settings
    | .error fault => .error (.malformed path (fault.message text))
  else
    match ofYaml? text with
    | some settings => .ok settings
    | none => .error (.malformedYaml path)

/-- Read a settings file. -/
def load (disk : Disk) (working : Place) (path : Path) : Except BuildError Settings :=
  match disk.read working path with
  | .error fault => .error (.file path fault)
  | .ok text =>
    match (ofFileText path text).bind check with
    | .error fault => .error (.settings fault)
    | .ok settings => .ok settings

/-- The settings file of a directory. -/
def discover (disk : Disk) (working : Place) (directory : Path) : Option Path :=
  (fileNames.map fun name => directory.join ⟨name⟩).find? (disk.isFile working)

/-- Write a settings file that holds the defaults. -/
def writeDefaults (disk : Disk) (working : Place) (path : Path) : Except BuildError Disk :=
  match disk.overwrite working path defaultYaml with
  | .error fault => .error (.file path fault)
  | .ok disk => .ok disk

end LuaBundle.Settings
