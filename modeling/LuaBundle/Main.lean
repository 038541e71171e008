import LuaBundle.Program
import Std.Time.DateTime.Timestamp

/-! # The executable

A run is a function of a disk, and it asks for few places of it. So the real disk is shown to it bit
by bit: run, see which places were asked for, look those up, and run again until nothing new is
asked for. Only then is anything printed or written.
-/

namespace LuaBundle.Shell

/-- What is known of the real disk. -/
structure Known where
  disk : Disk := {}
  /-- The places that were looked up. -/
  places : List Place := []

/-- The path of a place. -/
def pathOf (place : Place) : String :=
  (Path.ofLocation (Disk.locationOf place)).text

/-- The places on the way along an absolute path. -/
def placesAlong (path : Path) : List Place :=
  let step (places : List Place) (piece : List Char) : List Place :=
    let place := places.headD []
    if piece = [] ∨ piece = ['.'] then places
    else if piece = ['.', '.'] then place.dropLast :: places
    else (place ++ [piece]) :: places
  ((Text.split '/' path.text.toList).foldl step []).reverse

/-- What stands at a place of the real disk. -/
def lookUp (place : Place) : IO (Option DiskNode) := do
  let path := (← IO.currentDir) / pathOf place
  if ← path.isDir then return some .directory
  else if ← path.pathExists then
    try return some (.file (← IO.FS.readBinFile path))
    catch _ => return none
  else return none

/-- Look up a place unless it is known. -/
def reveal (known : Known) (place : Place) : IO Known := do
  if known.places.contains place then return known
  else
    let places := place :: known.places
    match ← lookUp place with
    | none => return { known with places }
    | some node => return { disk := known.disk.set place node, places }

/-- Look up all that a run asks for. -/
partial def explore (arguments : Arguments) (scene : Scene) (known : Known) : IO Known := do
  let paths := scene.workingPath :: Program.asked arguments scene known.disk
  let found ← (paths.flatMap placesAlong).foldlM reveal known
  if found.places.length = known.places.length then return known
  else explore arguments scene found

/-- The working directory and the time. -/
def scene : IO Scene := do
  let working := ((placesAlong ⟨(← IO.currentDir).toString⟩).getLast?).getD []
  let seconds := (← Std.Time.Timestamp.now).toSecondsSinceUnixEpoch.val
  match Instant.ofTimestamp? seconds 0 with
  | some now => return { working, now }
  | none => throw (IO.userError "the clock is out of range")

/-- Carry out the changes of a run, oldest first. -/
def apply (before after : Disk) : IO Unit := do
  for (place, node) in after.entries.reverse do
    if before.node? place != some node then
      let path := (← IO.currentDir) / pathOf place
      match node with
      | .directory => IO.FS.createDirAll path
      | .file bytes => IO.FS.writeBinFile path bytes

/-- Print what a run prints. -/
def print (scene : Scene) (filter : LogFilter) (printed : List Printed) : IO Unit := do
  for item in printed do
    match item with
    | .output text => IO.print text
    | .error text => IO.eprint text
    | .log line =>
      if filter.shows line then
        IO.eprintln (scene.now.render ++ " " ++ line.level.word ++ " " ++ line.topic.name ++ ": " ++
          line.text)

/-- Carry out a report and print it. -/
def finish (scene : Scene) (filter : LogFilter) (before : Disk) (report : Report) : IO Unit := do
  apply before report.disk
  print scene filter report.printed

/-- The files below a directory and when they were changed. -/
partial def listing (directory : String) : IO (List (String × Int × UInt32)) := do
  let path := (← IO.currentDir) / directory
  let mut found := []
  for entry in ← path.readDir do
    let name := entry.path.toString
    if ← entry.path.isDir then
      found := found ++ (← listing name)
    else
      let changed := (← entry.path.metadata).modified
      found := (name, changed.sec, changed.nsec) :: found
  return found

/-- Build again whenever a module below the base directory changes. -/
partial def watch (arguments : Arguments) (settings : Settings) (filter : LogFilter)
    (seen : List (String × Int × UInt32)) : IO Unit := do
  IO.sleep 100
  let scene ← scene
  let base := scene.absolute arguments.base
  let now ← listing base.text
  let changed := now.filter (!seen.contains ·) ++ seen.filter (!now.contains ·)
  let outputs := arguments.outputPaths scene.workingPath
  if changed.any fun file => isModuleChange outputs settings.extensions ⟨file.1⟩ then
    IO.println "\nModule changed, rebuilding..."
    let known ← explore arguments scene {}
    let report := Program.build arguments scene settings known.disk
    finish scene filter known.disk report
    if let .error error := report.result then
      IO.eprint error.line
  watch arguments settings filter now

end LuaBundle.Shell

open LuaBundle in
/-- Read the command line, run it, and go on watching if that is asked for. -/
def main (words : List String) : IO UInt32 := do
  let scene ← Shell.scene
  let filterText := (← IO.getEnv "RUST_LOG").getD ""
  let filter := LogFilter.ofText filterText
  match CommandLine.parse words with
  | .error _ =>
    let (code, report) := Program.execute filterText words scene {}
    Shell.print scene filter report.printed
    return code
  | .ok arguments =>
    let known ← Shell.explore arguments scene {}
    let (code, report) := Program.execute filterText words scene known.disk
    Shell.finish scene filter known.disk report
    if code = 0 && arguments.watch then
      if let .ok settings := arguments.settings scene known.disk then
        Shell.watch arguments settings filter
          (← Shell.listing (scene.absolute arguments.base).text)
    return code
