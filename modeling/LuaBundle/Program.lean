import LuaBundle.CommandLine
import LuaBundle.LogFilter
import LuaBundle.Manifest
import LuaBundle.Settings.File
import LuaBundle.Text.Quoted

/-! # The program

A run takes a disk and a command line to a disk and a report. The whole bundle is made before
anything is written, and the bundle itself is written last: if the manifest cannot be written, there
is no bundle either.
-/

namespace LuaBundle

/-- Why a run ends early. -/
inductive RunError where
  /-- The bundle cannot be made. -/
  | build (error : BuildError)
  /-- A file cannot be written. -/
  | write (path : Path) (fault : FileFault)
  /-- The base directory cannot be watched. -/
  | watch (fault : FileFault)
  deriving Repr, DecidableEq

namespace RunError

/-- The wording of an error. -/
def message : RunError → String
  | .build error => error.message
  | .write path fault => "Failed to write " ++ path.text ++ ": " ++ fault.message
  | .watch .missing => "No path was found."
  | .watch fault => fault.message

/-- The line that reports an error. -/
def line (error : RunError) : String :=
  match error with
  | .build error => "Error: " ++ error.messageWithCause ++ "\n"
  | error => "Error: " ++ error.message ++ "\n"

end RunError

/-- Something a run prints. -/
inductive Printed where
  | output (text : String)
  | error (text : String)
  | log (line : LogLine)
  deriving Repr, DecidableEq

namespace Printed

/-- What is printed about an event of a build. -/
def ofEvent (style : DiagnosticStyle) (event : Event) : List Printed :=
  (event.diagnostic?.map fun diagnostic => Printed.error (style.print diagnostic)).toList ++
    (event.logLine?.map Printed.log).toList

/-- What goes to the standard output. -/
def output? : Printed → Option String
  | .output text => some text
  | _ => none

/-- What goes to the standard error stream besides the log. -/
def error? : Printed → Option String
  | .error text => some text
  | _ => none

/-- The lines of the log. -/
def log? : Printed → Option LogLine
  | .log line => some line
  | _ => none

end Printed

/-- What a run leaves behind. -/
structure Report where
  disk : Disk
  printed : List Printed
  result : Except RunError Unit

namespace Report

/-- The text on the standard output. -/
def standardOutput (report : Report) : String :=
  String.join (report.printed.filterMap Printed.output?)

/-- The text on the standard error stream, without the log. -/
def standardError (report : Report) : String :=
  String.join (report.printed.filterMap Printed.error?)

/-- The lines of the log that a filter lets through. -/
def logLines (report : Report) (filter : LogFilter) : List LogLine :=
  (report.printed.filterMap Printed.log?).filter filter.shows

/-- Print something before everything else. -/
def after (report : Report) (printed : List Printed) : Report :=
  { report with printed := printed ++ report.printed }

end Report

/-- Where and when a run takes place. -/
structure Scene where
  /-- The working directory. -/
  working : Place
  now : Instant

namespace Scene

/-- The path of the working directory. -/
def workingPath (scene : Scene) : Path :=
  .ofLocation (Disk.locationOf scene.working)

/-- A path as seen from the root. -/
def absolute (scene : Scene) (path : Path) : Path :=
  scene.workingPath.join path

end Scene

namespace Arguments

/-- The settings file: the one that is named, or else the base directory's own. -/
def settingsPath? (arguments : Arguments) (scene : Scene) (disk : Disk) : Option Path :=
  arguments.settingsFile.or (Settings.discover disk scene.working (scene.absolute arguments.base))

/-- The settings of a run. -/
def settings (arguments : Arguments) (scene : Scene) (disk : Disk) : Except BuildError Settings :=
  let given : Except BuildError Settings :=
    match arguments.settingsPath? scene disk with
    | none => .ok {}
    | some path => Settings.load disk scene.working path
  match given with
  | .error error => .error error
  | .ok settings =>
    match (settings.override arguments.overrides).check with
    | .error fault => .error (.settings fault)
    | .ok settings => .ok settings

/-- What the log is told while settings are looked for. -/
def settingsLog (arguments : Arguments) (scene : Scene) (disk : Disk) : List Printed :=
  (arguments.settingsPath? scene disk).toList.map fun path =>
    .log ⟨.info, .program, "Using configuration " ++ path.text⟩

/-- What the log is told once the settings are known. -/
def startLog (arguments : Arguments) (scene : Scene) (settings : Settings) : List Printed := [
  .log ⟨.info, .program, "Base directory: " ++ (scene.absolute arguments.base).text⟩,
  .log ⟨.debug, .program,
    "Extensions: [" ++ ", ".intercalate (settings.extensions.map Text.showQuoted) ++ "]"⟩,
  .log ⟨.debug, .program, "Watch mode: " ++ toString arguments.watch⟩]

/-- The files that a bundle is written to, in the order of writing. -/
def filesOf (arguments : Arguments) (bundle : Bundle) : List (Path × String) :=
  (arguments.manifest.toList.map fun path =>
      (path, (Manifest.ofGraph bundle.graph bundle.made).render)) ++
    [(arguments.output, bundle.artifact)]

end Arguments

/-- Write files up to the first that cannot be written. -/
def Disk.writeAll (disk : Disk) (working : Place) :
    List (Path × String) → Disk × Except (Path × FileFault) Unit
  | [] => (disk, .ok ())
  | (path, text) :: files =>
    match disk.write working path text with
    | (disk, .error fault) => (disk, .error (path, fault))
    | (disk, .ok ()) => disk.writeAll working files

/-- What is printed when a bundle has been written. -/
def Arguments.closing (arguments : Arguments) (warnings : Nat) (bundle : Bundle) : List Printed :=
  (if warnings = 0 then []
    else [.log ⟨.warn, .program, toString warnings ++ " advisory warning(s)"⟩]) ++
    [.output ("Bundled " ++ toString bundle.graph.modules.size ++ " module(s) from " ++
      bundle.graph.entry.path ++ " into " ++ arguments.output.text ++ "\n")]

/-- The making of the bundle. -/
def Arguments.bundle (arguments : Arguments) (scene : Scene) (settings : Settings) (disk : Disk) :
    Traced Bundle :=
  (Builder.ofBase settings (disk.view scene.working) (scene.absolute arguments.base)).bundle
    arguments.entry scene.now

namespace Program

/-- Make a bundle and write it. -/
def build (arguments : Arguments) (scene : Scene) (settings : Settings) (disk : Disk) : Report :=
  let traced := arguments.bundle scene settings disk
  let style : DiagnosticStyle := if settings.pretty then .styled else .plain
  let printed := traced.events.flatMap (Printed.ofEvent style)
  match traced.result with
  | .error error => ⟨disk, printed, .error (.build error)⟩
  | .ok bundle =>
    match disk.writeAll scene.working (arguments.filesOf bundle) with
    | (disk, .error (path, fault)) => ⟨disk, printed, .error (.write path fault)⟩
    | (disk, .ok ()) =>
      let warnings := DiagnosticLog.count traced.diagnostics .warning
      ⟨disk, printed ++ arguments.closing warnings bundle, .ok ()⟩

/-- Begin to watch: make a first bundle, which may fail, and see whether the base directory is
there. -/
def watch (arguments : Arguments) (scene : Scene) (settings : Settings) (disk : Disk) : Report :=
  let base := scene.absolute arguments.base
  let first := build arguments scene settings disk
  let failure : List Printed :=
    match first.result with
    | .error error => [.error error.line]
    | .ok () => []
  let printed :=
    .output ("Watching " ++ base.text ++ " for changes... (Press Ctrl+C to stop)\n") ::
      first.printed ++ failure
  match first.disk.walk scene.working base with
  | .error fault => ⟨first.disk, printed, .error (.watch fault)⟩
  | .ok place =>
    if (first.disk.node? place).isSome then ⟨first.disk, printed, .ok ()⟩
    else ⟨first.disk, printed, .error (.watch .missing)⟩

/-- A run: settle the settings, then build once, or build and watch. -/
def run (arguments : Arguments) (scene : Scene) (disk : Disk) : Report :=
  let printed := arguments.settingsLog scene disk
  match arguments.settings scene disk with
  | .error error => ⟨disk, printed, .error (.build error)⟩
  | .ok settings =>
    let report :=
      if arguments.watch then watch arguments scene settings disk
      else build arguments scene settings disk
    report.after (printed ++ arguments.startLog scene settings)

/-- The paths that a run looks at, as seen from the root. -/
def asked (arguments : Arguments) (scene : Scene) (disk : Disk) : List Path :=
  let base := scene.absolute arguments.base
  let settingsFiles :=
    match arguments.settingsFile with
    | some path => [path]
    | none => Settings.fileNames.map fun name => base.join ⟨name⟩
  let modules :=
    match arguments.settings scene disk with
    | .error _ => []
    | .ok settings => (arguments.bundle scene settings disk).events.filterMap Event.path?
  (base :: settingsFiles ++ modules ++ arguments.output :: arguments.manifest.toList).map
    scene.absolute

end Program

/-! ## Runs as the shell sees them -/

namespace Reply

/-- What the program is for and how it is called. -/
def helpText : String :=
  "luapack - bundle a tree of Lua modules into one self-contained file\n\n" ++
  "Usage: luapack [OPTIONS] <BASE_DIR> <ENTRY> <OUTPUT>\n\n" ++
  "Arguments:\n" ++
  "  <BASE_DIR>  Base directory every module path is resolved against\n" ++
  "  <ENTRY>     Entry module, relative to the base directory\n" ++
  "  <OUTPUT>    Where to write the bundled artifact\n\n" ++
  "Options:\n" ++
  "  -c, --config <FILE>      Path to a luapack.yaml / luapack.json configuration file\n" ++
  "      --manifest <FILE>    Also write a JSON build manifest\n" ++
  "  -w, --watch              Rebuild whenever a module under the base directory changes\n" ++
  "      --extensions <EXTS>  Extensions probed for extension-less imports " ++
    "(comma-separated, in order)\n" ++
  "      --no-header          Omit the header comment\n" ++
  "      --no-bridge          Omit the host bridge\n" ++
  "      --no-type-warnings   Do not warn about type declarations\n" ++
  "      --no-pretty          Print diagnostics without ANSI styling\n" ++
  "  -h, --help               Print help\n" ++
  "  -V, --version            Print version\n"

/-- What is printed as a reply. A command line that makes no sense is answered on the standard error
stream. -/
def printed : Reply → List Printed
  | .help => [.output helpText]
  | .version => [.output (toolName ++ " " ++ toolVersion ++ "\n")]
  | .usage _ => [.error helpText]

/-- The exit code of a run that only gives a reply. -/
def exitCode : Reply → UInt32
  | .usage _ => 2
  | _ => 0

end Reply

/-- Run a command line. Complaints about the text of the log's filter are the first thing printed,
and an error is the last. -/
def Program.execute (filter : String) (words : List String) (scene : Scene) (disk : Disk) :
    UInt32 × Report :=
  let complaints := (LogFilter.complaints filter).map Printed.error
  match CommandLine.parse words with
  | .error reply => (reply.exitCode, ⟨disk, complaints ++ reply.printed, .ok ()⟩)
  | .ok arguments =>
    let report := (run arguments scene disk).after complaints
    match report.result with
    | .ok () => (0, report)
    | .error error => (1, { report with printed := report.printed ++ [.error error.line] })

end LuaBundle
