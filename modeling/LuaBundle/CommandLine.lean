import LuaBundle.Settings

/-! # The command line

Three places are named by position: the base directory, the entry and the output. Everything else is
a switch or an option with a value, which may be written behind an equals sign, behind a single
letter, or as the next word.

A value is only settled when something comes after it, or at the end. So a word that is not known at
all is complained about before a value that stands in front of it.
-/

namespace LuaBundle

/-- What the command line says about a build. -/
structure Arguments where
  base : Path
  entry : Path
  output : Path
  settingsFile : Option Path := none
  manifest : Option Path := none
  watch : Bool := false
  /-- Extensions between commas. -/
  extensions : Option String := none
  noHeader : Bool := false
  noBridge : Bool := false
  noTypeWarnings : Bool := false
  noPretty : Bool := false
  deriving Repr, DecidableEq

/-- What is wrong with a command line. -/
inductive UsageFault where
  /-- A place is not named. -/
  | missingRequired
  /-- A word that means nothing. -/
  | unknownArgument
  /-- A value that is left out, or an empty path. -/
  | invalidValue
  /-- A value for a switch. -/
  | tooManyValues
  /-- Something is given twice. -/
  | conflict
  deriving Repr, DecidableEq

/-- What a command line calls for when it does not call for a build. -/
inductive Reply where
  | help
  | version
  | usage (fault : UsageFault)
  deriving Repr, DecidableEq

namespace CommandLine

/-- What takes a value. -/
inductive Slot where
  | base
  | entry
  | output
  | settingsFile
  | manifest
  | extensions
  deriving Repr, DecidableEq

/-- Whether a value for it is a path. -/
def Slot.isPath : Slot → Bool
  | .extensions => false
  | _ => true

/-- What is on or off. -/
inductive Switch where
  | watch
  | noHeader
  | noBridge
  | noTypeWarnings
  | noPretty
  deriving Repr, DecidableEq

/-- What a word with dashes means. -/
inductive Meaning where
  | option (slot : Slot)
  | switch (switch : Switch)
  | help
  | version
  deriving Repr, DecidableEq

/-- The meanings of the long words. -/
def Meaning.ofName? : String → Option Meaning
  | "config" => some (.option .settingsFile)
  | "manifest" => some (.option .manifest)
  | "watch" => some (.switch .watch)
  | "extensions" => some (.option .extensions)
  | "no-header" => some (.switch .noHeader)
  | "no-bridge" => some (.switch .noBridge)
  | "no-type-warnings" => some (.switch .noTypeWarnings)
  | "no-pretty" => some (.switch .noPretty)
  | "help" => some .help
  | "version" => some .version
  | _ => none

/-- The meanings of the single letters. -/
def Meaning.ofLetter? : Char → Option Meaning
  | 'c' => some (.option .settingsFile)
  | 'w' => some (.switch .watch)
  | 'h' => some .help
  | 'V' => some .version
  | _ => none

/-- What was read of a command line. -/
structure Reading where
  values : List (Slot × String) := []
  switches : List Switch := []
  /-- What the latest value is for, and the value if it is there. -/
  unsettled : Option (Slot × Option String) := none
  /-- The places that are not yet named. -/
  places : List Slot := [.base, .entry, .output]
  /-- Whether dashes have lost their meaning. -/
  literal : Bool := false
  deriving Repr, DecidableEq

namespace Reading

/-- Give something its value. -/
def give (reading : Reading) (slot : Slot) (value : String) : Except Reply Reading :=
  if (reading.values.lookup slot).isSome then .error (.usage .conflict)
  else if slot.isPath && value.isEmpty then .error (.usage .invalidValue)
  else .ok { reading with values := reading.values ++ [(slot, value)] }

/-- Settle the latest value. -/
def settle (reading : Reading) : Except Reply Reading :=
  match reading.unsettled with
  | none => .ok reading
  | some (_, none) => .error (.usage .invalidValue)
  | some (slot, some value) => { reading with unsettled := none }.give slot value

/-- Turn a switch on. -/
def turnOn (reading : Reading) (switch : Switch) : Except Reply Reading :=
  if reading.switches.contains switch then .error (.usage .conflict)
  else .ok { reading with switches := reading.switches ++ [switch] }

/-- Take a word with dashes, and the value written in the same word if there is one. A switch takes
none. -/
def take (reading : Reading) (meaning : Meaning) (attached : Option String) :
    Except Reply Reading :=
  match meaning, attached with
  | .option slot, some value => do (← reading.settle).give slot value
  | .option slot, none => do return { ← reading.settle with unsettled := some (slot, none) }
  | _, some _ => .error (.usage .tooManyValues)
  | .switch switch, none => do (← reading.settle).turnOn switch
  | .help, none => do
    let _ ← reading.settle
    .error .help
  | .version, none => do
    let _ ← reading.settle
    .error .version

/-- Take the letters behind a dash. What follows the letter of an option is its value. -/
def takeLetters (reading : Reading) : List Char → Except Reply Reading
  | [] => .ok reading
  | letter :: letters =>
    match Meaning.ofLetter? letter with
    | none => .error (.usage .unknownArgument)
    | some (.option slot) =>
      match letters with
      | [] => reading.take (.option slot) none
      | '=' :: value => reading.take (.option slot) (some (String.ofList value))
      | value => reading.take (.option slot) (some (String.ofList value))
    | some meaning => do (← reading.take meaning none).takeLetters letters

/-- Take what is behind two dashes. -/
def takeName (reading : Reading) (word : List Char) : Except Reply Reading :=
  let name := word.takeWhile (· != '=')
  match Meaning.ofName? (String.ofList name) with
  | none => .error (.usage .unknownArgument)
  | some meaning =>
    match word.drop name.length with
    | [] => reading.take meaning none
    | _ :: value => reading.take meaning (some (String.ofList value))

/-- Take a word without dashes: the value that is awaited, or the next place. -/
def takeWord (reading : Reading) (word : String) : Except Reply Reading :=
  match reading.unsettled, reading.literal with
  | some (slot, none), false => .ok { reading with unsettled := some (slot, some word) }
  | _, _ =>
    match reading.places with
    | [] => .error (.usage .unknownArgument)
    | slot :: places => do
      return { ← reading.settle with unsettled := some (slot, some word), places }

/-- Take a word. A dash alone is a word like any other, and two dashes take the meaning away from
those that follow. -/
def add (reading : Reading) (word : String) : Except Reply Reading :=
  if reading.literal then reading.takeWord word
  else
    match word.toList with
    | ['-', '-'] => .ok { reading with literal := true }
    | '-' :: '-' :: name => reading.takeName name
    | '-' :: letter :: letters => reading.takeLetters (letter :: letters)
    | _ => reading.takeWord word

/-- Whether a switch is on. -/
def isOn (reading : Reading) (switch : Switch) : Bool :=
  reading.switches.contains switch

/-- The path given for a slot. -/
def path? (reading : Reading) (slot : Slot) : Option Path :=
  (reading.values.lookup slot).map Path.mk

/-- What the words say once all of them are read. -/
def finish (reading : Reading) : Except Reply Arguments := do
  let reading ← reading.settle
  match reading.path? .base, reading.path? .entry, reading.path? .output with
  | some base, some entry, some output =>
    return {
      base, entry, output
      settingsFile := reading.path? .settingsFile
      manifest := reading.path? .manifest
      watch := reading.isOn .watch
      extensions := reading.values.lookup .extensions
      noHeader := reading.isOn .noHeader
      noBridge := reading.isOn .noBridge
      noTypeWarnings := reading.isOn .noTypeWarnings
      noPretty := reading.isOn .noPretty }
  | _, _, _ => .error (.usage .missingRequired)

end Reading

/-- Read a command line. -/
def parse (words : List String) : Except Reply Arguments := do
  let reading ← words.foldlM Reading.add {}
  reading.finish

end CommandLine

namespace Arguments

/-- The settings that the command line has a say in. -/
def overrides (arguments : Arguments) : SettingsOverrides :=
  let off (given : Bool) : Option Bool := if given then some false else none
  { extensions := arguments.extensions.map fun list =>
      (Text.split ',' list.toList).map fun piece => String.ofList (Text.trim piece)
    header := off arguments.noHeader
    typeWarnings := off arguments.noTypeWarnings
    bridge := off arguments.noBridge
    pretty := off arguments.noPretty }

/-- The files that a build writes, as absolute paths in normal form. -/
def outputPaths (arguments : Arguments) (working : Path) : List Path :=
  (arguments.output :: arguments.manifest.toList).map fun path => (working.join path).normalize

end Arguments

/-- Whether a changed file calls for a new build: it has the extension of a module and is not one of
the files that a build writes. -/
def isModuleChange (outputs : List Path) (extensions : List String) (path : Path) : Bool :=
  let path := path.normalize
  !(outputs.map Path.location).contains path.location &&
    extensions.any fun extension => extension.toList.isSuffixOf path.text.toList

end LuaBundle
