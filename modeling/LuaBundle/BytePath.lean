import LuaBundle.Path
import LuaBundle.Text.Encoded

/-! # Paths of bytes

A path on disk is made of bytes, which need not be a text. Its components are found as in a text,
since a slash is a single byte and so is a dot: here the bytes are read as the characters with their
numbers, and the path that these spell is taken. Only where a path is written as a canonical path do
its bytes have to be a text, and names that are none are written with replacement characters.
-/

namespace LuaBundle

/-- A path as it is on disk. -/
structure BytePath where
  bytes : List UInt8
  deriving Repr, DecidableEq

namespace BytePath

/-- The path that is spelled by the characters with the numbers of the bytes. -/
def spelling (path : BytePath) : Path :=
  ⟨String.ofList (path.bytes.map Char.ofUInt8)⟩

/-- The path with such a spelling. -/
def ofSpelling (path : Path) : BytePath :=
  ⟨path.text.toList.map Char.toUInt8⟩

/-- The path that a text is on disk. -/
def ofText (text : String) : BytePath :=
  ⟨Text.bytes text.toList⟩

/-- What a path denotes, with bytes for characters. -/
def location (path : BytePath) : Location :=
  path.spelling.location

/-- A path that begins at the root. -/
def isAbsolute (path : BytePath) : Bool :=
  path.spelling.isAbsolute

/-- The path `other` as seen from `path`; an absolute `other` stands for itself. -/
def join (path other : BytePath) : BytePath :=
  ofSpelling (path.spelling.join other.spelling)

/-- The path without `.` and with `..` folded into what precedes it. -/
def normalize (path : BytePath) : BytePath :=
  ofSpelling path.spelling.normalize

/-- The steps from the directory `base` to `path`: up to what they share, then down. -/
def steps (base path : BytePath) : List (List UInt8) :=
  let shared := Component.sharedLength base.location path.location
  let steps := List.replicate (base.location.length - shared) .parent ++ path.location.drop shared
  steps.map fun step => step.chars.map Char.toUInt8

/-- How `path` is written as a text when seen from the directory `base`. -/
def relativeTo (base path : BytePath) : String :=
  String.ofList (Text.joinWith ['/'] ((steps base path).map Text.decodeLossy))

/-- The file of a module, with canonical paths seen from `base`. -/
def absolute (base : BytePath) (module : String) : BytePath :=
  (base.normalize.join (ofText module)).normalize

/-- The canonical path of a file as seen from `base`. -/
def canonical (base path : BytePath) : String :=
  base.normalize.relativeTo (base.normalize.join path).normalize

end BytePath

end LuaBundle
