import LuaBundle.Text.Basic

/-! # Paths

A path is kept as it was written, since messages show it so. What it denotes is read off its
components: repeated and trailing slashes and every `.` but a leading one say nothing. Two
spellings with the same components are the same path.

Normalizing is lexical. It drops `.`, lets `..` take back the name before it, absorbs `..` at the
root, and keeps `..` only at the front of a relative path.

A path is a text here. A path on disk can be made of any bytes; how those are handled, and what gets
lost when they are no text, is said by `BytePath`.
-/

namespace LuaBundle

/-- One step of a path. -/
inductive Component where
  /-- The root directory, only ever first. -/
  | root
  /-- A leading `.`. -/
  | current
  /-- The directory above. -/
  | parent
  /-- A named entry. -/
  | name (chars : List Char)
  deriving Repr, DecidableEq

namespace Component

/-- A component as it is written. -/
def chars : Component → List Char
  | .root => ['/']
  | .current => ['.']
  | .parent => ['.', '.']
  | .name chars => chars

/-- A piece between slashes, the first one apart: empty pieces and `.` say nothing. -/
def ofPiece? : List Char → Option Component
  | [] => none
  | ['.'] => none
  | ['.', '.'] => some .parent
  | piece => some (.name piece)

/-- The first piece of a relative path, where `.` counts. -/
def ofFirstPiece? : List Char → Option Component
  | ['.'] => some .current
  | piece => ofPiece? piece

/-- The components of a written path. -/
def ofChars (s : List Char) : List Component :=
  match Text.split '/' s with
  | [] => []
  | [piece] => (ofFirstPiece? piece).toList
  | [] :: pieces => .root :: pieces.filterMap ofPiece?
  | piece :: pieces => (ofFirstPiece? piece).toList ++ pieces.filterMap ofPiece?

/-- Write components as a path. -/
def render : List Component → List Char
  | .root :: components => '/' :: Text.joinWith ['/'] (components.map chars)
  | components => Text.joinWith ['/'] (components.map chars)

/-- Take one more component onto a normal path, which is held with its last component first. -/
def fold : List Component → Component → List Component
  | above, .current => above
  | .name _ :: above, .parent => above
  | .root :: above, .parent => .root :: above
  | above, component => component :: above

/-- Fold away `.` and `..`. -/
def normalize (components : List Component) : List Component :=
  (components.foldl fold []).reverse

/-- How many components two paths share at their front. -/
def sharedLength : List Component → List Component → Nat
  | a :: as, b :: bs => if a = b then sharedLength as bs + 1 else 0
  | _, _ => 0

/-- The way from a directory to a path: up to what they share, then down. -/
def relativeTo (base path : List Component) : List Char :=
  let shared := sharedLength base path
  Text.joinWith ['/']
    (List.replicate (base.length - shared) (chars .parent) ++ (path.drop shared).map chars)

end Component

/-- A path as it was written. -/
structure Path where
  text : String
  deriving Repr, DecidableEq, Inhabited

/-- What a path denotes: two paths with the same location are the same path. -/
abbrev Location := List Component

namespace Path

/-- The components of a path. -/
def location (path : Path) : Location :=
  Component.ofChars path.text.toList

/-- The plainest spelling of a location. -/
def ofLocation (location : Location) : Path :=
  ⟨String.ofList (Component.render location)⟩

/-- A path that begins at the root. -/
def isAbsolute (path : Path) : Bool :=
  path.text.toList.head? == some '/'

/-- The path `other` as seen from `path`; an absolute `other` stands for itself. -/
def join (path other : Path) : Path :=
  let chars := path.text.toList
  if other.isAbsolute then other
  else if chars.getLast? = none ∨ chars.getLast? = some '/' then ⟨path.text ++ other.text⟩
  else ⟨path.text ++ "/" ++ other.text⟩

/-- The directory a path stands in. The root and the empty path stand in none. -/
def parent? (path : Path) : Option Path :=
  match path.location.getLast? with
  | none => none
  | some .root => none
  | some _ => some (ofLocation path.location.dropLast)

/-- The last component, if it is a name. -/
def fileName? (path : Path) : Option (List Char) :=
  match path.location.getLast? with
  | some (.name chars) => some chars
  | _ => none

/-- What follows the last dot of the file name, unless that dot is the name's first character. -/
def extension? (path : Path) : Option (List Char) :=
  match path.fileName? with
  | none => none
  | some name =>
    let tail := name.reverse.takeWhile (· != '.')
    if tail.length + 1 < name.length then some tail.reverse else none

/-- The path without `.` and with `..` folded into what precedes it. -/
def normalize (path : Path) : Path :=
  ofLocation (Component.normalize path.location)

/-- How `path` is written when seen from the directory `base`. -/
def relativeTo (base path : Path) : String :=
  String.ofList (Component.relativeTo base.location path.location)

/-- The path with more text written right behind it. -/
def append (path : Path) (suffix : String) : Path :=
  ⟨path.text ++ suffix⟩

end Path

end LuaBundle
