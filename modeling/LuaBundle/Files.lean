import LuaBundle.Path

/-! # Places that hold files

A build asks two questions of the place its modules are kept in: what a file holds, and whether a
path is a file. `FileView` is that pair of questions together with a finite list of all locations
that can be read, which bounds how deep imports can nest. `Files` is the simplest such place, a
finite map from locations to texts.
-/

namespace LuaBundle

/-- Why a file could not be read or written. -/
inductive FileFault where
  /-- A finite map of files does not hold the path. -/
  | unknown (path : Path)
  /-- Nothing is there. -/
  | missing
  /-- A directory stands where a file is wanted. -/
  | isDirectory
  /-- A file stands where a directory is wanted. -/
  | notDirectory
  /-- Something other than a directory is in the way of a new directory. -/
  | alreadyExists
  /-- A name or the whole path is longer than a disk can hold. -/
  | nameTooLong
  /-- The path holds a NUL character, which ends a path before its time. -/
  | nulInPath
  /-- The bytes are not UTF-8. -/
  | notText
  deriving Repr, DecidableEq

/-- The wording of a file fault. -/
def FileFault.message : FileFault → String
  | .unknown path => "no such file: " ++ path.text
  | .missing => "No such file or directory (os error 2)"
  | .isDirectory => "Is a directory (os error 21)"
  | .notDirectory => "Not a directory (os error 20)"
  | .alreadyExists => "File exists (os error 17)"
  | .nameTooLong => "File name too long (os error 36)"
  | .nulInPath => "file name contained an unexpected NUL byte"
  | .notText => "stream did not contain valid UTF-8"

/-- What a build can find out about files. -/
structure FileView where
  /-- The text of a file. -/
  read : Path → Except FileFault String
  /-- Whether a path is a regular file. -/
  isFile : Path → Bool
  /-- Every location that can be read. -/
  locations : List Location
  mem_locations : ∀ {path : Path} {text : String},
    read path = .ok text → path.location ∈ locations

/-- A finite map from locations to texts. -/
structure Files where
  entries : List (Location × String) := []
  deriving Repr

namespace Files

/-- The text at a location. -/
def get? (files : Files) (location : Location) : Option String :=
  (files.entries.find? (·.1 == location)).map (·.2)

/-- Put a text at a path, in place of any that is there. -/
def insert (files : Files) (path : Path) (text : String) : Files :=
  ⟨(path.location, text) :: files.entries.filter (·.1 != path.location)⟩

/-- The files of a list; later ones replace earlier ones. -/
def ofList (files : List (Path × String)) : Files :=
  files.foldl (fun held file => held.insert file.1 file.2) {}

/-- The text of a file. -/
def read (files : Files) (path : Path) : Except FileFault String :=
  match files.get? path.location with
  | some text => .ok text
  | none => .error (.unknown path)

/-- Whether a path is held. -/
def isFile (files : Files) (path : Path) : Bool :=
  (files.get? path.location).isSome

theorem get?_mem {files : Files} {location : Location} {text : String}
    (h : files.get? location = some text) : location ∈ files.entries.map (·.1) := by
  simp only [get?, Option.map_eq_some_iff] at h
  obtain ⟨entry, found, -⟩ := h
  have same : entry.1 = location := by simpa using List.find?_some found
  exact List.mem_map.2 ⟨entry, List.mem_of_find?_eq_some found, same⟩

/-- A finite map as a place to build from. -/
def view (files : Files) : FileView where
  read := files.read
  isFile := files.isFile
  locations := files.entries.map (·.1)
  mem_locations := by
    intro path text h
    unfold read at h
    split at h
    · next found => exact get?_mem found
    · cases h

end Files

end LuaBundle
