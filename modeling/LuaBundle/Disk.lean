import LuaBundle.Files

/-! # Directory trees

A disk is a tree of directories and files. Unlike a location, a path on a disk is walked step by
step: each directory on the way has to exist, also one that a later `..` leaves again, and a path
that ends in a slash means a directory. A relative path is walked from a working directory. Names
and whole paths have a greatest size, counted in bytes.
-/

namespace LuaBundle

/-- What stands at a place of a disk. -/
inductive DiskNode where
  | directory
  | file (bytes : ByteArray)

instance : DecidableEq DiskNode
  | .directory, .directory => isTrue rfl
  | .directory, .file _ => isFalse nofun
  | .file _, .directory => isFalse nofun
  | .file ⟨data⟩, .file ⟨other⟩ =>
    if h : data = other then isTrue (by rw [h]) else isFalse (by simpa using h)

/-- A place on a disk: the names on the way from the root. -/
abbrev Place := List (List Char)

/-- A tree of directories and files. The root is always a directory. -/
structure Disk where
  entries : List (Place × DiskNode) := []

namespace Disk

/-- What stands at a place. -/
def node? (disk : Disk) (place : Place) : Option DiskNode :=
  if place = [] then some .directory
  else (disk.entries.find? (·.1 == place)).map (·.2)

/-- The bytes of a file. -/
def file? (disk : Disk) (place : Place) : Option ByteArray :=
  match disk.node? place with
  | some (.file bytes) => some bytes
  | _ => none

/-- Put something at a place, instead of what is there. -/
def set (disk : Disk) (place : Place) (node : DiskNode) : Disk :=
  ⟨(place, node) :: disk.entries.filter (·.1 != place)⟩

/-- Take away what is at a place. -/
def erase (disk : Disk) (place : Place) : Disk :=
  ⟨disk.entries.filter (·.1 != place)⟩

/-- The files and what they hold. -/
def files (disk : Disk) : List (Place × ByteArray) :=
  disk.entries.filterMap fun entry => (disk.file? entry.1).map (entry.1, ·)

/-! ## Walking -/

/-- How many bytes a name can have. -/
def maxNameSize : Nat := 255

/-- How many bytes a path can have. -/
def maxPathSize : Nat := 4095

/-- What is wrong with a path, whatever the disk holds. -/
def pathFault? (path : Path) : Option FileFault :=
  if path.text.toList.contains '\x00' then some .nulInPath
  else if path.text.isEmpty then some .missing
  else if maxPathSize < Text.byteLength path.text.toList then some .nameTooLong
  else none

/-- Take one step from a place, which has to be a directory. -/
def step (disk : Disk) (place : Place) (piece : List Char) : Except FileFault Place :=
  match disk.node? place with
  | none => .error .missing
  | some (.file _) => .error .notDirectory
  | some .directory =>
    if piece = [] ∨ piece = ['.'] then .ok place
    else if piece = ['.', '.'] then .ok place.dropLast
    else if maxNameSize < Text.byteLength piece then .error .nameTooLong
    else .ok (place ++ [piece])

/-- Take steps from a place. Nothing needs to stand where the last one leads. -/
def steps (disk : Disk) (place : Place) : List (List Char) → Except FileFault Place
  | [] => .ok place
  | piece :: pieces =>
    match disk.step place piece with
    | .error fault => .error fault
    | .ok place => disk.steps place pieces

/-- Where walking a path begins. -/
def origin (working : Place) (path : Path) : Place :=
  if path.isAbsolute then [] else working

/-- Walk a path from a working directory. The empty path leads nowhere. -/
def walk (disk : Disk) (working : Place) (path : Path) : Except FileFault Place :=
  match pathFault? path with
  | some fault => .error fault
  | none => disk.steps (origin working path) (Text.split '/' path.text.toList)

/-- Whether a path leads to a directory. -/
def isDirectory (disk : Disk) (working : Place) (path : Path) : Bool :=
  match disk.walk working path with
  | .error _ => false
  | .ok place => disk.node? place == some .directory

/-- Whether a path leads to a file. -/
def isFile (disk : Disk) (working : Place) (path : Path) : Bool :=
  match disk.walk working path with
  | .error _ => false
  | .ok place => (disk.file? place).isSome

/-! ## Reading -/

/-- The text that bytes are. -/
def decode (bytes : ByteArray) : Except FileFault String :=
  match String.fromUTF8? bytes with
  | some text => .ok text
  | none => .error .notText

/-- The text of the file at a place. -/
def readAt (disk : Disk) (place : Place) : Except FileFault String :=
  match disk.node? place with
  | none => .error .missing
  | some .directory => .error .isDirectory
  | some (.file bytes) => decode bytes

/-- The text of the file that a path leads to. -/
def read (disk : Disk) (working : Place) (path : Path) : Except FileFault String :=
  match disk.walk working path with
  | .error fault => .error fault
  | .ok place => disk.readAt place

/-- The place of an absolute path in normal form. -/
def placeOf? : Location → Option Place
  | .root :: components =>
    components.mapM fun component =>
      match component with
      | .name chars => some chars
      | _ => none
  | _ => none

/-- The location of a place. -/
def locationOf (place : Place) : Location :=
  .root :: place.map .name

theorem locationOf_of_placeOf? {location : Location} {place : Place}
    (h : placeOf? location = some place) : locationOf place = location := by
  unfold placeOf? at h
  split at h
  · next components =>
    unfold locationOf
    congr 1
    induction components generalizing place with
    | nil =>
      simp only [List.mapM_nil, Option.pure_def, Option.some.injEq] at h
      simp [← h]
    | cons component components ih =>
      simp only [List.mapM_cons, Option.bind_eq_bind, Option.bind_eq_some_iff] at h
      obtain ⟨chars, head, names, tail, same⟩ := h
      simp only [Option.pure_def, Option.some.injEq] at same
      cases component with
      | name given =>
        simp only [Option.some.injEq] at head
        simp [← same, ih tail, head]
      | root => simp at head
      | current => simp at head
      | parent => simp at head
  · cases h

/-- A disk as a place to build from. A build reads absolute paths in normal form only, and each such
path leads to the place it spells. -/
def view (disk : Disk) (working : Place) : FileView where
  read path :=
    match _place : (placeOf? path.location).bind fun place =>
        (disk.entries.find? (·.1 == place)).bind fun entry =>
          match entry.2 with
          | .file bytes => some (entry.1, bytes)
          | .directory => none with
    | some (_, bytes) => decode bytes
    | none =>
      match disk.read working path with
      | .error fault => .error fault
      | .ok _ => .error .missing
  isFile path := disk.isFile working path
  locations := disk.entries.map fun entry => locationOf entry.1
  mem_locations := by
    intro path text h
    split at h
    · next found =>
      simp only [Option.bind_eq_some_iff] at found
      obtain ⟨place, spelled, entry, held, _⟩ := found
      have same : entry.1 = place := by simpa using List.find?_some held
      rw [← locationOf_of_placeOf? spelled, ← same]
      exact List.mem_map.2 ⟨entry, List.mem_of_find?_eq_some held, rfl⟩
    · split at h <;> cases h

/-! ## Writing -/

/-- Make a directory. -/
def makeDirectory (disk : Disk) (working : Place) (path : Path) : Except FileFault Disk :=
  match pathFault? path with
  | some fault => .error fault
  | none =>
    match path.location.getLast? with
    | some (.name chars) =>
      let above : Path := .ofLocation path.location.dropLast
      let start : Except FileFault Place :=
        if above.text.isEmpty then .ok working else disk.walk working above
      match start with
      | .error fault => .error fault
      | .ok place =>
        match disk.step place chars with
        | .error fault => .error fault
        | .ok place =>
          if (disk.node? place).isSome then .error .alreadyExists
          else .ok (disk.set place .directory)
    | _ =>
      match disk.walk working path with
      | .error fault => .error fault
      | .ok place => if (disk.node? place).isSome then .error .alreadyExists else .error .missing

/-- Make a directory that may be there already. -/
def ensureDirectory (disk : Disk) (working : Place) (path : Path) : Disk × Except FileFault Unit :=
  match disk.makeDirectory working path with
  | .ok disk => (disk, .ok ())
  | .error fault =>
    (disk, if disk.isDirectory working path then .ok () else .error fault)

/-- Make a directory and, if there is no way to it, those above it first. Those stay if it cannot be
made. -/
def ensureDirectories (disk : Disk) (working : Place) (location : Location) :
    Disk × Except FileFault Unit :=
  match _end : location.getLast? with
  | none => (disk, .ok ())
  | some _ =>
    match disk.makeDirectory working (.ofLocation location) with
    | .error .missing =>
      match disk.ensureDirectories working location.dropLast with
      | (disk, .error fault) => (disk, .error fault)
      | (disk, .ok ()) => disk.ensureDirectory working (.ofLocation location)
    | _ => disk.ensureDirectory working (.ofLocation location)
termination_by location.length
decreasing_by
  cases location with
  | nil => simp at _end
  | cons => simp

/-- Write a file in a directory that exists. A path that ends in a slash or in dots never means a
file. -/
def overwrite (disk : Disk) (working : Place) (path : Path) (text : String) :
    Except FileFault Disk :=
  match pathFault? path with
  | some fault => .error fault
  | none =>
    let pieces := Text.split '/' path.text.toList
    let named := (pieces.reverse.dropWhile (· == [])).reverse
    let name := named.getLastD []
    let noFile := named.length < pieces.length ∨ name = ['.'] ∨ name = ['.', '.']
    match disk.steps (origin working path) named.dropLast with
    | .error fault => .error fault
    | .ok place =>
      match disk.step place (if noFile then [] else name) with
      | .error fault => .error fault
      | .ok place =>
        if noFile ∨ disk.node? place = some .directory then .error .isDirectory
        else .ok (disk.set place (.file text.toUTF8))

/-- Make the directories a file stands in. -/
def ensureParent (disk : Disk) (working : Place) (path : Path) : Disk × Except FileFault Unit :=
  match path.parent? with
  | none => (disk, .ok ())
  | some above => disk.ensureDirectories working above.location

/-- Write a file and make the directories it stands in. Directories stay if the file cannot be
written. -/
def write (disk : Disk) (working : Place) (path : Path) (text : String) :
    Disk × Except FileFault Unit :=
  match disk.ensureParent working path with
  | (disk, .error fault) => (disk, .error fault)
  | (disk, .ok ()) =>
    match disk.overwrite working path text with
    | .error fault => (disk, .error fault)
    | .ok disk => (disk, .ok ())

end Disk

end LuaBundle
