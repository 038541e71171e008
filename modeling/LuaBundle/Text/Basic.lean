/-! # Text as a list of characters

Sizes and offsets are counted in UTF-8 bytes, while all cutting is done between characters, so no
cut can fall inside one.
-/

namespace LuaBundle.Text

/-- How many bytes the UTF-8 form of a text has. -/
def byteLength : List Char → Nat
  | [] => 0
  | c :: rest => c.utf8Size + byteLength rest

@[simp]
theorem byteLength_append (s t : List Char) :
    byteLength (s ++ t) = byteLength s + byteLength t := by
  induction s with
  | nil => simp [byteLength]
  | cons c rest ih => simp [byteLength, ih, Nat.add_assoc]

/-- The characters that end within the first `n` bytes. -/
def takeBytes (n : Nat) : List Char → List Char
  | [] => []
  | c :: rest => if n < c.utf8Size then [] else c :: takeBytes (n - c.utf8Size) rest

/-- The characters that do not end within the first `n` bytes. -/
def dropBytes (n : Nat) : List Char → List Char
  | [] => []
  | c :: rest => if n < c.utf8Size then c :: rest else dropBytes (n - c.utf8Size) rest

theorem takeBytes_append_dropBytes (n : Nat) (s : List Char) :
    takeBytes n s ++ dropBytes n s = s := by
  induction s generalizing n with
  | nil => rfl
  | cons c rest ih =>
    unfold takeBytes dropBytes
    split
    · rfl
    · simp [ih]

/-- The pieces between the separators; there is always one more of them than separators. -/
def split (separator : Char) : List Char → List (List Char)
  | [] => [[]]
  | c :: rest =>
    if c = separator then [] :: split separator rest
    else
      match split separator rest with
      | [] => [[c]]
      | piece :: pieces => (c :: piece) :: pieces

/-- The pieces with a separator between each two of them. -/
def joinWith (separator : List Char) : List (List Char) → List Char
  | [] => []
  | [piece] => piece
  | piece :: pieces => piece ++ separator ++ joinWith separator pieces

/-- Put `value` for every occurrence of `pattern`, from left to right; occurrences do not overlap
and inserted text is not looked at again. An empty pattern occurs nowhere. -/
def replaceAll (pattern value : List Char) (s : List Char) : List Char :=
  match s with
  | [] => []
  | c :: rest =>
    if _h : pattern ≠ [] ∧ pattern.isPrefixOf (c :: rest) then
      value ++ replaceAll pattern value ((c :: rest).drop pattern.length)
    else c :: replaceAll pattern value rest
termination_by s.length
decreasing_by
  · have := List.length_pos_iff.2 _h.1
    simp only [List.length_drop, List.length_cons]
    omega
  · simp

/-- Drop one carriage return at the end, if there is one. -/
def dropFinalReturn (line : List Char) : List Char :=
  if line.getLast? = some '\r' then line.dropLast else line

/-- The lines of a text. A line ends at a line feed, and a carriage return right before that feed
is not part of the line either. What follows the last feed is a line unless it is empty. -/
def lines (s : List Char) : List (List Char) :=
  let pieces := split '\n' s
  let final := pieces.getLastD []
  pieces.dropLast.map dropFinalReturn ++ (if final = [] then [] else [final])

end LuaBundle.Text
