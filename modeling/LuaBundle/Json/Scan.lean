import LuaBundle.Json.Fault

/-! # Words and strings of a JSON text

Each function reads from the front of a text and returns what it read together with what is left.
That is never longer than the text, which is what bounds the readers built on these functions.
-/

namespace LuaBundle.Json

/-- Drop the blanks that may stand between the parts of a text. -/
def skipBlanks (s : List Char) : List Char :=
  s.dropWhile fun c => c == ' ' || c == '\n' || c == '\t' || c == '\r'

theorem length_skipBlanks (s : List Char) : (skipBlanks s).length ≤ s.length :=
  (List.dropWhile_suffix _).length_le

/-- A decimal digit. -/
def isDigit (c : Char) : Bool :=
  '0' ≤ c && c ≤ '9'

/-- The value of a digit, of which a letter may be one. -/
def hexValue? (c : Char) : Option Nat :=
  if isDigit c then some (c.toNat - '0'.toNat)
  else if 'a' ≤ c && c ≤ 'f' then some (c.toNat - 'a'.toNat + 10)
  else if 'A' ≤ c && c ≤ 'F' then some (c.toNat - 'A'.toNat + 10)
  else none

/-- Read the letters of a word. -/
def readWord (letters : List Char) (s : List Char) : Except Fault (List Char) :=
  match letters, s with
  | [], s => .ok s
  | _ :: _, [] => .error (.before .endInValue [])
  | letter :: letters, c :: rest =>
    if c = letter then readWord letters rest else .error (.next .expectedWord (c :: rest))

theorem length_readWord {letters s rest : List Char} (h : readWord letters s = .ok rest) :
    rest.length ≤ s.length := by
  induction letters generalizing s with
  | nil => simp only [readWord, Except.ok.injEq] at h; simp [h]
  | cons letter letters ih =>
    cases s with
    | nil => simp [readWord] at h
    | cons c s =>
      simp only [readWord] at h
      split at h
      · have := ih h; simp only [List.length_cons]; omega
      · cases h

/-! ## Strings -/

/-- The character that stands for itself and a backslash. -/
def shortEscape? : Char → Option Char
  | '"' => some '"'
  | '\\' => some '\\'
  | '/' => some '/'
  | 'b' => some '\x08'
  | 'f' => some '\x0c'
  | 'n' => some '\n'
  | 'r' => some '\r'
  | 't' => some '\t'
  | _ => none

/-- Read four digits in base sixteen. -/
def hexFour (s : List Char) : Except Fault (Nat × List Char) :=
  if Text.byteLength s < 4 then .error (.before .endInString [])
  else
    match s with
    | a :: b :: c :: d :: rest =>
      match hexValue? a, hexValue? b, hexValue? c, hexValue? d with
      | some a, some b, some c, some d => .ok (((a * 16 + b) * 16 + c) * 16 + d, rest)
      | _, _, _, _ => .error ⟨.invalidEscape, s, 4⟩
    | s => .error ⟨.invalidEscape, s, 4⟩

theorem length_hexFour {s rest : List Char} {n : Nat} (h : hexFour s = .ok (n, rest)) :
    rest.length < s.length := by
  unfold hexFour at h
  split at h
  · cases h
  · split at h
    · split at h
      · simp only [Except.ok.injEq, Prod.mk.injEq] at h
        obtain ⟨-, rfl⟩ := h
        simp only [List.length_cons]
        omega
      · cases h
    · cases h

/-- The second half of a pair. -/
def isTrailing (n : Nat) : Bool := 0xDC00 ≤ n && n ≤ 0xDFFF

/-- The first half of a pair. -/
def isLeading (n : Nat) : Bool := 0xD800 ≤ n && n ≤ 0xDBFF

/-- Read the second half of a pair, with the backslash in front of it. -/
def trailingHalf (s : List Char) : Except Fault (Nat × List Char) :=
  match s with
  | [] => .error (.before .endInString [])
  | '\\' :: [] => .error (.before .endInString [])
  | '\\' :: 'u' :: s =>
    match hexFour s with
    | .error fault => .error fault
    | .ok (n, rest) =>
      if isTrailing n then .ok (n, rest) else .error (.before .loneSurrogate rest)
  | '\\' :: s => .error (.next .unfinishedSurrogate s)
  | s => .error (.next .unfinishedSurrogate s)

theorem length_trailingHalf {s rest : List Char} {n : Nat}
    (h : trailingHalf s = .ok (n, rest)) : rest.length < s.length := by
  unfold trailingHalf at h
  split at h
  · cases h
  · cases h
  · split at h
    · cases h
    · next found =>
      split at h
      · simp only [Except.ok.injEq, Prod.mk.injEq] at h
        obtain ⟨rfl, rfl⟩ := h
        have := length_hexFour found
        simp only [List.length_cons]
        omega
      · cases h
  · cases h
  · cases h

/-- Read a character given by its number, or by a pair of numbers if it has more than 16 bits. -/
def unicodeEscape (s : List Char) : Except Fault (Char × List Char) :=
  match hexFour s with
  | .error fault => .error fault
  | .ok (n, rest) =>
    if isTrailing n then .error (.before .loneSurrogate rest)
    else if isLeading n then
      match trailingHalf rest with
      | .error fault => .error fault
      | .ok (m, rest) => .ok (Char.ofNat (0x10000 + (n - 0xD800) * 0x400 + (m - 0xDC00)), rest)
    else .ok (Char.ofNat n, rest)

/-- Read what stands behind a backslash. -/
def unescape (s : List Char) : Except Fault (Char × List Char) :=
  match s with
  | [] => .error (.before .endInString [])
  | 'u' :: rest => unicodeEscape rest
  | c :: rest =>
    match shortEscape? c with
    | some meant => .ok (meant, rest)
    | none => .error (.next .invalidEscape (c :: rest))

theorem length_unescape {s rest : List Char} {c : Char} (h : unescape s = .ok (c, rest)) :
    rest.length < s.length := by
  unfold unescape at h
  split at h
  · cases h
  · unfold unicodeEscape at h
    split at h
    · cases h
    · next found =>
      have shorter := length_hexFour found
      split at h
      · cases h
      · split at h
        · split at h
          · cases h
          · next found' =>
            have shorter' := length_trailingHalf found'
            simp only [Except.ok.injEq, Prod.mk.injEq] at h
            obtain ⟨-, rfl⟩ := h
            simp only [List.length_cons]
            omega
        · simp only [Except.ok.injEq, Prod.mk.injEq] at h
          obtain ⟨-, rfl⟩ := h
          simp only [List.length_cons]
          omega
  · split at h
    · simp only [Except.ok.injEq, Prod.mk.injEq] at h
      obtain ⟨-, rfl⟩ := h
      simp
    · cases h

/-- Read a string behind its opening quote. -/
def stringBody (s : List Char) : Except Fault (List Char × List Char) :=
  match s with
  | [] => .error (.before .endInString [])
  | '"' :: rest => .ok ([], rest)
  | '\\' :: rest =>
    match _escaped : unescape rest with
    | .error fault => .error fault
    | .ok (c, rest) =>
      match stringBody rest with
      | .error fault => .error fault
      | .ok (chars, rest) => .ok (c :: chars, rest)
  | c :: rest =>
    if c.toNat < 0x20 then .error (.next .controlCharacter (c :: rest))
    else
      match stringBody rest with
      | .error fault => .error fault
      | .ok (chars, rest) => .ok (c :: chars, rest)
termination_by s.length
decreasing_by
  · have := length_unescape _escaped
    simp only [List.length_cons]
    omega
  · simp

theorem length_stringBody {s chars rest : List Char} (h : stringBody s = .ok (chars, rest)) :
    rest.length < s.length := by
  fun_induction stringBody s generalizing chars rest with
  | case1 => cases h
  | case2 s => simp only [Except.ok.injEq, Prod.mk.injEq] at h; simp [h.2]
  | case3 => cases h
  | case4 => cases h
  | case5 s c left escaped chars' rest' found ih =>
    simp only [Except.ok.injEq, Prod.mk.injEq] at h
    obtain ⟨-, rfl⟩ := h
    have := length_unescape escaped
    have := ih found
    simp only [List.length_cons]
    omega
  | case6 => cases h
  | case7 => cases h
  | case8 c s _ _ _ chars' rest' found ih =>
    simp only [Except.ok.injEq, Prod.mk.injEq] at h
    obtain ⟨-, rfl⟩ := h
    have := ih found
    simp only [List.length_cons]
    omega

/-- Pass over what stands behind a backslash in a string that nobody wants: halves of pairs need
not match. -/
def skipEscape (s : List Char) : Except Fault (List Char) :=
  match s with
  | [] => .error (.before .endInString [])
  | 'u' :: rest =>
    match hexFour rest with
    | .error fault => .error fault
    | .ok (_, rest) => .ok rest
  | c :: rest =>
    match shortEscape? c with
    | some _ => .ok rest
    | none => .error (.next .invalidEscape (c :: rest))

theorem length_skipEscape {s rest : List Char} (h : skipEscape s = .ok rest) :
    rest.length < s.length := by
  unfold skipEscape at h
  split at h
  · cases h
  · split at h
    · cases h
    · next found =>
      have := length_hexFour found
      simp only [Except.ok.injEq] at h
      subst h
      simp only [List.length_cons]
      omega
  · split at h
    · simp only [Except.ok.injEq] at h
      subst h
      simp
    · cases h

/-- Pass over a string behind its opening quote. -/
def skipString (s : List Char) : Except Fault (List Char) :=
  match s with
  | [] => .error (.before .endInString [])
  | '"' :: rest => .ok rest
  | '\\' :: rest =>
    match _escaped : skipEscape rest with
    | .error fault => .error fault
    | .ok rest => skipString rest
  | c :: rest =>
    if c.toNat < 0x20 then .error (.before .controlCharacter (c :: rest)) else skipString rest
termination_by s.length
decreasing_by
  · have := length_skipEscape _escaped
    simp only [List.length_cons]
    omega
  · simp

theorem length_skipString {s rest : List Char} (h : skipString s = .ok rest) :
    rest.length < s.length := by
  fun_induction skipString s generalizing rest with
  | case1 => cases h
  | case2 s => simp only [Except.ok.injEq] at h; simp [h]
  | case3 => cases h
  | case4 s left escaped ih =>
    have := length_skipEscape escaped
    have := ih h
    simp only [List.length_cons]
    omega
  | case5 => cases h
  | case6 c s _ _ _ ih =>
    have := ih h
    simp only [List.length_cons]
    omega

end LuaBundle.Json
