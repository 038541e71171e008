import LuaBundle.Json.Number

/-! # Passing over JSON values

Values under unknown keys are passed over, but have to be well formed. The enclosures a value stands
in are kept in a list, so nesting may be as deep as it likes.
-/

namespace LuaBundle.Json

/-- What encloses a value. -/
inductive Enclosure where
  | list
  | object
  deriving Repr, DecidableEq

/-- What is wrong if a text ends inside an enclosure. -/
def Enclosure.atEnd : Enclosure → Cause
  | .list => .endInList
  | .object => .endInObject

/-- What is wrong if a value in an enclosure is followed by something else than a comma or the
enclosure's end. -/
def Enclosure.expectedEnd : Enclosure → Cause
  | .list => .expectedListEnd
  | .object => .expectedObjectEnd

/-- What closes an enclosure. -/
def Enclosure.closing : Enclosure → Char
  | .list => ']'
  | .object => '\x7d'

/-- Read the colon behind a key. -/
def colon (s : List Char) : Except Fault (List Char) :=
  match skipBlanks s with
  | [] => .error (.before .endInObject [])
  | ':' :: rest => .ok rest
  | rest => .error (.next .expectedColon rest)

theorem length_colon {s rest : List Char} (h : colon s = .ok rest) : rest.length < s.length := by
  have shorter := length_skipBlanks s
  unfold colon at h
  split at h
  · cases h
  · next skipped =>
    simp only [Except.ok.injEq] at h
    subst h
    rw [skipped, List.length_cons] at shorter
    omega
  · cases h

/-- Pass over the key that comes before a value in an object; in a list there is none. -/
def skipKey (enclosure : Enclosure) (s : List Char) : Except Fault (List Char) :=
  match enclosure with
  | .list => .ok s
  | .object =>
    match skipBlanks s with
    | [] => .error (.before .endInObject [])
    | '"' :: rest =>
      match skipString rest with
      | .error fault => .error fault
      | .ok rest => colon rest
    | rest => .error (.next .keyNotString rest)

theorem length_skipKey {enclosure : Enclosure} {s rest : List Char}
    (h : skipKey enclosure s = .ok rest) : rest.length ≤ s.length := by
  have shorter := length_skipBlanks s
  unfold skipKey at h
  split at h
  · simp only [Except.ok.injEq] at h
    simp [h]
  · split at h
    · cases h
    · next skipped =>
      rw [skipped] at shorter
      split at h
      · cases h
      · next found =>
        have := length_skipString found
        have := length_colon h
        simp only [List.length_cons] at shorter
        omega
    · cases h

/-- Pass over a value that is neither a list nor an object, or over the start of one that is. -/
def skipStart (s : List Char) : Except Fault (Option Enclosure × List Char) :=
  match s with
  | [] => .error (.before .endInValue [])
  | 'n' :: rest => (readWord ['u', 'l', 'l'] rest).map ((none, ·))
  | 't' :: rest => (readWord ['r', 'u', 'e'] rest).map ((none, ·))
  | 'f' :: rest => (readWord ['a', 'l', 's', 'e'] rest).map ((none, ·))
  | '-' :: rest => (skipNumber rest).map ((none, ·))
  | '"' :: rest => (skipString rest).map ((none, ·))
  | '[' :: rest => .ok (some .list, rest)
  | '\x7b' :: rest => .ok (some .object, rest)
  | c :: rest =>
    if isDigit c then (skipNumber (c :: rest)).map ((none, ·))
    else .error (.next .expectedValue (c :: rest))

theorem length_map_ok {r : Except Fault (List Char)} {found : Option Enclosure}
    {rest : List Char} (h : r.map ((none, ·)) = .ok (found, rest)) : r = .ok rest := by
  cases r with
  | error fault => cases h
  | ok left =>
    simp only [Except.map, Except.ok.injEq, Prod.mk.injEq] at h
    rw [h.2]

theorem length_skipStart {s rest : List Char} {found : Option Enclosure}
    (h : skipStart s = .ok (found, rest)) : rest.length < s.length := by
  unfold skipStart at h
  split at h
  · cases h
  · have := length_readWord (length_map_ok h); simp only [List.length_cons]; omega
  · have := length_readWord (length_map_ok h); simp only [List.length_cons]; omega
  · have := length_readWord (length_map_ok h); simp only [List.length_cons]; omega
  · have := length_skipNumber (length_map_ok h); simp only [List.length_cons]; omega
  · have := length_skipString (length_map_ok h); simp only [List.length_cons]; omega
  · simp only [Except.ok.injEq, Prod.mk.injEq] at h; simp [h.2]
  · simp only [Except.ok.injEq, Prod.mk.injEq] at h; simp [h.2]
  · split at h
    · exact length_skipNumber (length_map_ok h)
    · cases h

/-- Where passing over a value stands. -/
inductive SkipState where
  /-- A value comes next. -/
  | value
  /-- A list or an object was just opened and may be empty. -/
  | opened
  /-- A value inside an enclosure, or the whole value, was just passed. -/
  | passed
  deriving Repr, DecidableEq

/-- The order in which the states follow each other without anything being read. -/
def SkipState.rank : SkipState → Nat
  | .value => 0
  | .opened => 1
  | .passed => 0

/-- Pass over a value that stands inside the given enclosures, innermost first. -/
def skipFrom (state : SkipState) (enclosures : List Enclosure) (s : List Char) :
    Except Fault (List Char) :=
  match state with
  | .value =>
    match _start : skipStart (skipBlanks s) with
    | .error fault => .error fault
    | .ok (none, rest) => skipFrom .passed enclosures rest
    | .ok (some enclosure, rest) => skipFrom .opened (enclosure :: enclosures) rest
  | .opened =>
    match enclosures with
    | [] => .ok s
    | enclosure :: outer =>
      match _skipped : skipBlanks s with
      | [] => .error (.before enclosure.atEnd [])
      | c :: rest =>
        if c = enclosure.closing then skipFrom .passed outer rest
        else
          match _key : skipKey enclosure (c :: rest) with
          | .error fault => .error fault
          | .ok rest => skipFrom .value enclosures rest
  | .passed =>
    match enclosures with
    | [] => .ok s
    | enclosure :: outer =>
      match _skipped : skipBlanks s with
      | [] => .error (.before enclosure.atEnd [])
      | c :: rest =>
        if c = enclosure.closing then skipFrom .passed outer rest
        else if c = ',' then
          match _key : skipKey enclosure rest with
          | .error fault => .error fault
          | .ok rest => skipFrom .value enclosures rest
        else .error (.next enclosure.expectedEnd (c :: rest))
termination_by (s.length, state.rank)
decreasing_by
  all_goals have shorter := length_skipBlanks s
  · have := length_skipStart _start
    exact .left _ _ (by omega)
  · have := length_skipStart _start
    exact .left _ _ (by omega)
  · rw [_skipped, List.length_cons] at shorter
    exact .left _ _ (by omega)
  · rw [_skipped] at shorter
    have := length_skipKey _key
    rcases Nat.lt_or_eq_of_le (Nat.le_trans this shorter) with less | same
    · exact .left _ _ less
    · simp only [← same]
      exact .right _ (by decide)
  · rw [_skipped, List.length_cons] at shorter
    exact .left _ _ (by omega)
  · rw [_skipped, List.length_cons] at shorter
    have := length_skipKey _key
    exact .left _ _ (by omega)

/-- Pass over a value. -/
def skipValue (s : List Char) : Except Fault (List Char) :=
  skipFrom .value [] s

theorem length_skipFrom {state : SkipState} {enclosures : List Enclosure} {s rest : List Char}
    (h : skipFrom state enclosures s = .ok rest) : rest.length ≤ s.length := by
  fun_induction skipFrom state enclosures s with
  | case1 => cases h
  | case2 enclosures s left start ih =>
    have := length_skipBlanks s
    have := length_skipStart start
    have := ih h
    omega
  | case3 enclosures s enclosure left start ih =>
    have := length_skipBlanks s
    have := length_skipStart start
    have := ih h
    omega
  | case4 => simp only [Except.ok.injEq] at h; simp [h]
  | case5 => cases h
  | case6 s enclosure outer left skipped ih =>
    have shorter := length_skipBlanks s
    rw [skipped, List.length_cons] at shorter
    have := ih h
    omega
  | case7 => cases h
  | case8 s enclosure outer c left skipped _ left' key ih =>
    have shorter := length_skipBlanks s
    rw [skipped] at shorter
    have := length_skipKey key
    have := ih h
    omega
  | case9 => simp only [Except.ok.injEq] at h; simp [h]
  | case10 => cases h
  | case11 s enclosure outer left skipped ih =>
    have shorter := length_skipBlanks s
    rw [skipped, List.length_cons] at shorter
    have := ih h
    omega
  | case12 => cases h
  | case13 s enclosure outer left left' key skipped _ ih =>
    have shorter := length_skipBlanks s
    rw [skipped, List.length_cons] at shorter
    have := length_skipKey key
    have := ih h
    omega
  | case14 => cases h

end LuaBundle.Json
