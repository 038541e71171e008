import LuaBundle.Decimal.Shortest
import LuaBundle.Json.Scan

/-! # Numbers of a JSON text

A number without fraction and exponent that fits into 64 bits is an integer. Any other is rounded to
a double, which messages show in the shortest form that reads back.
-/

namespace LuaBundle.Json

/-- The largest magnitude of a negative integer of 64 bits. -/
def magnitudeLimit : Nat :=
  9223372036854775808

/-- Exponents from here on do not fit into a word of 32 bits with a sign. -/
def exponentLimit : Nat :=
  2147483648

/-- Append digits to a number as long as it fits into 64 bits: the number, how many digits were
taken, and how many were left out. -/
def takeDigits (significand : Nat) : List Char → Nat × Nat × Nat
  | [] => (significand, 0, 0)
  | c :: digits =>
    let next := significand * 10 + (c.toNat - '0'.toNat)
    if UInt64.size ≤ next then (significand, 0, digits.length + 1)
    else
      let (significand, taken, left) := takeDigits next digits
      (significand, taken + 1, left)

/-- Divide a double by `10 ^ -exponent` or multiply it by `10 ^ exponent`, or say that the result is
out of range. -/
def scaleFloat? (value : Float) (exponent : Int) : Option Float :=
  if _far : exponent < -308 then
    if value == 0 then some value else scaleFloat? (value / 1e308) (exponent + 308)
  else if exponent < 0 then some (value / Float.ofScientific 1 false exponent.natAbs)
  else if exponent ≤ 308 then
    let scaled := value * Float.ofScientific 1 false exponent.natAbs
    if scaled.isInf then none else some scaled
  else if value == 0 then some value
  else none
termination_by (-exponent).toNat
decreasing_by omega

/-- The number `significand * 10 ^ exponent` as it is found in a text. -/
def decimalFound (negative : Bool) (significand : Nat) (exponent : Int) (rest : List Char) :
    Except Fault (Found × List Char) :=
  match scaleFloat? (UInt64.ofNat significand).toFloat exponent with
  | none => .error (.before .numberOutOfRange rest)
  | some value => .ok (.decimal (Decimal.ofFloat (if negative then -value else value)), rest)

/-- An exponent that goes up or down from another. -/
def moveExponent (start : Int) (down : Bool) (exponent : Nat) : Int :=
  if down then start - exponent else start + exponent

/-- Read the sign of an exponent: whether it goes down, and what is left. -/
def exponentSign : List Char → Bool × List Char
  | '+' :: rest => (false, rest)
  | '-' :: rest => (true, rest)
  | s => (false, s)

/-- Read the digits of an exponent behind its first. -/
def exponentDigits (negative : Bool) (significand : Nat) (start : Int) (down : Bool)
    (exponent : Nat) : List Char → Except Fault (Found × List Char)
  | [] => decimalFound negative significand (moveExponent start down exponent) []
  | c :: rest =>
    if isDigit c then
      let next := exponent * 10 + (c.toNat - '0'.toNat)
      if exponentLimit ≤ next then
        if significand ≠ 0 ∧ ¬ down then .error (.before .numberOutOfRange rest)
        else
          .ok (.decimal (Decimal.ofFloat (if negative then -0.0 else 0.0)),
            rest.dropWhile isDigit)
      else exponentDigits negative significand start down next rest
    else decimalFound negative significand (moveExponent start down exponent) (c :: rest)

/-- Read an exponent behind its letter. -/
def exponentPart (negative : Bool) (significand : Nat) (start : Int) (s : List Char) :
    Except Fault (Found × List Char) :=
  match exponentSign s with
  | (_, []) => .error (.before .endInValue [])
  | (down, c :: rest) =>
    if isDigit c then
      exponentDigits negative significand start down (c.toNat - '0'.toNat) rest
    else .error (.next .invalidNumber (c :: rest))

/-- Read a fraction behind its point. -/
def fractionPart (negative : Bool) (significand : Nat) (start : Int) (s : List Char) :
    Except Fault (Found × List Char) :=
  match s.takeWhile isDigit, s.dropWhile isDigit with
  | [], [] => .error (.before .endInValue [])
  | [], rest => .error (.next .invalidNumber rest)
  | digits, rest =>
    let (significand, taken, _) := takeDigits significand digits
    match rest with
    | 'e' :: rest => exponentPart negative significand (start - taken) rest
    | 'E' :: rest => exponentPart negative significand (start - taken) rest
    | rest => decimalFound negative significand (start - taken) rest

/-- Read what follows the whole part of a number, of which `left` digits did not fit. -/
def afterWhole (negative : Bool) (significand left : Nat) (s : List Char) :
    Except Fault (Found × List Char) :=
  match s with
  | '.' :: rest => fractionPart negative significand left rest
  | 'e' :: rest => exponentPart negative significand left rest
  | 'E' :: rest => exponentPart negative significand left rest
  | rest =>
    if left ≠ 0 then decimalFound negative significand left rest
    else if ¬ negative then .ok (.integer significand, rest)
    else if significand = 0 ∨ magnitudeLimit < significand then
      decimalFound negative significand 0 rest
    else .ok (.integer (-significand), rest)

/-- Read a number behind its sign. A number with a fraction or an exponent, a negative zero and a
number that does not fit into 64 bits are no integers. -/
def readNumber (negative : Bool) (s : List Char) : Except Fault (Found × List Char) :=
  match s with
  | [] => .error (.before .endInValue [])
  | '0' :: rest =>
    match rest with
    | c :: _ =>
      if isDigit c then .error (.next .invalidNumber rest) else afterWhole negative 0 0 rest
    | [] => afterWhole negative 0 0 []
  | c :: rest =>
    if isDigit c then
      let (significand, _, left) := takeDigits 0 ((c :: rest).takeWhile isDigit)
      afterWhole negative significand left (rest.dropWhile isDigit)
    else .error (.next .invalidNumber (c :: rest))

theorem length_dropDigits (s : List Char) : (s.dropWhile isDigit).length ≤ s.length :=
  (List.dropWhile_suffix _).length_le

theorem length_decimalFound {negative : Bool} {significand : Nat} {exponent : Int}
    {s rest : List Char} {found : Found}
    (h : decimalFound negative significand exponent s = .ok (found, rest)) :
    rest.length ≤ s.length := by
  unfold decimalFound at h
  split at h
  · cases h
  · simp only [Except.ok.injEq, Prod.mk.injEq] at h
    simp [h.2]

theorem length_exponentDigits {negative down : Bool} {significand exponent : Nat} {start : Int}
    {s rest : List Char} {found : Found}
    (h : exponentDigits negative significand start down exponent s = .ok (found, rest)) :
    rest.length ≤ s.length := by
  induction s generalizing exponent with
  | nil => exact length_decimalFound h
  | cons c s ih =>
    simp only [exponentDigits] at h
    split at h
    · split at h
      · split at h
        · cases h
        · simp only [Except.ok.injEq, Prod.mk.injEq] at h
          obtain ⟨-, rfl⟩ := h
          have := length_dropDigits s
          simp only [List.length_cons]
          omega
      · have := ih h
        simp only [List.length_cons]
        omega
    · exact length_decimalFound h

theorem length_exponentSign (s : List Char) : (exponentSign s).2.length ≤ s.length := by
  unfold exponentSign
  split <;> simp

theorem length_exponentPart {negative : Bool} {significand : Nat} {start : Int}
    {s rest : List Char} {found : Found}
    (h : exponentPart negative significand start s = .ok (found, rest)) :
    rest.length ≤ s.length := by
  have shorter := length_exponentSign s
  unfold exponentPart at h
  split at h
  · cases h
  · next signed =>
    rw [signed] at shorter
    split at h
    · have := length_exponentDigits h
      simp only [List.length_cons] at shorter
      omega
    · cases h

theorem length_fractionPart {negative : Bool} {significand : Nat} {start : Int}
    {s rest : List Char} {found : Found}
    (h : fractionPart negative significand start s = .ok (found, rest)) :
    rest.length ≤ s.length := by
  have shorter := length_dropDigits s
  unfold fractionPart at h
  split at h
  · cases h
  · cases h
  · simp only at h
    split at h
    · next dropped =>
      rw [dropped] at shorter
      have := length_exponentPart h
      simp only [List.length_cons] at shorter
      omega
    · next dropped =>
      rw [dropped] at shorter
      have := length_exponentPart h
      simp only [List.length_cons] at shorter
      omega
    · have := length_decimalFound h
      omega

theorem length_afterWhole {negative : Bool} {significand left : Nat} {s rest : List Char}
    {found : Found} (h : afterWhole negative significand left s = .ok (found, rest)) :
    rest.length ≤ s.length := by
  unfold afterWhole at h
  split at h
  · have := length_fractionPart h
    simp only [List.length_cons]
    omega
  · have := length_exponentPart h
    simp only [List.length_cons]
    omega
  · have := length_exponentPart h
    simp only [List.length_cons]
    omega
  · split at h
    · exact length_decimalFound h
    · split at h
      · simp only [Except.ok.injEq, Prod.mk.injEq] at h
        simp [h.2]
      · split at h
        · exact length_decimalFound h
        · simp only [Except.ok.injEq, Prod.mk.injEq] at h
          simp [h.2]

theorem length_readNumber {negative : Bool} {s rest : List Char} {found : Found}
    (h : readNumber negative s = .ok (found, rest)) : rest.length < s.length := by
  unfold readNumber at h
  split at h
  · cases h
  · split at h
    · split at h
      · cases h
      · have := length_afterWhole h
        simp only [List.length_cons] at this ⊢
        omega
    · have := length_afterWhole h
      simp only [List.length_cons, List.length_nil] at this ⊢
      omega
  · next s _ =>
    split at h
    · have := length_afterWhole h
      have := length_dropDigits s
      simp only [List.length_cons]
      omega
    · cases h

/-- Pass over the digits of an exponent behind its letter. -/
def skipExponent (s : List Char) : Except Fault (List Char) :=
  match (exponentSign s).2 with
  | [] => .error (.before .invalidNumber [])
  | c :: rest =>
    if isDigit c then .ok (rest.dropWhile isDigit) else .error (.next .invalidNumber (c :: rest))

/-- Pass over a fraction behind its point. -/
def skipFraction (s : List Char) : Except Fault (List Char) :=
  match s.takeWhile isDigit, s.dropWhile isDigit with
  | [], rest => .error (.next .invalidNumber rest)
  | _, 'e' :: rest => skipExponent rest
  | _, 'E' :: rest => skipExponent rest
  | _, rest => .ok rest

/-- Pass over what follows the whole part of a number. -/
def skipAfterWhole (s : List Char) : Except Fault (List Char) :=
  match s with
  | '.' :: rest => skipFraction rest
  | 'e' :: rest => skipExponent rest
  | 'E' :: rest => skipExponent rest
  | rest => .ok rest

/-- Pass over a number behind its sign; nobody wants it, so it may be of any size. -/
def skipNumber (s : List Char) : Except Fault (List Char) :=
  match s with
  | [] => .error (.before .invalidNumber [])
  | '0' :: rest =>
    match rest with
    | c :: _ => if isDigit c then .error (.next .invalidNumber rest) else skipAfterWhole rest
    | [] => .ok []
  | c :: rest =>
    if isDigit c then skipAfterWhole (rest.dropWhile isDigit)
    else .error (.next .invalidNumber (c :: rest))

theorem length_skipExponent {s rest : List Char} (h : skipExponent s = .ok rest) :
    rest.length ≤ s.length := by
  have shorter := length_exponentSign s
  unfold skipExponent at h
  split at h
  · cases h
  · next left signed =>
    rw [signed] at shorter
    split at h
    · have := length_dropDigits left
      simp only [Except.ok.injEq] at h
      subst h
      simp only [List.length_cons] at shorter
      omega
    · cases h

theorem length_skipFraction {s rest : List Char} (h : skipFraction s = .ok rest) :
    rest.length ≤ s.length := by
  have shorter := length_dropDigits s
  unfold skipFraction at h
  split at h
  · cases h
  · next dropped _ =>
    have := length_skipExponent h
    rw [dropped] at shorter
    simp only [List.length_cons] at shorter
    omega
  · next dropped _ =>
    have := length_skipExponent h
    rw [dropped] at shorter
    simp only [List.length_cons] at shorter
    omega
  · simp only [Except.ok.injEq] at h
    subst h
    exact shorter

theorem length_skipAfterWhole {s rest : List Char} (h : skipAfterWhole s = .ok rest) :
    rest.length ≤ s.length := by
  unfold skipAfterWhole at h
  split at h
  · have := length_skipFraction h
    simp only [List.length_cons]
    omega
  · have := length_skipExponent h
    simp only [List.length_cons]
    omega
  · have := length_skipExponent h
    simp only [List.length_cons]
    omega
  · simp only [Except.ok.injEq] at h
    simp [h]

theorem length_skipNumber {s rest : List Char} (h : skipNumber s = .ok rest) :
    rest.length < s.length := by
  unfold skipNumber at h
  split at h
  · cases h
  · split at h
    · split at h
      · cases h
      · have := length_skipAfterWhole h
        simp only [List.length_cons] at this ⊢
        omega
    · simp only [Except.ok.injEq] at h
      simp [← h]
  · next s _ =>
    split at h
    · have := length_skipAfterWhole h
      have := length_dropDigits s
      simp only [List.length_cons]
      omega
    · cases h

end LuaBundle.Json
