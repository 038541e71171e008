import LuaBundle.Proofs.Json.Reading

/-! # Values that are passed over

A value that nobody wants is passed over whatever it is. `IsValue` says which texts are values:
words, numbers with any fraction and exponent, strings with any escapes, and lists and objects of
values with blanks wherever they may stand. The reader keeps the enclosures it stands in and takes
their members one after the other, so passing a value leads from the state in front of it to the
state behind it, in whatever enclosures it stands.
-/

namespace LuaBundle.Json

/-! ## Numbers -/

/-- The whole part of a number: a zero alone, or digits that do not start with one. -/
inductive IsWhole : List Char → Prop
  | zero : IsWhole ['0']
  | digits {c : Char} {more : List Char} : isDigit c = true → c ≠ '0' →
      (∀ d ∈ more, isDigit d = true) → IsWhole (c :: more)

/-- The fraction of a number, which it need not have. -/
inductive IsFraction : List Char → Prop
  | none : IsFraction []
  | digits {c : Char} {more : List Char} : isDigit c = true → (∀ d ∈ more, isDigit d = true) →
      IsFraction ('.' :: c :: more)

/-- The exponent of a number, which it need not have. -/
inductive IsExponent : List Char → Prop
  | none : IsExponent []
  | digits {letter c : Char} {sign more : List Char} : letter = 'e' ∨ letter = 'E' →
      sign ∈ [[], ['+'], ['-']] → isDigit c = true → (∀ d ∈ more, isDigit d = true) →
      IsExponent (letter :: (sign ++ c :: more))

/-- A number. -/
inductive IsNumber : List Char → Prop
  | mk {sign whole fraction exponent : List Char} : sign ∈ [[], ['-']] → IsWhole whole →
      IsFraction fraction → IsExponent exponent →
      IsNumber (sign ++ (whole ++ (fraction ++ exponent)))

/-- A number does not go on here. -/
def EndsNumber (s : List Char) : Prop :=
  ∀ c ∈ s.head?, isDigit c = false ∧ c ≠ '.' ∧ c ≠ 'e' ∧ c ≠ 'E'

theorem Delimited.endsNumber {s : List Char} (delimited : Delimited s) : EndsNumber s := by
  intro c first
  rcases delimited c first with blank | rfl | rfl | rfl
  · simp only [isGap, Bool.or_eq_true, beq_iff_eq] at blank
    rcases blank with ((rfl | rfl) | rfl) | rfl <;> decide
  · decide
  · decide
  · decide

section Numbers

variable {c : Char} {more whole fraction exponent rest : List Char}

theorem dropWhile_digits (digits : ∀ d ∈ more, isDigit d = true)
    (ended : ∀ c ∈ rest.head?, isDigit c = false) :
    (more ++ rest).dropWhile isDigit = rest := by
  rw [List.dropWhile_append_of_pos digits]
  cases rest with
  | nil => rfl
  | cons c rest => exact List.dropWhile_cons_of_neg (by simp [ended c rfl])

theorem takeWhile_digits (digits : ∀ d ∈ more, isDigit d = true)
    (ended : ∀ c ∈ rest.head?, isDigit c = false) :
    (more ++ rest).takeWhile isDigit = more := by
  rw [List.takeWhile_append_of_pos digits]
  cases rest with
  | nil => simp
  | cons c rest => simp [ended c rfl]

theorem skipExponent_digits {sign : List Char} (signed : sign ∈ [[], ['+'], ['-']])
    (digit : isDigit c = true) (digits : ∀ d ∈ more, isDigit d = true) (ended : EndsNumber rest) :
    skipExponent (sign ++ c :: (more ++ rest)) = .ok rest := by
  have unsigned : (exponentSign (sign ++ c :: (more ++ rest))).2 = c :: (more ++ rest) := by
    simp only [List.mem_cons, List.not_mem_nil, or_false] at signed
    rcases signed with rfl | rfl | rfl
    · have plus : c ≠ '+' := by rintro rfl; cases digit
      have minus : c ≠ '-' := by rintro rfl; cases digit
      rw [List.nil_append, exponentSign]
      · intro _ same
        exact plus (List.cons.inj same).1
      · intro _ same
        exact minus (List.cons.inj same).1
    · rfl
    · rfl
  simp only [skipExponent, unsigned, digit, if_true,
    dropWhile_digits digits fun c first => (ended c first).1]

/-- An exponent is nothing, or begins with its letter and is passed behind it. -/
theorem exponent_cases (isExponent : IsExponent exponent) (ended : EndsNumber rest) :
    exponent = [] ∨ ∃ letter s, exponent ++ rest = letter :: s ∧ (letter = 'e' ∨ letter = 'E') ∧
      skipExponent s = .ok rest := by
  cases isExponent with
  | none => exact .inl rfl
  | @digits letter c sign more letters signed digit digits =>
      refine .inr ⟨letter, sign ++ c :: (more ++ rest), by simp, letters, ?_⟩
      exact skipExponent_digits signed digit digits ended

theorem head_exponent (isExponent : IsExponent exponent) (ended : EndsNumber rest) :
    ∀ d ∈ (exponent ++ rest).head?, isDigit d = false := by
  rcases exponent_cases isExponent ended with rfl | ⟨letter, s, spelled, letters, -⟩
  · exact fun d first => (ended d first).1
  · rw [spelled]
    rcases letters with rfl | rfl <;> simp [isDigit]

theorem skipFraction_digits (digit : isDigit c = true) (digits : ∀ d ∈ more, isDigit d = true)
    (isExponent : IsExponent exponent) (ended : EndsNumber rest) :
    skipFraction (c :: (more ++ (exponent ++ rest))) = .ok rest := by
  have all : ∀ d ∈ c :: more, isDigit d = true := List.forall_mem_cons.2 ⟨digit, digits⟩
  have undigit := head_exponent isExponent ended
  rw [skipFraction, ← List.cons_append, takeWhile_digits all undigit, dropWhile_digits all undigit]
  rcases exponent_cases isExponent ended with rfl | ⟨letter, s, spelled, letters, passed⟩
  · rw [List.nil_append]
    split
    · next bad => cases bad
    · exact absurd rfl (ended _ rfl).2.2.1
    · exact absurd rfl (ended _ rfl).2.2.2
    · rfl
  · rw [spelled]
    rcases letters with rfl | rfl <;> exact passed

/-- Behind the whole part of a number, its fraction and its exponent are passed. -/
theorem skipAfterWhole_eq (isFraction : IsFraction fraction) (isExponent : IsExponent exponent)
    (ended : EndsNumber rest) : skipAfterWhole (fraction ++ (exponent ++ rest)) = .ok rest := by
  cases isFraction with
  | digits digit digits => exact skipFraction_digits digit digits isExponent ended
  | none =>
      rw [List.nil_append]
      rcases exponent_cases isExponent ended with rfl | ⟨letter, s, spelled, letters, passed⟩
      · rw [List.nil_append]
        unfold skipAfterWhole
        split
        · exact absurd rfl (ended _ rfl).2.1
        · exact absurd rfl (ended _ rfl).2.2.1
        · exact absurd rfl (ended _ rfl).2.2.2
        · rfl
      · rw [spelled]
        rcases letters with rfl | rfl <;> exact passed

theorem head_fraction (isFraction : IsFraction fraction) (isExponent : IsExponent exponent)
    (ended : EndsNumber rest) :
    ∀ d ∈ (fraction ++ (exponent ++ rest)).head?, isDigit d = false := by
  cases isFraction with
  | digits _ _ => simp [isDigit]
  | none =>
      rw [List.nil_append]
      exact head_exponent isExponent ended

theorem skipNumber_eq (isWhole : IsWhole whole) (isFraction : IsFraction fraction)
    (isExponent : IsExponent exponent) (ended : EndsNumber rest) :
    skipNumber (whole ++ (fraction ++ (exponent ++ rest))) = .ok rest := by
  have behind := skipAfterWhole_eq isFraction isExponent ended
  have undigit := head_fraction isFraction isExponent ended
  generalize fraction ++ (exponent ++ rest) = tail at behind undigit
  cases isWhole with
  | zero =>
      cases tail with
      | nil => simpa [skipNumber, skipAfterWhole] using behind
      | cons c tail => simp [skipNumber, undigit c rfl, behind]
  | digits digit unzero digits =>
      rw [List.cons_append, skipNumber, if_pos digit, dropWhile_digits digits undigit, behind]
      exact unzero

end Numbers

/-! ## Strings -/

/-- A digit of a number in base sixteen. -/
def isHexDigit (c : Char) : Bool :=
  isDigit c || ('a' ≤ c && c ≤ 'f') || ('A' ≤ c && c ≤ 'F')

/-- What may stand between the quotes of a string. -/
inductive IsStringBody : List Char → Prop
  | nil : IsStringBody []
  | plain {c : Char} {s : List Char} : 0x20 ≤ c.toNat → c ≠ '"' → c ≠ '\\' → IsStringBody s →
      IsStringBody (c :: s)
  | short {c : Char} {s : List Char} : c ∈ ['"', '\\', '/', 'b', 'f', 'n', 'r', 't'] →
      IsStringBody s → IsStringBody ('\\' :: c :: s)
  | code {a b c d : Char} {s : List Char} : (∀ digit ∈ [a, b, c, d], isHexDigit digit = true) →
      IsStringBody s → IsStringBody ('\\' :: 'u' :: a :: b :: c :: d :: s)

theorem exists_hexValue? {c : Char} (digit : isHexDigit c = true) : ∃ n, hexValue? c = some n := by
  unfold hexValue?
  split
  · exact ⟨_, rfl⟩
  · next decimal =>
      split
      · exact ⟨_, rfl⟩
      · next low =>
          split
          · exact ⟨_, rfl⟩
          · next high => simp [isHexDigit, decimal, low, high] at digit

theorem exists_hexFour {a b c d : Char} (digits : ∀ digit ∈ [a, b, c, d], isHexDigit digit = true)
    (rest : List Char) : ∃ n, hexFour (a :: b :: c :: d :: rest) = .ok (n, rest) := by
  obtain ⟨_, first⟩ := exists_hexValue? (digits a (by simp))
  obtain ⟨_, second⟩ := exists_hexValue? (digits b (by simp))
  obtain ⟨_, third⟩ := exists_hexValue? (digits c (by simp))
  obtain ⟨_, fourth⟩ := exists_hexValue? (digits d (by simp))
  exact ⟨_, hexFour_eq first second third fourth rest⟩

theorem skipString_of_skipEscape {s rest : List Char} (escaped : skipEscape s = .ok rest) :
    skipString ('\\' :: s) = skipString rest := by
  rw [skipString]
  split
  · next failed =>
      rw [escaped] at failed
      cases failed
  · next found =>
      rw [escaped] at found
      cases found
      rfl

/-- A string is passed up to its closing quote. -/
theorem skipString_body {body : List Char} (isBody : IsStringBody body) (rest : List Char) :
    skipString (body ++ '"' :: rest) = .ok rest := by
  induction isBody with
  | nil => rw [List.nil_append, skipString]
  | plain visible mark slash _ ih =>
      rw [List.cons_append, skipString, if_neg (Nat.not_lt.2 visible), ih]
      · exact mark
      · exact slash
  | @short c s known _ ih =>
      have escaped : skipEscape (c :: (s ++ '"' :: rest)) = .ok (s ++ '"' :: rest) := by
        simp only [List.mem_cons, List.not_mem_nil, or_false] at known
        rcases known with rfl | rfl | rfl | rfl | rfl | rfl | rfl | rfl <;> rfl
      rw [List.cons_append, List.cons_append, skipString_of_skipEscape escaped, ih]
  | @code a b c d s digits _ ih =>
      obtain ⟨n, read⟩ := exists_hexFour digits (s ++ '"' :: rest)
      have escaped : skipEscape ('u' :: a :: b :: c :: d :: (s ++ '"' :: rest)) =
          .ok (s ++ '"' :: rest) := by
        simp only [skipEscape, read]
      simp only [List.cons_append]
      rw [skipString_of_skipEscape escaped, ih]

/-! ## Values -/

/-- What opens an enclosure. -/
def Enclosure.opening : Enclosure → Char
  | .list => '['
  | .object => '\x7b'

/-- What stands before a value in an enclosure: in an object a key with its colon, and in a list
nothing. -/
inductive Enclosure.IsKey : Enclosure → List Char → Prop
  | list : IsKey .list []
  | object {body between pad : List Char} : IsStringBody body → Gap between → Gap pad →
      IsKey .object ('"' :: (body ++ '"' :: (between ++ ':' :: pad)))

/-- One of the values in an enclosure, with its key and the blanks on both sides. -/
structure Member where
  before : List Char
  key : List Char
  value : List Char
  behind : List Char

def Member.text (member : Member) : List Char :=
  member.before ++ (member.key ++ (member.value ++ member.behind))

/-- The texts that are a JSON value. -/
inductive IsValue : List Char → Prop
  | null : IsValue "null".toList
  | bool (value : Bool) : IsValue (renderBool value)
  | number {s : List Char} : IsNumber s → IsValue s
  | string {body : List Char} : IsStringBody body → IsValue ('"' :: (body ++ ['"']))
  | empty (enclosure : Enclosure) {gap : List Char} : Gap gap →
      IsValue (enclosure.opening :: (gap ++ [enclosure.closing]))
  | filled (enclosure : Enclosure) {first : Member} {more : List Member} :
      (∀ member ∈ first :: more, Gap member.before ∧ Gap member.behind) →
      (∀ member ∈ first :: more, enclosure.IsKey member.key) →
      (∀ member ∈ first :: more, IsValue member.value) →
      IsValue (enclosure.opening :: (first.text ++
        (more.flatMap (fun member => ',' :: member.text) ++ [enclosure.closing])))

/-! ## Passing over -/

section Passing

variable {enclosure : Enclosure} {enclosures outer : List Enclosure} {s rest more : List Char}
  {c : Char}

theorem skipFrom_of_scalar (start : skipStart (skipBlanks s) = .ok (none, rest)) :
    skipFrom .value enclosures s = skipFrom .passed enclosures rest := by
  rw [skipFrom]
  split
  · next failed =>
      rw [start] at failed
      cases failed
  · next found =>
      rw [start] at found
      cases found
      rfl
  · next found =>
      rw [start] at found
      cases found

theorem skipFrom_of_opening (start : skipStart (skipBlanks s) = .ok (some enclosure, rest)) :
    skipFrom .value enclosures s = skipFrom .opened (enclosure :: enclosures) rest := by
  rw [skipFrom]
  split
  · next failed =>
      rw [start] at failed
      cases failed
  · next found =>
      rw [start] at found
      cases found
  · next found =>
      rw [start] at found
      cases found
      rfl

theorem skipFrom_opened_end (skipped : skipBlanks s = enclosure.closing :: rest) :
    skipFrom .opened (enclosure :: outer) s = skipFrom .passed outer rest := by
  rw [skipFrom]
  split
  · next found =>
      rw [skipped] at found
      cases found
  · next found =>
      rw [skipped] at found
      cases found
      exact if_pos rfl

theorem skipFrom_opened_member (skipped : skipBlanks s = c :: more) (other : c ≠ enclosure.closing)
    (key : skipKey enclosure (c :: more) = .ok rest) :
    skipFrom .opened (enclosure :: outer) s = skipFrom .value (enclosure :: outer) rest := by
  -- On the right stands the same function, one step on, so only the left side is opened.
  conv => lhs; rw [skipFrom]
  split
  · next found =>
      rw [skipped] at found
      cases found
  · next found =>
      rw [skipped] at found
      cases found
      rw [if_neg other]
      split
      · next failed =>
          rw [key] at failed
          cases failed
      · next found =>
          rw [key] at found
          cases found
          rfl

theorem skipFrom_passed_end (skipped : skipBlanks s = enclosure.closing :: rest) :
    skipFrom .passed (enclosure :: outer) s = skipFrom .passed outer rest := by
  conv => lhs; rw [skipFrom]
  split
  · next found =>
      rw [skipped] at found
      cases found
  · next found =>
      rw [skipped] at found
      cases found
      exact if_pos rfl

theorem skipFrom_passed_comma (skipped : skipBlanks s = ',' :: more)
    (key : skipKey enclosure more = .ok rest) :
    skipFrom .passed (enclosure :: outer) s = skipFrom .value (enclosure :: outer) rest := by
  have other : ',' ≠ enclosure.closing := by cases enclosure <;> decide
  conv => lhs; rw [skipFrom]
  split
  · next found =>
      rw [skipped] at found
      cases found
  · next found =>
      rw [skipped] at found
      cases found
      rw [if_neg other, if_pos rfl]
      split
      · next failed =>
          rw [key] at failed
          cases failed
      · next found =>
          rw [key] at found
          cases found
          rfl

/-- A key is passed with the blanks before it, up to blanks in front of the value. -/
theorem skipKey_eq {before key : List Char} (blank : Gap before) (isKey : enclosure.IsKey key)
    (s : List Char) :
    ∃ pad, Gap pad ∧ skipKey enclosure (before ++ (key ++ s)) = .ok (pad ++ s) := by
  cases isKey with
  | list => exact ⟨before, blank, rfl⟩
  | @object body between pad isBody blankBetween blankPad =>
      have quoted := skipBlanks_cons (c := '"') blank rfl
        (body ++ '"' :: (between ++ ':' :: (pad ++ s)))
      have reached : skipBlanks (between ++ ':' :: (pad ++ s)) = ':' :: (pad ++ s) :=
        skipBlanks_cons blankBetween rfl _
      refine ⟨pad, blankPad, ?_⟩
      simp only [List.append_assoc, List.cons_append, skipKey, quoted, skipString_body isBody,
        colon, reached]

/-- A value in an enclosure does not start like a blank or like an end. -/
def Starts (s : List Char) : Prop :=
  ∃ c more, s = c :: more ∧ isGap c = false ∧ ∀ enclosure : Enclosure, c ≠ enclosure.closing

theorem isGap_of_isDigit (digit : isDigit c = true) : isGap c = false := by
  rw [Bool.eq_false_iff]
  intro blank
  simp only [isGap, Bool.or_eq_true, beq_iff_eq] at blank
  rcases blank with ((rfl | rfl) | rfl) | rfl <;> cases digit

theorem starts_digit (digit : isDigit c = true) (s : List Char) : Starts (c :: s) := by
  refine ⟨c, s, rfl, isGap_of_isDigit digit, ?_⟩
  rintro (_ | _) rfl <;> cases digit

theorem IsWhole.head {whole : List Char} (isWhole : IsWhole whole) :
    ∃ c more, whole = c :: more ∧ isDigit c = true := by
  cases isWhole with
  | zero => exact ⟨'0', [], rfl, rfl⟩
  | digits digit _ _ => exact ⟨_, _, rfl, digit⟩

theorem starts_of_isValue {text : List Char} (isValue : IsValue text) : Starts text := by
  have plain : ∀ c ∈ ['n', 't', 'f', '-', '"', '[', '\x7b'], ∀ s, Starts (c :: s) := by
    intro c mem s
    simp only [List.mem_cons, List.not_mem_nil, or_false] at mem
    rcases mem with rfl | rfl | rfl | rfl | rfl | rfl | rfl
    all_goals exact ⟨_, s, rfl, rfl, by rintro (_ | _) <;> decide⟩
  cases isValue with
  | null => exact plain 'n' (by simp) _
  | bool value =>
      cases value
      · exact plain 'f' (by simp) _
      · exact plain 't' (by simp) _
  | string => exact plain '"' (by simp) _
  | empty enclosure => cases enclosure <;> exact plain _ (by simp [Enclosure.opening]) _
  | filled enclosure => cases enclosure <;> exact plain _ (by simp [Enclosure.opening]) _
  | number isNumber =>
      cases isNumber with
      | @mk sign whole fraction exponent signed isWhole _ _ =>
          obtain ⟨c, more, rfl, digit⟩ := isWhole.head
          simp only [List.mem_cons, List.not_mem_nil, or_false] at signed
          rcases signed with rfl | rfl
          · exact starts_digit digit _
          · exact plain '-' (by simp) _

theorem skipStart_digit (digit : isDigit c = true) (s : List Char) :
    skipStart (c :: s) = (skipNumber (c :: s)).map ((none, ·)) := by
  rw [skipStart, if_pos digit]
  all_goals
    rintro rfl
    cases digit

theorem skipStart_number {s : List Char} (isNumber : IsNumber s) (delimited : Delimited rest) :
    skipStart (s ++ rest) = .ok (none, rest) := by
  cases isNumber with
  | @mk sign whole fraction exponent signed isWhole isFraction isExponent =>
      have passed := skipNumber_eq isWhole isFraction isExponent delimited.endsNumber
      obtain ⟨c, more, rfl, digit⟩ := isWhole.head
      simp only [List.mem_cons, List.not_mem_nil, or_false] at signed
      rcases signed with rfl | rfl
      · simp only [List.nil_append, List.append_assoc, List.cons_append] at passed ⊢
        rw [skipStart_digit digit, passed]
        rfl
      · simp only [List.nil_append, List.append_assoc, List.cons_append] at passed ⊢
        rw [skipStart, passed]
        rfl

theorem skipBlanks_of_starts {gap : List Char} (blank : Gap gap) (starts : Starts s)
    (rest : List Char) : skipBlanks (gap ++ (s ++ rest)) = s ++ rest := by
  obtain ⟨c, more, rfl, started, -⟩ := starts
  exact skipBlanks_cons blank started _

/-- A text is passed wherever it stands, from the state in front of it to the state behind it. -/
def Passes (text : List Char) : Prop :=
  ∀ ⦃enclosures : List Enclosure⦄ ⦃gap rest : List Char⦄, Gap gap → Delimited rest →
    skipFrom .value enclosures (gap ++ (text ++ rest)) = skipFrom .passed enclosures rest

theorem passes_scalar {text : List Char} (starts : Starts text)
    (scalar : ∀ {rest : List Char}, Delimited rest → skipStart (text ++ rest) = .ok (none, rest)) :
    Passes text := by
  intro enclosures gap rest blank delimited
  apply skipFrom_of_scalar
  rw [skipBlanks_of_starts blank starts rest]
  exact scalar delimited

theorem delimited_members (enclosure : Enclosure) (members : List Member) (rest : List Char) :
    Delimited (members.flatMap (fun member => ',' :: member.text) ++
      enclosure.closing :: rest) := by
  intro c same
  cases members with
  | nil =>
      cases same
      cases enclosure <;> simp [Enclosure.closing]
  | cons member members =>
      cases same
      exact .inr (.inl rfl)

theorem isGap_closing (enclosure : Enclosure) : isGap enclosure.closing = false := by
  cases enclosure <;> rfl

/-- Members behind the first are passed, each from its comma to the next. -/
theorem skipFrom_members {gap : List Char} {members : List Member} (blank : Gap gap)
    (blanks : ∀ member ∈ members, Gap member.before ∧ Gap member.behind)
    (keys : ∀ member ∈ members, enclosure.IsKey member.key)
    (passes : ∀ member ∈ members, Passes member.value) :
    skipFrom .passed (enclosure :: outer) (gap ++
      (members.flatMap (fun member => ',' :: member.text) ++ enclosure.closing :: rest)) =
        skipFrom .passed outer rest := by
  induction members generalizing gap with
  | nil => exact skipFrom_passed_end (skipBlanks_cons blank (isGap_closing enclosure) rest)
  | cons member members ih =>
      obtain ⟨⟨blankBefore, blankBehind⟩, blanks⟩ := List.forall_mem_cons.1 blanks
      obtain ⟨isKey, keys⟩ := List.forall_mem_cons.1 keys
      obtain ⟨here, passes⟩ := List.forall_mem_cons.1 passes
      obtain ⟨pad, blankPad, key⟩ := skipKey_eq blankBefore isKey (member.value ++ (member.behind ++
        (members.flatMap (fun member => ',' :: member.text) ++ enclosure.closing :: rest)))
      simp only [List.flatMap_cons, Member.text, List.cons_append, List.append_assoc] at key ⊢
      rw [skipFrom_passed_comma (skipBlanks_cons blank rfl _) key, here blankPad]
      · exact ih blankBehind blanks keys passes
      · exact delimited_gap blankBehind (delimited_members enclosure members rest)

theorem skipStart_opening (enclosure : Enclosure) (s : List Char) :
    skipStart (enclosure.opening :: s) = .ok (some enclosure, s) := by
  cases enclosure <;> rfl

theorem skipFrom_opened_first {before key : List Char} (blank : Gap before)
    (isKey : enclosure.IsKey key) (starts : Starts s) (outer : List Enclosure)
    (rest : List Char) :
    ∃ pad, Gap pad ∧ skipFrom .opened (enclosure :: outer) (before ++ (key ++ (s ++ rest))) =
      skipFrom .value (enclosure :: outer) (pad ++ (s ++ rest)) := by
  obtain ⟨pad, blankPad, passed⟩ := skipKey_eq gap_nil isKey (s ++ rest)
  have first : ∃ c more, key ++ (s ++ rest) = c :: more ∧ isGap c = false ∧
      c ≠ enclosure.closing := by
    cases isKey with
    | list =>
        obtain ⟨c, more, rfl, started, other⟩ := starts
        exact ⟨c, more ++ rest, rfl, started, other _⟩
    | object => exact ⟨'"', _, rfl, rfl, by decide⟩
  obtain ⟨c, more, spelled, started, other⟩ := first
  rw [List.nil_append, spelled] at passed
  rw [spelled]
  exact ⟨pad, blankPad, skipFrom_opened_member (skipBlanks_cons blank started more) other passed⟩

/-- Every value is passed over, wherever it stands. -/
theorem passes_of_isValue {text : List Char} (isValue : IsValue text) : Passes text := by
  have starts := starts_of_isValue isValue
  induction isValue with
  | null => exact passes_scalar starts fun _ => rfl
  | bool value => cases value <;> exact passes_scalar starts fun _ => rfl
  | number isNumber => exact passes_scalar starts (skipStart_number isNumber)
  | @string body isBody =>
      refine passes_scalar starts fun _ => ?_
      rw [List.cons_append, List.append_assoc, List.singleton_append, skipStart,
        skipString_body isBody]
      rfl
  | @empty enclosure inner blankInner =>
      intro enclosures gap rest blank _
      have opening := skipBlanks_of_starts blank starts rest
      simp only [List.cons_append, List.append_assoc, List.nil_append] at opening ⊢
      rw [skipFrom_of_opening (by rw [opening]; exact skipStart_opening enclosure _)]
      exact skipFrom_opened_end (skipBlanks_cons blankInner (isGap_closing enclosure) rest)
  | @filled enclosure first more blanks keys values ih =>
      intro enclosures gap rest blank _
      have opening := skipBlanks_of_starts blank starts rest
      obtain ⟨⟨blankBefore, blankBehind⟩, blanks⟩ := List.forall_mem_cons.1 blanks
      obtain ⟨isKey, keys⟩ := List.forall_mem_cons.1 keys
      have passes : ∀ member ∈ first :: more, Passes member.value :=
        fun member mem => ih member mem (starts_of_isValue (values member mem))
      obtain ⟨here, passes⟩ := List.forall_mem_cons.1 passes
      obtain ⟨pad, blankPad, opened⟩ := skipFrom_opened_first blankBefore isKey
        (starts_of_isValue (values first List.mem_cons_self)) enclosures (first.behind ++
        (more.flatMap (fun member => ',' :: member.text) ++ enclosure.closing :: rest))
      simp only [List.cons_append, List.append_assoc, List.nil_append] at opening ⊢
      rw [skipFrom_of_opening (by rw [opening]; exact skipStart_opening enclosure _)]
      simp only [Member.text, List.append_assoc] at opened ⊢
      -- The first member comes right behind the bracket, each of the others behind a comma.
      rw [opened, here blankPad]
      · exact skipFrom_members blankBehind blanks keys passes
      · exact delimited_gap blankBehind (delimited_members enclosure more rest)

theorem skipValue_eq {gap text : List Char} (isValue : IsValue text) (blank : Gap gap)
    (delimited : Delimited rest) : skipValue (gap ++ (text ++ rest)) = .ok rest := by
  rw [skipValue, passes_of_isValue isValue blank delimited, skipFrom]

end Passing

end LuaBundle.Json
