import LuaBundle.Lua.ShortString

/-! # Reading quoted strings

A reader of double-quoted strings: it knows the four escapes, wants line breaks escaped, and stops
behind the closing quote. In front of anything else, a written string is read back to the text it
was written from, and what follows it is left alone. Nothing but written strings can be read.
-/

namespace LuaBundle.Lua

/-- The character that is meant by one behind a backslash. -/
def unescape? : Char → Option Char
  | '\\' => some '\\'
  | '"' => some '"'
  | 'n' => some '\n'
  | 'r' => some '\r'
  | _ => none

/-- Read up to the closing quote, and hand back what follows it. -/
def readInside : List Char → Option (List Char × List Char)
  | [] => none
  | '"' :: rest => some ([], rest)
  | '\\' :: c :: rest =>
    match unescape? c, readInside rest with
    | some meant, some (value, after) => some (meant :: value, after)
    | _, _ => none
  | c :: rest =>
    if c = '\\' ∨ c = '\n' ∨ c = '\r' then none
    else (readInside rest).map fun (value, after) => (c :: value, after)

/-- Read a double-quoted string, and hand back what follows it. -/
def readString? : List Char → Option (List Char × List Char)
  | '"' :: rest => readInside rest
  | _ => none

theorem readInside_escape (c : Char) {rest value after : List Char}
    (read : readInside rest = some (value, after)) :
    readInside (escape c ++ rest) = some (c :: value, after) := by
  unfold escape
  split
  · simp [readInside, unescape?, read]
  · simp [readInside, unescape?, read]
  · simp [readInside, unescape?, read]
  · simp [readInside, unescape?, read]
  · next slash mark feed ret =>
      have plain : ¬(c = '\\' ∨ c = '\n' ∨ c = '\r') := by
        rintro (bad | bad | bad)
        · exact slash bad
        · exact feed bad
        · exact ret bad
      rw [List.cons_append, List.nil_append, readInside, if_neg plain, read]
      · rfl
      · exact mark
      · intro _ _ bad
        exact (slash bad).elim

theorem readInside_flatMap_escape (value rest : List Char) :
    readInside (value.flatMap escape ++ '"' :: rest) = some (value, rest) := by
  induction value with
  | nil => rfl
  | cons c value ih =>
      rw [List.flatMap_cons, List.append_assoc]
      exact readInside_escape c ih

/-- A written string is read back, up to its end and no further. -/
theorem readString?_quote (value rest : List Char) :
    readString? (quote value ++ rest) = some (value, rest) := by
  have inside : quote value ++ rest = '"' :: (value.flatMap escape ++ '"' :: rest) := by
    simp [quote]
  rw [inside, readString?]
  exact readInside_flatMap_escape value rest

theorem readString?_quoted (value : String) :
    readString? (quoted value).toList = some (value.toList, []) := by
  have whole := readString?_quote value.toList []
  rw [List.append_nil] at whole
  rw [quoted, String.toList_ofList]
  exact whole

/-- A character that no escape is needed for is written as it is. -/
theorem escape_of_plain {c : Char} (mark : c ≠ '"') (plain : ¬(c = '\\' ∨ c = '\n' ∨ c = '\r')) :
    escape c = [c] := by
  simp only [not_or] at plain
  obtain ⟨slash, feed, ret⟩ := plain
  unfold escape
  split
  · exact absurd rfl slash
  · exact absurd rfl mark
  · exact absurd rfl feed
  · exact absurd rfl ret
  · rfl

theorem escape_of_unescape? {c meant : Char} (read : unescape? c = some meant) :
    escape meant = ['\\', c] := by
  unfold unescape? at read
  split at read
  · cases read
    rfl
  · cases read
    rfl
  · cases read
    rfl
  · cases read
    rfl
  · cases read

/-- No escape has a line break in it. -/
theorem not_break_of_mem_escape {c written : Char} (mem : written ∈ escape c) :
    written ≠ '\n' ∧ written ≠ '\r' := by
  unfold escape at mem
  split at mem
  case h_5 feed carriage =>
    obtain rfl := List.mem_singleton.1 mem
    exact ⟨feed, carriage⟩
  all_goals
    simp only [List.mem_cons, List.not_mem_nil, or_false] at mem
    rcases mem with rfl | rfl <;> decide

/-- What is read up to a closing quote was written from what it is read for. -/
theorem eq_of_readInside {s value rest : List Char} (read : readInside s = some (value, rest)) :
    s = value.flatMap escape ++ '"' :: rest := by
  fun_induction readInside s generalizing value with
  | case1 => cases read
  | case2 after =>
      cases read
      rfl
  | case3 c s meant inner after further known ih =>
      cases read
      rw [List.flatMap_cons, escape_of_unescape? known, ih further]
      rfl
  | case4 => cases read
  | case5 => cases read
  | case6 c s mark slash plain ih =>
      obtain ⟨⟨inner, after⟩, further, same⟩ := Option.map_eq_some_iff.1 read
      cases same
      rw [List.flatMap_cons, escape_of_plain mark plain, ih further]
      rfl

theorem readString?_eq_some_iff {s value rest : List Char} :
    readString? s = some (value, rest) ↔ s = quote value ++ rest := by
  constructor
  · intro read
    unfold readString? at read
    split at read
    · next inside =>
        rw [eq_of_readInside read]
        simp [quote]
    · cases read
  · rintro rfl
    exact readString?_quote value rest

theorem quoted_injective : Function.Injective quoted := by
  intro value other same
  have first := readString?_quoted value
  rw [same, readString?_quoted other] at first
  simp only [Option.some.injEq, Prod.mk.injEq, and_true] at first
  exact (String.toList_inj.1 first).symm

/-- No string ends inside of a written one. -/
theorem readString?_proper_prefix {value front back : List Char}
    (whole : quote value = front ++ back) (proper : back ≠ []) : readString? front = none := by
  cases read : readString? front with
  | none => rfl
  | some result =>
      obtain ⟨early, rest⟩ := result
      rw [readString?_eq_some_iff.1 read, List.append_assoc,
        ← List.append_nil (quote value)] at whole
      have ends := readString?_quote value []
      rw [whole, readString?_quote early] at ends
      simp only [Option.some.injEq, Prod.mk.injEq, List.append_eq_nil_iff] at ends
      exact absurd ends.2.2 proper

theorem not_break_of_mem_quoted {value : String} {c : Char} (mem : c ∈ (quoted value).toList) :
    c ≠ '\n' ∧ c ≠ '\r' := by
  simp only [quoted, quote, String.toList_ofList, List.cons_append, List.mem_cons, List.mem_append,
    List.mem_flatMap, List.not_mem_nil, or_false] at mem
  rcases mem with rfl | ⟨plain, -, escaped⟩ | rfl
  · decide
  · exact not_break_of_mem_escape escaped
  · decide

/-- Reading a string accepts exactly what quoting writes, in front of whatever follows. So each text
is written in one way only, on one line, and no quote in it closes the string early. -/
theorem quoted_read_exactly (value : String) :
    (∀ s rest, readString? s = some (value.toList, rest) ↔ s = (quoted value).toList ++ rest) ∧
    (∀ other, quoted other = quoted value → other = value) ∧
    (∀ c ∈ (quoted value).toList, c ≠ '\n' ∧ c ≠ '\r') ∧
    ∀ front back, (quoted value).toList = front ++ back → back ≠ [] → readString? front = none := by
  have written : (quoted value).toList = quote value.toList := String.toList_ofList
  refine ⟨?_, fun other same => quoted_injective same, fun c => not_break_of_mem_quoted, ?_⟩
  · intro s rest
    rw [written]
    exact readString?_eq_some_iff
  · intro front back whole proper
    rw [written] at whole
    exact readString?_proper_prefix whole proper

theorem quoted_read_exactly_odd_text :
    let value := "\\\"\\n\n\r\"é"
    readString? ("\"\\\\\\\"\\\\n\\n\\r\\\"é\"".toList ++ "\" = 1".toList) =
        some (value.toList, "\" = 1".toList) ∧
      readString? "\"\\\\\\\"".toList = none ∧ quoted value ≠ quoted "\\" := by
  intro value
  have written : (quoted value).toList = "\"\\\\\\\"\\\\n\\n\\r\\\"é\"".toList := by decide
  obtain ⟨read, single, -, early⟩ := quoted_read_exactly value
  refine ⟨?_, ?_, ?_⟩
  · rw [read, written]
  · exact early _ "\\\\n\\n\\r\\\"é\"".toList (by decide) (by decide)
  · intro same
    exact absurd (single _ same.symm) (by decide)

end LuaBundle.Lua
