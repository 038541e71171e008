import LuaBundle.Json.Skip

/-! # Reading JSON into typed values

A reader takes a value of one kind from the front of a text. It knows which kind it wants, so the
first thing that is wrong, be it the form of the text or the kind of a value, is what is reported.

A record is written as an object, or as a list of its fields in their order. A field of an object
must not be given twice, and fields with unknown names are passed over.
-/

namespace LuaBundle.Json

/-- Take a value from the front of a text. What is left is never longer than the text. -/
structure Reader (α : Type) where
  run : List Char → Except Fault (α × List Char)
  length_le : ∀ {s rest : List Char} {value : α},
    run s = .ok (value, rest) → rest.length ≤ s.length

variable {α β σ : Type}

/-- What is wrong with the value at the front of a text, which is not of the expected kind. A number
or string is read for that, and a list or object is not. -/
def mismatch (expected : String) (s : List Char) : Fault :=
  let wrong (found : Found) (rest : List Char) : Fault :=
    .before (.wrongType found expected) rest
  let wrongNumber (r : Except Fault (Found × List Char)) : Fault :=
    match r with
    | .error fault => fault
    | .ok (found, rest) => wrong found rest
  let wrongWord (r : Except Fault (List Char)) (found : Found) : Fault :=
    match r with
    | .error fault => fault
    | .ok rest => wrong found rest
  match s with
  | [] => .before .endInValue []
  | 'n' :: rest => wrongWord (readWord ['u', 'l', 'l'] rest) .null
  | 't' :: rest => wrongWord (readWord ['r', 'u', 'e'] rest) (.bool true)
  | 'f' :: rest => wrongWord (readWord ['a', 'l', 's', 'e'] rest) (.bool false)
  | '-' :: rest => wrongNumber (readNumber true rest)
  | '"' :: rest =>
    match stringBody rest with
    | .error fault => fault
    | .ok (chars, rest) => wrong (.string (String.ofList chars)) rest
  | '[' :: _ => wrong .list s
  | '\x7b' :: _ => wrong .object s
  | c :: _ => if isDigit c then wrongNumber (readNumber false s) else .next .expectedValue s

namespace Reader

/-- Read a value and make another of it. -/
def map (f : α → β) (reader : Reader α) : Reader β where
  run s :=
    match reader.run s with
    | .error fault => .error fault
    | .ok (value, rest) => .ok (f value, rest)
  length_le := by
    intro s rest value h
    split at h
    · cases h
    · next found =>
      simp only [Except.ok.injEq, Prod.mk.injEq] at h
      obtain ⟨-, rfl⟩ := h
      exact reader.length_le found

/-- Read a truth value. -/
def bool : Reader Bool where
  run s :=
    match skipBlanks s with
    | 't' :: rest => (readWord ['r', 'u', 'e'] rest).map ((true, ·))
    | 'f' :: rest => (readWord ['a', 'l', 's', 'e'] rest).map ((false, ·))
    | s => .error (mismatch "a boolean" s)
  length_le := by
    intro s rest value h
    have shorter := length_skipBlanks s
    have word_of : ∀ {r : Except Fault (List Char)} {b : Bool},
        r.map ((b, ·)) = .ok (value, rest) → r = .ok rest := by
      intro r b hr
      cases r with
      | error fault => cases hr
      | ok left =>
        simp only [Except.map, Except.ok.injEq, Prod.mk.injEq] at hr
        rw [hr.2]
    split at h
    · next skipped =>
      have := length_readWord (word_of h)
      rw [skipped, List.length_cons] at shorter
      omega
    · next skipped =>
      have := length_readWord (word_of h)
      rw [skipped, List.length_cons] at shorter
      omega
    · cases h

/-- Read a string. -/
def string : Reader String where
  run s :=
    match skipBlanks s with
    | '"' :: rest =>
      match stringBody rest with
      | .error fault => .error fault
      | .ok (chars, rest) => .ok (String.ofList chars, rest)
    | s => .error (mismatch "a string" s)
  length_le := by
    intro s rest value h
    have shorter := length_skipBlanks s
    split at h
    · next skipped =>
      split at h
      · cases h
      · next found =>
        simp only [Except.ok.injEq, Prod.mk.injEq] at h
        obtain ⟨-, rfl⟩ := h
        have := length_stringBody found
        rw [skipped, List.length_cons] at shorter
        omega
    · cases h

/-- What a number becomes where an integer of 32 bits without sign is wanted. -/
def natural32 (found : Found) (rest : List Char) : Except Fault (UInt32 × List Char) :=
  match found with
  | .integer value =>
    if 0 ≤ value ∧ value < UInt32.size then .ok (UInt32.ofNat value.toNat, rest)
    else .error (.before (.wrongValue found "u32") rest)
  | found => .error (.before (.wrongType found "u32") rest)

/-- Read an integer of 32 bits without sign. -/
def uint32 : Reader UInt32 where
  run s :=
    match skipBlanks s with
    | '-' :: rest =>
      match readNumber true rest with
      | .error fault => .error fault
      | .ok (found, rest) => natural32 found rest
    | c :: rest =>
      if isDigit c then
        match readNumber false (c :: rest) with
        | .error fault => .error fault
        | .ok (found, rest) => natural32 found rest
      else .error (mismatch "u32" (c :: rest))
    | [] => .error (mismatch "u32" [])
  length_le := by
    intro s rest value h
    have shorter := length_skipBlanks s
    have same : ∀ {found : Found} {left : List Char},
        natural32 found left = .ok (value, rest) → left = rest := by
      intro found left hn
      unfold natural32 at hn
      split at hn
      · split at hn
        · simp only [Except.ok.injEq, Prod.mk.injEq] at hn
          exact hn.2
        · cases hn
      · cases hn
    split at h
    · next skipped =>
      split at h
      · cases h
      · next found =>
        have := length_readNumber found
        rw [same h] at this
        rw [skipped, List.length_cons] at shorter
        omega
    · next skipped =>
      split at h
      · split at h
        · cases h
        · next found =>
          have := length_readNumber found
          rw [same h] at this
          rw [skipped] at shorter
          omega
      · cases h
    · cases h

/-! ## Lists -/

/-- Read the comma in front of a further item. Nothing is returned at the end of the list, which is
then read too. -/
def nextItem (s : List Char) : Except Fault (Option Unit × List Char) :=
  match skipBlanks s with
  | [] => .error (.before .endInList [])
  | ']' :: rest => .ok (none, rest)
  | ',' :: rest =>
    match skipBlanks rest with
    | [] => .error (.before .endInValue [])
    | ']' :: rest => .error (.next .trailingComma (']' :: rest))
    | rest => .ok (some (), rest)
  | rest => .error (.next .expectedListEnd rest)

theorem length_nextItem {s rest : List Char} {more : Option Unit}
    (h : nextItem s = .ok (more, rest)) : rest.length < s.length := by
  have shorter := length_skipBlanks s
  unfold nextItem at h
  split at h
  · cases h
  · next skipped =>
    simp only [Except.ok.injEq, Prod.mk.injEq] at h
    obtain ⟨-, rfl⟩ := h
    rw [skipped, List.length_cons] at shorter
    omega
  · next left skipped =>
    have shorter' := length_skipBlanks left
    rw [skipped, List.length_cons] at shorter
    split at h
    · cases h
    · cases h
    · simp only [Except.ok.injEq, Prod.mk.injEq] at h
      obtain ⟨-, rfl⟩ := h
      omega
  · cases h

/-- Read the items of a list behind its first. -/
def moreItems (item : Reader α) (s : List Char) : Except Fault (List α × List Char) :=
  match _comma : nextItem s with
  | .error fault => .error fault
  | .ok (none, rest) => .ok ([], rest)
  | .ok (some _, rest) =>
    match _item : item.run rest with
    | .error fault => .error fault
    | .ok (value, rest) =>
      match moreItems item rest with
      | .error fault => .error fault
      | .ok (values, rest) => .ok (value :: values, rest)
termination_by s.length
decreasing_by
  have := length_nextItem _comma
  have := item.length_le _item
  omega

theorem length_moreItems {item : Reader α} {s rest : List Char} {values : List α}
    (h : moreItems item s = .ok (values, rest)) : rest.length < s.length := by
  fun_induction moreItems item s generalizing values rest with
  | case1 => cases h
  | case2 s left comma =>
    simp only [Except.ok.injEq, Prod.mk.injEq] at h
    obtain ⟨-, rfl⟩ := h
    exact length_nextItem comma
  | case3 => cases h
  | case4 => cases h
  | case5 s _ left comma value left' found values' left'' rec ih =>
    simp only [Except.ok.injEq, Prod.mk.injEq] at h
    obtain ⟨-, rfl⟩ := h
    have := length_nextItem comma
    have := item.length_le found
    have := ih rec
    omega

/-- Read the items of a list behind its opening bracket. -/
def items (item : Reader α) (s : List Char) : Except Fault (List α × List Char) :=
  match skipBlanks s with
  | [] => .error (.before .endInList [])
  | ']' :: rest => .ok ([], rest)
  | s =>
    match item.run s with
    | .error fault => .error fault
    | .ok (value, rest) =>
      match moreItems item rest with
      | .error fault => .error fault
      | .ok (values, rest) => .ok (value :: values, rest)

theorem length_items {item : Reader α} {s rest : List Char} {values : List α}
    (h : items item s = .ok (values, rest)) : rest.length ≤ s.length := by
  have shorter := length_skipBlanks s
  unfold items at h
  split at h
  · cases h
  · next skipped =>
    simp only [Except.ok.injEq, Prod.mk.injEq] at h
    obtain ⟨-, rfl⟩ := h
    rw [skipped, List.length_cons] at shorter
    omega
  · split at h
    · cases h
    · next found =>
      split at h
      · cases h
      · next found' =>
        simp only [Except.ok.injEq, Prod.mk.injEq] at h
        obtain ⟨-, rfl⟩ := h
        have := item.length_le found
        have := length_moreItems found'
        omega

/-- Read a list. -/
def list (item : Reader α) : Reader (List α) where
  run s :=
    match skipBlanks s with
    | '[' :: rest => items item rest
    | s => .error (mismatch "a sequence" s)
  length_le := by
    intro s rest value h
    have shorter := length_skipBlanks s
    split at h
    · next skipped =>
      have := length_items h
      rw [skipped, List.length_cons] at shorter
      omega
    · cases h

/-! ## Objects -/

/-- What is done about a field of an object. -/
inductive FieldRule (σ : Type) where
  /-- The field was given before. -/
  | repeated
  /-- The field is unknown. -/
  | pass
  /-- The field's value is read. -/
  | take (reader : Reader σ)

/-- What is left of a text behind an object, if it ended here. -/
def afterObject (s : List Char) : List Char :=
  match skipBlanks s with
  | '\x7d' :: rest => rest
  | rest => rest

/-- Read a field behind the opening quote of its name. -/
def field (rule : σ → String → FieldRule σ) (state : σ) (s : List Char) :
    Except Fault (σ × List Char) :=
  match stringBody s with
  | .error fault => .error fault
  | .ok (chars, rest) =>
    let name := String.ofList chars
    match rule state name with
    | .repeated => .error (.before (.duplicateField name) (afterObject rest))
    | .pass =>
      match colon rest with
      | .error fault => .error fault
      | .ok rest =>
        match skipValue rest with
        | .error fault => .error fault
        | .ok rest => .ok (state, rest)
    | .take reader =>
      match colon rest with
      | .error fault => .error fault
      | .ok rest => reader.run rest

theorem length_field {rule : σ → String → FieldRule σ} {state state' : σ} {s rest : List Char}
    (h : field rule state s = .ok (state', rest)) : rest.length ≤ s.length := by
  unfold field at h
  split at h
  · cases h
  · next found =>
    have := length_stringBody found
    simp only at h
    split at h
    · cases h
    · split at h
      · cases h
      · next found' =>
        have := length_colon found'
        split at h
        · cases h
        · next found'' =>
          simp only [Except.ok.injEq, Prod.mk.injEq] at h
          obtain ⟨-, rfl⟩ := h
          have := length_skipFrom found''
          omega
    · next reader _ =>
      split at h
      · cases h
      · next found' =>
        have := length_colon found'
        have := reader.length_le h
        omega

/-- Read the comma and the quote in front of a further field. Nothing is returned at the end of the
object, which is then read too. -/
def nextField (s : List Char) : Except Fault (Option Unit × List Char) :=
  match skipBlanks s with
  | [] => .error (.before .endInObject [])
  | '\x7d' :: rest => .ok (none, rest)
  | ',' :: rest =>
    match skipBlanks rest with
    | [] => .error (.before .endInValue [])
    | '"' :: rest => .ok (some (), rest)
    | '\x7d' :: rest => .error (.next .trailingComma ('\x7d' :: rest))
    | rest => .error (.next .keyNotString rest)
  | rest => .error (.next .expectedObjectEnd rest)

theorem length_nextField {s rest : List Char} {more : Option Unit}
    (h : nextField s = .ok (more, rest)) : rest.length < s.length := by
  have shorter := length_skipBlanks s
  unfold nextField at h
  split at h
  · cases h
  · next skipped =>
    simp only [Except.ok.injEq, Prod.mk.injEq] at h
    obtain ⟨-, rfl⟩ := h
    rw [skipped, List.length_cons] at shorter
    omega
  · next left skipped =>
    have shorter' := length_skipBlanks left
    rw [skipped, List.length_cons] at shorter
    split at h
    · cases h
    · next skipped' =>
      simp only [Except.ok.injEq, Prod.mk.injEq] at h
      obtain ⟨-, rfl⟩ := h
      rw [skipped', List.length_cons] at shorter'
      omega
    · cases h
    · cases h
  · cases h

/-- Read the fields of an object behind its first. -/
def moreFields (rule : σ → String → FieldRule σ) (state : σ) (s : List Char) :
    Except Fault (σ × List Char) :=
  match _comma : nextField s with
  | .error fault => .error fault
  | .ok (none, rest) => .ok (state, rest)
  | .ok (some _, rest) =>
    match _field : field rule state rest with
    | .error fault => .error fault
    | .ok (state, rest) => moreFields rule state rest
termination_by s.length
decreasing_by
  have := length_nextField _comma
  have := length_field _field
  omega

theorem length_moreFields {rule : σ → String → FieldRule σ} {state state' : σ}
    {s rest : List Char} (h : moreFields rule state s = .ok (state', rest)) :
    rest.length < s.length := by
  fun_induction moreFields rule state s with
  | case1 => cases h
  | case2 state s left comma =>
    simp only [Except.ok.injEq, Prod.mk.injEq] at h
    obtain ⟨-, rfl⟩ := h
    exact length_nextField comma
  | case3 => cases h
  | case4 state s _ left comma state'' left' found ih =>
    have := length_nextField comma
    have := length_field found
    have := ih h
    omega

/-- Read the fields of an object behind its opening brace. -/
def fields (rule : σ → String → FieldRule σ) (state : σ) (s : List Char) :
    Except Fault (σ × List Char) :=
  match skipBlanks s with
  | [] => .error (.before .endInObject [])
  | '\x7d' :: rest => .ok (state, rest)
  | '"' :: rest =>
    match field rule state rest with
    | .error fault => .error fault
    | .ok (state, rest) => moreFields rule state rest
  | rest => .error (.next .keyNotString rest)

theorem length_fields {rule : σ → String → FieldRule σ} {state state' : σ}
    {s rest : List Char} (h : fields rule state s = .ok (state', rest)) :
    rest.length ≤ s.length := by
  have shorter := length_skipBlanks s
  unfold fields at h
  split at h
  · cases h
  · next skipped =>
    simp only [Except.ok.injEq, Prod.mk.injEq] at h
    obtain ⟨-, rfl⟩ := h
    rw [skipped, List.length_cons] at shorter
    omega
  · next skipped =>
    rw [skipped, List.length_cons] at shorter
    split at h
    · cases h
    · next found =>
      have := length_field found
      have := length_moreFields h
      omega
  · cases h

/-- Read an object whose keys are not known beforehand. A key given again replaces the value and
keeps the place. -/
def dictionary (value : Reader α) : Reader (List (String × α)) where
  run s :=
    match skipBlanks s with
    | '\x7b' :: rest =>
      fields (fun entries key => .take (value.map fun given =>
        if entries.any (·.1 == key) then
          entries.map fun entry => if entry.1 == key then (key, given) else entry
        else entries ++ [(key, given)])) [] rest
    | s => .error (mismatch "a map" s)
  length_le := by
    intro s rest value h
    have shorter := length_skipBlanks s
    split at h
    · next skipped =>
      have := length_fields h
      rw [skipped, List.length_cons] at shorter
      omega
    · cases h

/-! ## Records -/

/-- A field of a record. -/
structure FieldShape (σ : Type) where
  name : String
  /-- Whether the field is known already. -/
  given : σ → Bool
  /-- Read the field and add it to what is known. -/
  read : σ → Reader σ

/-- How a record is read: from nothing, field by field. -/
structure RecordShape (σ α : Type) where
  /-- How the record is called in messages. -/
  title : String
  /-- No field is known yet. -/
  start : σ
  /-- The fields in their order. -/
  fields : List (FieldShape σ)
  /-- The record, or the position and name of the first field that is missing. -/
  finish : σ → Except (Nat × String) α

/-- What a record does about a field of an object. -/
def RecordShape.rule (shape : RecordShape σ α) (state : σ) (name : String) : FieldRule σ :=
  match shape.fields.find? (·.name == name) with
  | none => .pass
  | some field => if field.given state then .repeated else .take (field.read state)

/-- Read the end of a list whose items are all known. -/
def endOfItems (s : List Char) : Except Fault (List Char) :=
  match skipBlanks s with
  | [] => .error (.before .endInList [])
  | ']' :: rest => .ok rest
  | ',' :: rest =>
    match skipBlanks rest with
    | ']' :: rest => .error (.next .trailingComma (']' :: rest))
    | rest => .error (.next .trailingCharacters rest)
  | rest => .error (.next .trailingCharacters rest)

theorem length_endOfItems {s rest : List Char} (h : endOfItems s = .ok rest) :
    rest.length ≤ s.length := by
  have shorter := length_skipBlanks s
  unfold endOfItems at h
  split at h
  · cases h
  · next skipped =>
    simp only [Except.ok.injEq] at h
    subst h
    rw [skipped, List.length_cons] at shorter
    omega
  · split at h <;> cases h
  · cases h

/-- Read the fields of a record written as a list, behind the first. The list may end early. -/
def moreInOrder (readers : List (σ → Reader σ)) (state : σ) (s : List Char) :
    Except Fault (σ × List Char) :=
  match readers with
  | [] => (endOfItems s).map ((state, ·))
  | reader :: readers =>
    match nextItem s with
    | .error fault => .error fault
    | .ok (none, rest) => .ok (state, rest)
    | .ok (some _, rest) =>
      match (reader state).run rest with
      | .error fault => .error fault
      | .ok (state, rest) => moreInOrder readers state rest

theorem length_moreInOrder {readers : List (σ → Reader σ)} {state state' : σ}
    {s rest : List Char} (h : moreInOrder readers state s = .ok (state', rest)) :
    rest.length ≤ s.length := by
  induction readers generalizing state s with
  | nil =>
    unfold moreInOrder at h
    cases ended : endOfItems s with
    | error fault => simp [ended, Except.map] at h
    | ok left =>
      simp only [ended, Except.map, Except.ok.injEq, Prod.mk.injEq] at h
      obtain ⟨-, rfl⟩ := h
      exact length_endOfItems ended
  | cons reader readers ih =>
    unfold moreInOrder at h
    split at h
    · cases h
    · next comma =>
      simp only [Except.ok.injEq, Prod.mk.injEq] at h
      obtain ⟨-, rfl⟩ := h
      have := length_nextItem comma
      omega
    · next comma =>
      split at h
      · cases h
      · next found =>
        have := length_nextItem comma
        have := (reader state).length_le found
        have := ih h
        omega

/-- Read the fields of a record written as a list, behind the opening bracket. -/
def inOrder (readers : List (σ → Reader σ)) (state : σ) (s : List Char) :
    Except Fault (σ × List Char) :=
  match readers with
  | [] => (endOfItems s).map ((state, ·))
  | reader :: readers =>
    match skipBlanks s with
    | [] => .error (.before .endInList [])
    | ']' :: rest => .ok (state, rest)
    | s =>
      match (reader state).run s with
      | .error fault => .error fault
      | .ok (state, rest) => moreInOrder readers state rest

theorem length_inOrder {readers : List (σ → Reader σ)} {state state' : σ}
    {s rest : List Char} (h : inOrder readers state s = .ok (state', rest)) :
    rest.length ≤ s.length := by
  have shorter := length_skipBlanks s
  unfold inOrder at h
  split at h
  · have ended : moreInOrder [] state s = .ok (state', rest) := by simpa [moreInOrder] using h
    exact length_moreInOrder ended
  · next reader readers =>
    split at h
    · cases h
    · next skipped =>
      simp only [Except.ok.injEq, Prod.mk.injEq] at h
      obtain ⟨-, rfl⟩ := h
      rw [skipped, List.length_cons] at shorter
      omega
    · split at h
      · cases h
      · next found =>
        have := (reader state).length_le found
        have := length_moreInOrder h
        omega

/-- Read a record. -/
def record (shape : RecordShape σ α) : Reader α where
  run s :=
    match skipBlanks s with
    | '[' :: rest =>
      match inOrder (shape.fields.map (·.read)) shape.start rest with
      | .error fault => .error fault
      | .ok (state, rest) =>
        match shape.finish state with
        | .ok value => .ok (value, rest)
        | .error (index, _) =>
          .error (.before (.wrongLength index (shape.title ++ " with " ++
            toString shape.fields.length ++ " elements")) rest)
    | '\x7b' :: rest =>
      match fields shape.rule shape.start rest with
      | .error fault => .error fault
      | .ok (state, rest) =>
        match shape.finish state with
        | .ok value => .ok (value, rest)
        | .error (_, name) => .error (.before (.missingField name) rest)
    | s => .error (mismatch shape.title s)
  length_le := by
    intro s rest value h
    have shorter := length_skipBlanks s
    split at h
    · next skipped =>
      split at h
      · cases h
      · next found =>
        have := length_inOrder found
        rw [skipped, List.length_cons] at shorter
        split at h
        · simp only [Except.ok.injEq, Prod.mk.injEq] at h
          obtain ⟨-, rfl⟩ := h
          omega
        · cases h
    · next skipped =>
      split at h
      · cases h
      · next found =>
        have := length_fields found
        rw [skipped, List.length_cons] at shorter
        split at h
        · simp only [Except.ok.injEq, Prod.mk.injEq] at h
          obtain ⟨-, rfl⟩ := h
          omega
        · cases h
    · cases h

/-- Read a whole text. Only blanks may follow the value. -/
def parse (reader : Reader α) (text : String) : Except Fault α :=
  match reader.run text.toList with
  | .error fault => .error fault
  | .ok (value, rest) =>
    match skipBlanks rest with
    | [] => .ok value
    | rest => .error (.next .trailingCharacters rest)

end Reader

end LuaBundle.Json
