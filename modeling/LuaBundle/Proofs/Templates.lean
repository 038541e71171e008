import LuaBundle.Template
import LuaBundle.Text.Blank

/-! # The tokens of a template

A template is code in which slots stand for names. Reading it token by token loses nothing. Slots
are filled one after the other over the whole text, but as long as no value has an opening brace in
it, every value ends up where its slot stood and nowhere else, as if all had been put in at once.
-/

namespace LuaBundle

/-- One piece of a template. -/
inductive Token where
  /-- A name or a keyword. -/
  | word (chars : List Char)
  /-- A place for a value. -/
  | slot (name : List Char)
  /-- An empty table, which has a slot's braces. -/
  | table
  /-- A comment or a string. -/
  | aside (chars : List Char)
  /-- A character that stands for itself. -/
  | mark (c : Char)
  deriving DecidableEq

namespace Token

/-- A token as it is written. -/
def chars : Token → List Char
  | .word chars => chars
  | .slot name => '\x7b' :: name ++ ['\x7d']
  | .table => ['\x7b', '\x7d']
  | .aside chars => chars
  | .mark c => [c]

/-- A token that has begun and may go on, with its last character first. -/
inductive Pending where
  | nothing
  | word (back : List Char)
  /-- Behind an opening brace. -/
  | brace
  | slot (back : List Char)
  /-- Behind the first dash of what may become a comment. -/
  | dash
  /-- In a comment or a string, up to the character that ends it. -/
  | aside (last : Char) (back : List Char)

namespace Pending

def chars : Pending → List Char
  | .nothing => []
  | .word back => back.reverse
  | .brace => ['\x7b']
  | .slot back => '\x7b' :: back.reverse
  | .dash => ['-']
  | .aside _ back => back.reverse

/-- The tokens of what goes on no longer. -/
def close : Pending → List Token
  | .nothing => []
  | .word back => [.word back.reverse]
  | .brace => [.mark '\x7b']
  | .slot back => [.mark '\x7b', .word back.reverse]
  | .dash => [.mark '-']
  | .aside _ back => [.aside back.reverse]

/-- Begin anew with a character. -/
def start (c : Char) : List Token × Pending :=
  if Text.isNameStart c then ([], .word [c])
  else if c = '\x7b' then ([], .brace)
  else if c = '-' then ([], .dash)
  else if c = '"' then ([], .aside '"' [c])
  else ([.mark c], .nothing)

/-- Go on with a character, if it can belong to what has begun. -/
def extend? : Pending → Char → Option (List Token × Pending)
  | .nothing, _ => none
  | .word back, c => if Text.isNameChar c then some ([], .word (c :: back)) else none
  | .brace, c =>
    if c = '\x7d' then some ([.table], .nothing)
    else if Text.isNameStart c then some ([], .slot [c])
    else none
  | .slot back, c =>
    if c = '\x7d' then some ([.slot back.reverse], .nothing)
    else if Text.isNameChar c then some ([], .slot (c :: back))
    else none
  | .dash, c => if c = '-' then some ([], .aside '\n' ['-', c]) else none
  | .aside last back, c =>
    if c = last then some ([.aside (c :: back).reverse], .nothing)
    else some ([], .aside last (c :: back))

/-- Read one character: the tokens that end before or with it, and what has begun. -/
def step (pending : Pending) (c : Char) : List Token × Pending :=
  match pending.extend? c with
  | some further => further
  | none => (pending.close ++ (start c).1, (start c).2)

/-- Read a text to its end. -/
def read : Pending → List Char → List Token
  | pending, [] => pending.close
  | pending, c :: rest => (pending.step c).1 ++ read (pending.step c).2 rest

theorem flatMap_close (pending : Pending) : pending.close.flatMap Token.chars = pending.chars := by
  cases pending <;> simp [close, chars, Token.chars]

theorem flatMap_start (c : Char) :
    (start c).1.flatMap Token.chars ++ (start c).2.chars = [c] := by
  unfold start
  split
  · rfl
  split
  · next brace => rw [brace]; rfl
  split
  · next dash => rw [dash]; rfl
  split <;> rfl

theorem flatMap_extend? {pending further : Pending} {c : Char} {ended : List Token}
    (extended : pending.extend? c = some (ended, further)) :
    ended.flatMap Token.chars ++ further.chars = pending.chars ++ [c] := by
  unfold extend? at extended
  grind [Token.chars, chars]

theorem flatMap_step (pending : Pending) (c : Char) :
    (pending.step c).1.flatMap Token.chars ++ (pending.step c).2.chars = pending.chars ++ [c] := by
  unfold step
  split
  · next extended => exact flatMap_extend? extended
  · rw [List.flatMap_append, List.append_assoc, flatMap_start, flatMap_close]

theorem flatMap_read (pending : Pending) (s : List Char) :
    (pending.read s).flatMap Token.chars = pending.chars ++ s := by
  induction s generalizing pending with
  | nil => rw [read, flatMap_close, List.append_nil]
  | cons c rest ih =>
      rw [read, List.flatMap_append, ih, ← List.append_assoc, flatMap_step, List.append_assoc,
        List.singleton_append]

end Pending

/-- The tokens of a text. -/
def ofChars (s : List Char) : List Token :=
  Pending.nothing.read s

/-- Reading a text loses nothing of it. -/
theorem flatMap_ofChars (s : List Char) : (ofChars s).flatMap chars = s :=
  Pending.nothing.flatMap_read s

/-- A token in which only a slot has an opening brace that a name could follow. -/
def IsPlain : Token → Prop
  | .word chars => '\x7b' ∉ chars
  | .slot name => '\x7b' ∉ name ∧ '\x7d' ∉ name
  | .table => True
  | .aside chars => '\x7b' ∉ chars
  | .mark c => c ≠ '\x7b'

instance : (token : Token) → Decidable token.IsPlain
  | .word chars => inferInstanceAs (Decidable ('\x7b' ∉ chars))
  | .slot name => inferInstanceAs (Decidable ('\x7b' ∉ name ∧ '\x7d' ∉ name))
  | .table => .isTrue trivial
  | .aside chars => inferInstanceAs (Decidable ('\x7b' ∉ chars))
  | .mark c => inferInstanceAs (Decidable (c ≠ '\x7b'))

/-- The token that is left when the slots of a name are filled. -/
def fill (name value : List Char) : Token → Token
  | .slot other => if other = name then .aside value else .slot other
  | token => token

end Token

namespace Text

theorem replaceAll_of_isPrefixOf {pattern value s : List Char} (some : pattern ≠ []) :
    replaceAll pattern value (pattern ++ s) = value ++ replaceAll pattern value s := by
  obtain ⟨c, rest, rfl⟩ := List.exists_cons_of_ne_nil some
  rw [List.cons_append, replaceAll, dif_pos]
  · rw [← List.cons_append, List.drop_left]
  · simp

theorem replaceAll_of_not_isPrefixOf {pattern value s : List Char} {c : Char}
    (other : pattern.isPrefixOf (c :: s) = false) :
    replaceAll pattern value (c :: s) = c :: replaceAll pattern value s := by
  rw [replaceAll, dif_neg]
  simp [other]

/-- A text without the first character of a pattern is passed over. -/
theorem replaceAll_append {first : Char} {pattern value s rest : List Char} (absent : first ∉ s) :
    replaceAll (first :: pattern) value (s ++ rest) =
      s ++ replaceAll (first :: pattern) value rest := by
  induction s with
  | nil => rfl
  | cons c s ih =>
      obtain ⟨here, later⟩ : first ≠ c ∧ first ∉ s := by simpa using absent
      rw [List.cons_append, replaceAll_of_not_isPrefixOf, ih later, List.cons_append]
      simp [List.isPrefixOf, here]

end Text

namespace Token

theorem eq_of_closed {name other s t : List Char} {c : Char} (absent : c ∉ name)
    (absent' : c ∉ other) (same : name ++ c :: s = other ++ c :: t) : name = other := by
  have upTo : ∀ {front back : List Char}, c ∉ front →
      (front ++ c :: back).takeWhile (· != c) = front := by
    intro front back free
    rw [List.takeWhile_append_of_pos]
    · simp
    · intro a mem
      simpa using fun bad : a = c => free (bad ▸ mem)
  rw [← upTo absent, same, upTo absent']

theorem replaceAll_slot {name value rest : List Char} {token : Token} (plain : token.IsPlain)
    (some : name ≠ []) (closed : '\x7d' ∉ name) :
    Text.replaceAll ('\x7b' :: name ++ ['\x7d']) value (token.chars ++ rest) =
      (token.fill name value).chars ++
        Text.replaceAll ('\x7b' :: name ++ ['\x7d']) value rest := by
  cases token with
  | word chars => exact Text.replaceAll_append plain
  | aside chars => exact Text.replaceAll_append plain
  | mark c => exact Text.replaceAll_append (by simpa [chars] using Ne.symm plain)
  | table =>
      obtain ⟨c, name, rfl⟩ := List.exists_cons_of_ne_nil some
      have other : c ≠ '\x7d' := fun bad => closed (bad ▸ List.mem_cons_self)
      change Text.replaceAll _ value ('\x7b' :: (['\x7d'] ++ rest)) = _
      rw [Text.replaceAll_of_not_isPrefixOf (by simp [List.isPrefixOf, other])]
      exact congrArg _ (Text.replaceAll_append (by simp))
  | slot other =>
      obtain ⟨unopened, unclosed⟩ := plain
      by_cases same : other = name
      · rw [fill, if_pos same, chars, same]
        exact Text.replaceAll_of_isPrefixOf (by simp)
      · rw [fill, if_neg same, chars]
        change Text.replaceAll _ value ('\x7b' :: ((other ++ ['\x7d']) ++ rest)) = _
        rw [Text.replaceAll_of_not_isPrefixOf]
        · exact congrArg _ (Text.replaceAll_append (by simp [unopened]))
        · rw [Bool.eq_false_iff, ne_eq, List.isPrefixOf_iff_prefix]
          rintro ⟨after, bad⟩
          have met : other ++ '\x7d' :: rest = name ++ '\x7d' :: after := by
            simpa using (List.cons.inj bad).2.symm
          exact same (eq_of_closed unclosed closed met)

theorem IsPlain.fill {token : Token} (plain : token.IsPlain) (name : List Char)
    {value : List Char} (braceless : '\x7b' ∉ value) : (token.fill name value).IsPlain := by
  cases token with
  | slot other =>
      rw [Token.fill]
      split
      · exact braceless
      · exact plain
  | word chars => exact plain
  | table => exact plain
  | aside chars => exact plain
  | mark c => exact plain

theorem replaceAll_flatMap {name : List Char} (value : List Char) {tokens : List Token}
    (plain : ∀ token ∈ tokens, token.IsPlain) (some : name ≠ []) (closed : '\x7d' ∉ name) :
    Text.replaceAll ('\x7b' :: name ++ ['\x7d']) value (tokens.flatMap chars) =
      (tokens.map (Token.fill name value)).flatMap chars := by
  induction tokens with
  | nil => rw [List.flatMap_nil, Text.replaceAll]; rfl
  | cons token tokens ih =>
      obtain ⟨here, others⟩ := List.forall_mem_cons.1 plain
      rw [List.flatMap_cons, replaceAll_slot here some closed, ih others, List.map_cons,
        List.flatMap_cons]

/-- A token as it is written when each slot has got its value. -/
def charsIn (values : List (String × String)) : Token → List Char
  | .slot name =>
    match values.find? (·.1.toList == name) with
    | some value => value.2.toList
    | none => chars (.slot name)
  | token => token.chars

theorem charsIn_nil : charsIn [] = chars := by
  funext token
  cases token <;> rfl

theorem charsIn_cons (value : String × String) (values : List (String × String)) :
    charsIn (value :: values) =
      fun token => (token.fill value.1.toList value.2.toList).charsIn values := by
  funext token
  cases token with
  | slot name =>
      by_cases same : name = value.1.toList
      · simp [fill, charsIn, same, chars]
      · simp [fill, charsIn, same, Ne.symm same]
  | word chars => rfl
  | table => rfl
  | aside chars => rfl
  | mark c => rfl

end Token

namespace Template

theorem toList_ofLines (lines : List String) :
    (ofLines lines).text.toList = lines.flatMap fun line => line.toList ++ ['\n'] := by
  simp [ofLines, String.toList_join, List.flatMap_map]

/-- The tokens of a template. -/
def tokens (template : Template) : List Token :=
  Token.ofChars template.text.toList

theorem foldl_replaceAll {tokens : List Token} {values : List (String × String)}
    (plain : ∀ token ∈ tokens, token.IsPlain)
    (names : ∀ value ∈ values, value.1.toList ≠ [] ∧ '\x7d' ∉ value.1.toList)
    (braceless : ∀ value ∈ values, '\x7b' ∉ value.2.toList) :
    values.foldl (fun text value => Text.replaceAll (slot value.1) value.2.toList text)
        (tokens.flatMap Token.chars) =
      tokens.flatMap (Token.charsIn values) := by
  induction values generalizing tokens with
  | nil => rw [List.foldl_nil, Token.charsIn_nil]
  | cons value values ih =>
      obtain ⟨⟨some, closed⟩, names⟩ := List.forall_mem_cons.1 names
      obtain ⟨here, others⟩ := List.forall_mem_cons.1 braceless
      have filled : ∀ token ∈ tokens.map (Token.fill value.1.toList value.2.toList),
          token.IsPlain := by
        intro token mem
        obtain ⟨token, held, rfl⟩ := List.mem_map.1 mem
        exact (plain token held).fill _ here
      rw [List.foldl_cons, slot, Token.replaceAll_flatMap _ plain some closed,
        ih filled names others, List.flatMap_map, Token.charsIn_cons]

/-- Filling one slot after the other comes to filling all at once, if no value has an opening brace
in it. -/
theorem toList_fill {template : Template} {values : List (String × String)}
    (plain : ∀ token ∈ template.tokens, token.IsPlain)
    (names : ∀ value ∈ values, value.1.toList ≠ [] ∧ '\x7d' ∉ value.1.toList)
    (braceless : ∀ value ∈ values, '\x7b' ∉ value.2.toList) :
    (template.fill values).toList = template.tokens.flatMap (Token.charsIn values) := by
  rw [fill, String.toList_ofList, ← foldl_replaceAll plain names braceless, tokens,
    Token.flatMap_ofChars]

end Template

end LuaBundle
