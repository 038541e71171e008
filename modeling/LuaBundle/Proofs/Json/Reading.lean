import LuaBundle.Json.Reader
import LuaBundle.Json.Value
import Mathlib.Data.List.Forall2

/-! # Written values are read back

`Reads` says that a reader takes a text for a value wherever the text stands: behind any blanks, and
in front of anything that can follow a value. Lists and objects are texts in brackets with commas
between them and the same blanks in front of each, on one line or over several. A list is read back
if its items are. An object is read field by field, each field from the state that the one before it
left, and a dictionary and a record differ only in what they do about a field.
-/

namespace LuaBundle.Json

/-! ## Strings -/

theorem hexValue?_hexDigit (n : Nat) : hexValue? (hexDigit n) = some (n % 16) := by
  have each : ∀ digit < 16, hexValue? (Nat.digitChar digit) = some digit := by decide
  exact each (n % 16) (Nat.mod_lt n (by decide))

theorem hexFour_eq {a b c d : Char} {i j k l : Nat} (first : hexValue? a = some i)
    (second : hexValue? b = some j) (third : hexValue? c = some k) (fourth : hexValue? d = some l)
    (rest : List Char) :
    hexFour (a :: b :: c :: d :: rest) = .ok (((i * 16 + j) * 16 + k) * 16 + l, rest) := by
  have long : ¬ Text.byteLength (a :: b :: c :: d :: rest) < 4 := by
    have := a.utf8Size_pos
    have := b.utf8Size_pos
    have := c.utf8Size_pos
    have := d.utf8Size_pos
    simp only [Text.byteLength]
    omega
  simp only [hexFour, long, if_false, first, second, third, fourth]

theorem hexFour_control {n : Nat} (control : n < 0x20) (rest : List Char) :
    hexFour ('0' :: '0' :: hexDigit (n / 16) :: hexDigit n :: rest) = .ok (n, rest) := by
  have zero : hexValue? '0' = some 0 := by decide
  rw [hexFour_eq zero zero (hexValue?_hexDigit _) (hexValue?_hexDigit _)]
  congr 2
  omega

theorem unescape_control {c : Char} (control : c.toNat < 0x20) (rest : List Char) :
    unescape ('u' :: '0' :: '0' :: hexDigit (c.toNat / 16) :: hexDigit c.toNat :: rest) =
      .ok (c, rest) := by
  have single : isTrailing c.toNat = false ∧ isLeading c.toNat = false := by
    simp only [isTrailing, isLeading, Bool.and_eq_false_imp, decide_eq_true_eq,
      decide_eq_false_iff_not]
    omega
  rw [unescape, unicodeEscape, hexFour_control control]
  simp [single]

theorem stringBody_of_unescape {s rest chars after : List Char} {c : Char}
    (escaped : unescape s = .ok (c, rest)) (read : stringBody rest = .ok (chars, after)) :
    stringBody ('\\' :: s) = .ok (c :: chars, after) := by
  rw [stringBody]
  split
  · next failed =>
      rw [escaped] at failed
      cases failed
  · next found =>
      rw [escaped] at found
      cases found
      rw [read]

/-- A character is read back from how it is written. -/
theorem stringBody_escape (c : Char) {rest chars after : List Char}
    (read : stringBody rest = .ok (chars, after)) :
    stringBody (escape c ++ rest) = .ok (c :: chars, after) := by
  unfold escape
  split
  · exact stringBody_of_unescape rfl read
  · exact stringBody_of_unescape rfl read
  · exact stringBody_of_unescape rfl read
  · exact stringBody_of_unescape rfl read
  · exact stringBody_of_unescape rfl read
  · exact stringBody_of_unescape rfl read
  · exact stringBody_of_unescape rfl read
  · next mark slash _ _ _ _ _ =>
      split
      · next control => exact stringBody_of_unescape (unescape_control control rest) read
      · next plain =>
          rw [List.cons_append, List.nil_append, stringBody, if_neg plain, read]
          · exact mark
          · exact slash

theorem stringBody_flatMap_escape (value rest : List Char) :
    stringBody (value.flatMap escape ++ '"' :: rest) = .ok (value, rest) := by
  induction value with
  | nil => rw [List.flatMap_nil, List.nil_append, stringBody]
  | cons c value ih =>
      rw [List.flatMap_cons, List.append_assoc]
      exact stringBody_escape c ih

theorem quote_append (value : String) (rest : List Char) :
    quote value ++ rest = '"' :: (value.toList.flatMap escape ++ '"' :: rest) := by
  simp [quote]

/-! ## Blanks -/

/-- A blank that may stand between the parts of a text. -/
def isGap (c : Char) : Bool :=
  c == ' ' || c == '\n' || c == '\t' || c == '\r'

/-- Nothing but blanks. -/
def Gap (s : List Char) : Prop :=
  ∀ c ∈ s, isGap c = true

theorem gap_nil : Gap [] := by
  simp [Gap]

theorem gap_blank : Gap [' '] := by
  simp [Gap, isGap]

theorem gap_newline (level : Nat) : Gap (newline level) := by
  intro c mem
  rcases List.mem_cons.1 mem with rfl | mem
  · rfl
  · rw [List.eq_of_mem_replicate mem]
    rfl

theorem skipBlanks_gap {gap : List Char} (blank : Gap gap) (s : List Char) :
    skipBlanks (gap ++ s) = skipBlanks s :=
  List.dropWhile_append_of_pos blank

theorem skipBlanks_cons {gap : List Char} {c : Char} (blank : Gap gap) (started : isGap c = false)
    (s : List Char) : skipBlanks (gap ++ c :: s) = c :: s := by
  rw [skipBlanks_gap blank]
  exact List.dropWhile_cons_of_neg (by simpa [isGap] using started)

/-- What can stand behind a value: the end, a blank, a comma or a closing bracket. -/
def Delimited (s : List Char) : Prop :=
  ∀ c ∈ s.head?, isGap c = true ∨ c = ',' ∨ c = ']' ∨ c = '\x7d'

theorem delimited_gap {gap s : List Char} (blank : Gap gap) (delimited : Delimited s) :
    Delimited (gap ++ s) := by
  cases gap with
  | nil => exact delimited
  | cons c gap =>
      intro first same
      cases same
      exact .inl (blank c List.mem_cons_self)

namespace Reader

variable {α β σ : Type}

/-- A reader takes a text for a value, behind any blanks and in front of anything that can follow.
The text starts with something that is neither a blank nor the end of a list. -/
structure Reads (reader : Reader α) (text : List Char) (value : α) : Prop where
  starts : ∃ c rest, text = c :: rest ∧ isGap c = false ∧ c ≠ ']'
  run : ∀ {gap rest : List Char}, Gap gap → Delimited rest →
    reader.run (gap ++ (text ++ rest)) = .ok (value, rest)

theorem Reads.skipBlanks {reader : Reader α} {text : List Char} {value : α}
    (reads : reader.Reads text value) {gap : List Char} (blank : Gap gap) (rest : List Char) :
    ∃ c more, skipBlanks (gap ++ (text ++ rest)) = c :: more ∧ c :: more = text ++ rest ∧
      c ≠ ']' := by
  obtain ⟨c, more, rfl, started, unlike⟩ := reads.starts
  exact ⟨c, more ++ rest, skipBlanks_cons blank started _, rfl, unlike⟩

theorem Reads.map {reader : Reader α} {text : List Char} {value : α} (f : α → β)
    (reads : reader.Reads text value) : (reader.map f).Reads text (f value) := by
  refine ⟨reads.starts, fun blank delimited => ?_⟩
  simp only [Reader.map, reads.run blank delimited]

/-- A text that is read for a value is read for it as a whole. -/
theorem Reads.parse {reader : Reader α} {text : List Char} {value : α}
    (reads : reader.Reads text value) : reader.parse (String.ofList text) = .ok value := by
  have read : reader.run text = .ok (value, []) := by
    have read := reads.run gap_nil (by simp [Delimited] : Delimited [])
    rwa [List.append_nil, List.nil_append] at read
  simp only [Reader.parse, String.toList_ofList, read]
  rfl

theorem reads_string (value : String) : string.Reads (quote value) value := by
  refine ⟨⟨'"', _, rfl, rfl, by decide⟩, ?_⟩
  intro gap rest blank _
  have skipped := skipBlanks_cons (c := '"') blank rfl (value.toList.flatMap escape ++ '"' :: rest)
  simp only [string, quote_append, skipped, stringBody_flatMap_escape, String.ofList_toList]

/-! ## Lists -/

/-- Texts up to a closing bracket, with commas between them and the same blanks in front of each. -/
def inside (right : Char) (gap last : List Char) : List (List Char) → List Char
  | [] => [right]
  | first :: more =>
    gap ++ (first ++ (more.flatMap (fun text => ',' :: (gap ++ text)) ++ (last ++ [right])))

variable {gap last rest : List Char} {texts : List (List Char)}

theorem delimited_more (gap rest : List Char) (texts : List (List Char)) (blank : Gap last)
    {c : Char} (ending : c = ']' ∨ c = '\x7d') :
    Delimited (texts.flatMap (fun text => ',' :: (gap ++ text)) ++ (last ++ c :: rest)) := by
  cases texts with
  | nil =>
      apply delimited_gap blank
      intro first same
      cases same
      exact .inr (.inr ending)
  | cons text texts =>
      intro first same
      cases same
      exact .inr (.inl rfl)

section Items

variable {item : Reader α} {values : List α}

theorem nextItem_end (blank : Gap last) : nextItem (last ++ ']' :: rest) = .ok (none, rest) := by
  have skipped : skipBlanks (last ++ ']' :: rest) = ']' :: rest := skipBlanks_cons blank rfl rest
  simp only [nextItem, skipped]

theorem nextItem_comma {text : List Char} {value : α} (reads : item.Reads text value)
    (blank : Gap gap) (rest : List Char) :
    nextItem (',' :: (gap ++ (text ++ rest))) = .ok (some (), text ++ rest) := by
  have comma : skipBlanks (',' :: (gap ++ (text ++ rest))) = ',' :: (gap ++ (text ++ rest)) :=
    skipBlanks_cons gap_nil rfl _
  obtain ⟨c, more, skipped, same, unlike⟩ := reads.skipBlanks blank rest
  simp only [nextItem, comma, skipped]
  split
  · next same => cases same
  · next same =>
      cases same
      exact absurd rfl unlike
  · rw [same]

theorem moreItems_of_end {s : List Char} (ended : nextItem s = .ok (none, rest)) :
    moreItems item s = .ok ([], rest) := by
  rw [moreItems]
  split
  · next found =>
      rw [ended] at found
      cases found
  · next found =>
      rw [ended] at found
      cases found
      rfl
  · next found =>
      rw [ended] at found
      cases found

theorem moreItems_of_comma {s between behind : List Char} {value : α}
    (comma : nextItem s = .ok (some (), between)) (read : item.run between = .ok (value, behind))
    (further : moreItems item behind = .ok (values, rest)) :
    moreItems item s = .ok (value :: values, rest) := by
  rw [moreItems]
  split
  · next found =>
      rw [comma] at found
      cases found
  · next found =>
      rw [comma] at found
      cases found
  · next found =>
      rw [comma] at found
      cases found
      split
      · next unread =>
          rw [read] at unread
          cases unread
      · next found =>
          rw [read] at found
          cases found
          rw [further]

/-- Items behind the first are read back, each from its comma to the next. -/
theorem moreItems_eq (blank : Gap gap) (blankLast : Gap last)
    (reads : List.Forall₂ item.Reads texts values) :
    moreItems item (texts.flatMap (fun text => ',' :: (gap ++ text)) ++ (last ++ ']' :: rest)) =
      .ok (values, rest) := by
  induction reads with
  | nil => exact moreItems_of_end (nextItem_end blankLast)
  | @cons text value texts values here _ ih =>
      simp only [List.flatMap_cons, List.cons_append, List.append_assoc]
      apply moreItems_of_comma (nextItem_comma here blank _) _ ih
      exact here.run gap_nil (delimited_more gap rest texts blankLast (.inl rfl))

theorem items_inside (blank : Gap gap) (blankLast : Gap last)
    (reads : List.Forall₂ item.Reads texts values) (rest : List Char) :
    items item (inside ']' gap last texts ++ rest) = .ok (values, rest) := by
  cases reads with
  | nil =>
      have skipped : skipBlanks (']' :: rest) = ']' :: rest := skipBlanks_cons gap_nil rfl rest
      simp only [inside, List.cons_append, List.nil_append, items, skipped]
  | @cons text value texts values first reads =>
      have read := first.run gap_nil (delimited_more gap rest texts blankLast (.inl rfl))
      obtain ⟨c, more, skipped, same, unlike⟩ := first.skipBlanks blank
        (texts.flatMap (fun text => ',' :: (gap ++ text)) ++ (last ++ ']' :: rest))
      rw [List.nil_append, ← same] at read
      simp only [inside, List.append_assoc, List.cons_append, List.nil_append, items, skipped]
      split
      · next same => cases same
      · next same =>
          cases same
          exact absurd rfl unlike
      · simp only [read, moreItems_eq blank blankLast reads]

/-- A list is read back if its items are. -/
theorem reads_list (blank : Gap gap) (blankLast : Gap last)
    (reads : List.Forall₂ item.Reads texts values) :
    (list item).Reads ('[' :: inside ']' gap last texts) values := by
  refine ⟨⟨'[', _, rfl, rfl, by decide⟩, ?_⟩
  intro before rest blankBefore _
  have skipped : skipBlanks (before ++ '[' :: (inside ']' gap last texts ++ rest)) =
      '[' :: (inside ']' gap last texts ++ rest) := skipBlanks_cons blankBefore rfl _
  simp only [list, List.cons_append, skipped, items_inside blank blankLast reads]

end Items

/-! ## Objects -/

section Fields

variable {rule : σ → String → FieldRule σ} {state next state' : σ}

/-- A field's text takes the reading of an object from one state to another. -/
def FieldReads (rule : σ → String → FieldRule σ) (state : σ) (text : List Char) (next : σ) :
    Prop :=
  ∃ body, text = '"' :: body ∧
    ∀ {rest : List Char}, Delimited rest → field rule state (body ++ rest) = .ok (next, rest)

/-- The fields of an object, each read from the state that the one before it left. -/
inductive FieldsRead (rule : σ → String → FieldRule σ) : σ → List (List Char) → σ → Prop
  | nil {state : σ} : FieldsRead rule state [] state
  | cons {state next state' : σ} {text : List Char} {texts : List (List Char)} :
      FieldReads rule state text next → FieldsRead rule next texts state' →
      FieldsRead rule state (text :: texts) state'

theorem colon_cons (s : List Char) : colon (':' :: s) = .ok s := by
  have skipped : skipBlanks (':' :: s) = ':' :: s := skipBlanks_cons gap_nil rfl s
  simp only [colon, skipped]

/-- The text of a field, from its name and the text of its value. -/
def keyed (pad : List Char) (key : String) (text : List Char) : List Char :=
  quote key ++ ':' :: (pad ++ text)

theorem fieldReads_take {key : String} {reader : Reader σ} {pad text : List Char}
    (taken : rule state key = .take reader) (blank : Gap pad) (reads : reader.Reads text next) :
    FieldReads rule state (keyed pad key text) next := by
  refine ⟨_, quote_append key _, ?_⟩
  intro rest delimited
  simp only [List.append_assoc, List.cons_append, field, stringBody_flatMap_escape,
    String.ofList_toList, taken, colon_cons]
  exact reads.run blank delimited

theorem nextField_end (blank : Gap last) :
    nextField (last ++ '\x7d' :: rest) = .ok (none, rest) := by
  have skipped : skipBlanks (last ++ '\x7d' :: rest) = '\x7d' :: rest :=
    skipBlanks_cons blank rfl rest
  simp only [nextField, skipped]

theorem nextField_comma (blank : Gap gap) (s : List Char) :
    nextField (',' :: (gap ++ '"' :: s)) = .ok (some (), s) := by
  have comma : skipBlanks (',' :: (gap ++ '"' :: s)) = ',' :: (gap ++ '"' :: s) :=
    skipBlanks_cons gap_nil rfl _
  have skipped : skipBlanks (gap ++ '"' :: s) = '"' :: s := skipBlanks_cons blank rfl s
  simp only [nextField, comma, skipped]

theorem moreFields_of_end {s : List Char} (ended : nextField s = .ok (none, rest)) :
    moreFields rule state s = .ok (state, rest) := by
  rw [moreFields]
  split
  · next found =>
      rw [ended] at found
      cases found
  · next found =>
      rw [ended] at found
      cases found
      rfl
  · next found =>
      rw [ended] at found
      cases found

theorem moreFields_of_comma {s between behind : List Char}
    (comma : nextField s = .ok (some (), between))
    (read : field rule state between = .ok (next, behind)) :
    moreFields rule state s = moreFields rule next behind := by
  rw [moreFields]
  split
  · next found =>
      rw [comma] at found
      cases found
  · next found =>
      rw [comma] at found
      cases found
  · next found =>
      rw [comma] at found
      cases found
      split
      · next unread =>
          rw [read] at unread
          cases unread
      · next found =>
          rw [read] at found
          cases found
          rfl

/-- Fields behind the first are read, each from its comma to the next. -/
theorem moreFields_eq (blank : Gap gap) (blankLast : Gap last)
    (reads : FieldsRead rule state texts state') :
    moreFields rule state (texts.flatMap (fun text => ',' :: (gap ++ text)) ++
      (last ++ '\x7d' :: rest)) = .ok (state', rest) := by
  induction reads with
  | nil => exact moreFields_of_end (nextField_end blankLast)
  | @cons state next state' text texts here _ ih =>
      obtain ⟨body, rfl, read⟩ := here
      simp only [List.flatMap_cons, List.cons_append, List.append_assoc]
      rw [moreFields_of_comma (nextField_comma blank _)
        (read (delimited_more gap rest texts blankLast (.inr rfl)))]
      exact ih

theorem fields_inside (blank : Gap gap) (blankLast : Gap last)
    (reads : FieldsRead rule state texts state') (rest : List Char) :
    fields rule state (inside '\x7d' gap last texts ++ rest) = .ok (state', rest) := by
  cases reads with
  | nil =>
      have skipped : skipBlanks ('\x7d' :: rest) = '\x7d' :: rest :=
        skipBlanks_cons gap_nil rfl rest
      simp only [inside, List.cons_append, List.nil_append, fields, skipped]
  | @cons state next state' text texts first reads =>
      obtain ⟨body, rfl, read⟩ := first
      have skipped := fun s : List Char => skipBlanks_cons blank (show isGap '"' = false from rfl) s
      simp only [inside, List.append_assoc, List.cons_append, List.nil_append, fields, skipped]
      rw [read (delimited_more gap rest texts blankLast (.inr rfl))]
      exact moreFields_eq blank blankLast reads

/-- A record is read from an object whose fields lead to all that the record needs. -/
theorem reads_record {shape : RecordShape σ α} {value : α} (blank : Gap gap)
    (blankLast : Gap last) (reads : FieldsRead shape.rule shape.start texts state)
    (finished : shape.finish state = .ok value) :
    (record shape).Reads ('\x7b' :: inside '\x7d' gap last texts) value := by
  refine ⟨⟨'\x7b', _, rfl, rfl, by decide⟩, ?_⟩
  intro before rest blankBefore _
  have skipped : skipBlanks (before ++ '\x7b' :: (inside '\x7d' gap last texts ++ rest)) =
      '\x7b' :: (inside '\x7d' gap last texts ++ rest) := skipBlanks_cons blankBefore rfl _
  simp only [record, List.cons_append, skipped, fields_inside blank blankLast reads, finished]

end Fields

/-- A rule that puts each new key behind those it knows is led through distinct keys in their
order. -/
theorem fieldsRead_entries {rule : List (String × α) → String → FieldRule (List (String × α))}
    {value : Reader α} {pad : List Char} (blank : Gap pad) {text : α → List Char}
    (taken : ∀ known key, key ∉ known.map Prod.fst → ∃ reader, rule known key = .take reader ∧
      ∀ {text given}, value.Reads text given → reader.Reads text (known ++ [(key, given)]))
    {known entries : List (String × α)}
    (reads : ∀ entry ∈ entries, value.Reads (text entry.2) entry.2)
    (distinct : ((known ++ entries).map Prod.fst).Nodup) :
    FieldsRead rule known (entries.map fun entry => keyed pad entry.1 (text entry.2))
      (known ++ entries) := by
  induction entries generalizing known with
  | nil =>
      rw [List.append_nil]
      exact .nil
  | cons entry entries ih =>
      obtain ⟨key, given⟩ := entry
      have fresh : key ∉ known.map Prod.fst := by
        intro old
        rw [List.map_append, List.nodup_append] at distinct
        exact distinct.2.2 key old key List.mem_cons_self rfl
      obtain ⟨reader, takes, added⟩ := taken known key fresh
      have further : known ++ (key, given) :: entries = known ++ [(key, given)] ++ entries := by
        rw [List.append_assoc, List.singleton_append]
      rw [further] at distinct ⊢
      refine .cons (fieldReads_take takes blank (added (reads _ List.mem_cons_self))) ?_
      exact ih (fun entry mem => reads entry (List.mem_cons_of_mem _ mem)) distinct

/-- A dictionary is read back in its order if its values are and no key stands twice. -/
theorem reads_dictionary {value : Reader α} {pad : List Char} {entries : List (String × α)}
    (text : α → List Char) (blank : Gap gap) (blankLast : Gap last) (blankPad : Gap pad)
    (reads : ∀ entry ∈ entries, value.Reads (text entry.2) entry.2)
    (distinct : (entries.map Prod.fst).Nodup) :
    (dictionary value).Reads ('\x7b' :: inside '\x7d' gap last
      (entries.map fun entry => keyed pad entry.1 (text entry.2))) entries := by
  refine ⟨⟨'\x7b', _, rfl, rfl, by decide⟩, ?_⟩
  intro before rest blankBefore _
  have skipped := fun s : List Char =>
    skipBlanks_cons blankBefore (show isGap '\x7b' = false from rfl) s
  simp only [dictionary, List.cons_append, skipped]
  rw [← List.nil_append entries] at distinct
  refine fields_inside blank blankLast (fieldsRead_entries blankPad ?_ reads distinct) rest
  intro known key fresh
  refine ⟨_, rfl, ?_⟩
  intro text given read
  have unknown : known.any (·.1 == key) = false := by
    rw [List.any_eq_false]
    intro entry mem same
    exact fresh (List.mem_map.2 ⟨entry, mem, eq_of_beq same⟩)
  have behind {replaced : List (String × α)} :
      (if known.any (·.1 == key) then replaced else known ++ [(key, given)]) =
        known ++ [(key, given)] := by
    rw [unknown]
    rfl
  rw [← behind]
  exact read.map _

end Reader

/-! ## Values over several lines -/

open Reader (inside keyed)

theorem prettyItems_cons (level : Nat) (item : Json) (items : List Json) :
    prettyItems level (item :: items) = newline level ++ (pretty level item ++
      (items.map (pretty level)).flatMap fun text => ',' :: (newline level ++ text)) := by
  induction items generalizing item with
  | nil => simp [prettyItems]
  | cons next items ih => simp [prettyItems, ih]

theorem prettyFields_cons (level : Nat) (field : String × Json) (fields : List (String × Json)) :
    prettyFields level (field :: fields) =
      newline level ++ (keyed [' '] field.1 (pretty level field.2) ++
        (fields.map fun field => keyed [' '] field.1 (pretty level field.2)).flatMap
          fun text => ',' :: (newline level ++ text)) := by
  induction fields generalizing field with
  | nil => simp [prettyFields, keyed]
  | cons next fields ih => simp [prettyFields, ih, keyed]

theorem pretty_list (level : Nat) (items : List Json) :
    pretty level (.list items) = '[' :: inside ']' (newline (level + 1)) (newline level)
      (items.map (pretty (level + 1))) := by
  cases items with
  | nil => rw [pretty, List.map_nil, inside]
  | cons item items => simp [pretty, prettyItems_cons, inside]

theorem pretty_object (level : Nat) (fields : List (String × Json)) :
    pretty level (.object fields) = '\x7b' :: inside '\x7d' (newline (level + 1)) (newline level)
      (fields.map fun field => keyed [' '] field.1 (pretty (level + 1) field.2)) := by
  cases fields with
  | nil => rw [pretty, List.map_nil, inside]
  | cons field fields => simp [pretty, prettyFields_cons, inside]

theorem reads_pretty_string (level : Nat) (value : String) :
    Reader.string.Reads (pretty level (.string value)) value := by
  rw [pretty]
  exact Reader.reads_string value

theorem reads_pretty_strings (level : Nat) (values : List String) :
    (Reader.list Reader.string).Reads (pretty level (.list (values.map .string))) values := by
  rw [pretty_list, List.map_map]
  apply Reader.reads_list (gap_newline _) (gap_newline _)
  rw [List.forall₂_map_left_iff, List.forall₂_same]
  intro value _
  exact reads_pretty_string _ value

end LuaBundle.Json
