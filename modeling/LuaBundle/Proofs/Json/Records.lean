import LuaBundle.Proofs.Json.Passing

/-! # Records whose fields come in any order

A record is written as an object. Its fields may come in any order, fields that are as in the
default may be left out, and fields with other names may stand among them: `Gives` says this of the
fields of an object. The reader's state follows which fields it knows, so a field of the record
leads to the state that knows one name more and any other field keeps the state.
-/

namespace LuaBundle.Json

/-! ## Numbers -/

theorem le_ofDigitChars (digits : List Char) (n : Nat) : n ≤ Nat.ofDigitChars 10 digits n := by
  induction digits generalizing n with
  | nil => exact Nat.le_refl n
  | cons c digits ih =>
      rw [Nat.ofDigitChars_cons]
      exact Nat.le_trans (by omega) (ih _)

/-- Digits are all taken if what they say fits. -/
theorem takeDigits_eq {digits : List Char} {n : Nat}
    (fits : Nat.ofDigitChars 10 digits n < UInt64.size) :
    takeDigits n digits = (Nat.ofDigitChars 10 digits n, digits.length, 0) := by
  induction digits generalizing n with
  | nil => rfl
  | cons c digits ih =>
      rw [Nat.ofDigitChars_cons, Nat.mul_comm] at fits ⊢
      have small := Nat.not_le.2 (Nat.lt_of_le_of_lt (le_ofDigitChars digits _) fits)
      simp only [takeDigits, small, if_false, ih fits, List.length_cons]

theorem head_toDigits {n : Nat} (positive : 0 < n) :
    ∃ c more, Nat.toDigits 10 n = c :: more ∧ c ≠ '0' := by
  induction n using Nat.strongRecOn with
  | ind n ih =>
      rw [Nat.toDigits_eq_if (by decide)]
      split
      · next small =>
          have each : ∀ digit < 10, 0 < digit → Nat.digitChar digit ≠ '0' := by decide
          exact ⟨_, [], rfl, each n small positive⟩
      · -- The last digit stands behind the digits of the tenth part, so these bring the first.
        obtain ⟨c, more, spelled, unzero⟩ := ih (n / 10) (by omega) (by omega)
        rw [spelled]
        exact ⟨c, _, rfl, unzero⟩

theorem isDigit_of_mem_toDigits {n : Nat} {c : Char} (mem : c ∈ Nat.toDigits 10 n) :
    isDigit c = true :=
  Nat.isDigit_of_mem_toDigits (by decide) (by decide) mem

theorem afterWhole_end {rest : List Char} (ended : EndsNumber rest) (n : Nat) :
    afterWhole false n 0 rest = .ok (.integer n, rest) := by
  unfold afterWhole
  split
  · exact absurd rfl (ended _ rfl).2.1
  · exact absurd rfl (ended _ rfl).2.2.1
  · exact absurd rfl (ended _ rfl).2.2.2
  · rfl

/-- A number without sign is read back if it fits into 64 bits. -/
theorem readNumber_toDigits {n : Nat} (small : n < UInt64.size) {rest : List Char}
    (ended : EndsNumber rest) :
    readNumber false (Nat.toDigits 10 n ++ rest) = .ok (.integer n, rest) := by
  have undigit : ∀ c ∈ rest.head?, isDigit c = false := fun c first => (ended c first).1
  rcases Nat.eq_zero_or_pos n with rfl | positive
  · cases rest with
    | nil => rfl
    | cons c rest =>
        have read := afterWhole_end ended 0
        simp [Nat.toDigits_zero, readNumber, undigit c rfl, read]
  · have digits : ∀ c ∈ Nat.toDigits 10 n, isDigit c = true :=
      fun c => isDigit_of_mem_toDigits
    have taken : takeDigits 0 (Nat.toDigits 10 n) = (n, (Nat.toDigits 10 n).length, 0) := by
      rw [takeDigits_eq] <;> rw [Nat.ofDigitChars_ten_toDigits]
      exact small
    obtain ⟨c, more, spelled, unzero⟩ := head_toDigits positive
    rw [spelled] at digits taken ⊢
    rw [List.cons_append, readNumber, if_pos (digits c List.mem_cons_self), ← List.cons_append,
      takeWhile_digits digits undigit, taken,
      dropWhile_digits (fun d mem => digits d (List.mem_cons_of_mem c mem)) undigit]
    · exact afterWhole_end ended n
    · exact unzero

namespace Reader

theorem reads_bool (value : Bool) : bool.Reads (renderBool value) value := by
  have starts := starts_of_isValue (.bool value)
  refine ⟨?_, ?_⟩
  · obtain ⟨c, more, spelled, started, other⟩ := starts
    exact ⟨c, more, spelled, started, other .list⟩
  · intro gap rest blank _
    simp only [bool, skipBlanks_of_starts blank starts]
    cases value <;> rfl

theorem natural32_toNat (value : UInt32) (rest : List Char) :
    natural32 (.integer value.toNat) rest = .ok (value, rest) := by
  have small : (value.toNat : Int) < UInt32.size := Int.ofNat_lt.2 value.toNat_lt_size
  rw [natural32, if_pos ⟨Int.natCast_nonneg _, small⟩, Int.toNat_natCast, UInt32.ofNat_toNat]

theorem reads_uint32 (value : UInt32) :
    uint32.Reads (toString (value.toNat : Int)).toList value := by
  have spelled : (toString (value.toNat : Int)).toList = Nat.toDigits 10 value.toNat :=
    Nat.toList_repr
  rw [spelled]
  obtain ⟨c, more, cut⟩ : ∃ c more, Nat.toDigits 10 value.toNat = c :: more :=
    List.exists_cons_of_ne_nil Nat.toDigits_ne_nil
  have digit : isDigit c = true := isDigit_of_mem_toDigits (by rw [cut]; exact List.mem_cons_self)
  obtain ⟨_, _, same, started, other⟩ := starts_digit digit more
  cases same
  refine ⟨⟨c, more, cut, started, other .list⟩, ?_⟩
  intro gap rest blank delimited
  have small : value.toNat < UInt64.size := Nat.lt_trans value.toNat_lt_size (by decide)
  have read := readNumber_toDigits small delimited.endsNumber
  rw [cut, List.cons_append] at read ⊢
  simp only [uint32, skipBlanks_cons blank started]
  split
  · next same =>
      cases same
      cases digit
  · next same =>
      cases same
      simp only [digit, if_true, read, natural32_toNat]
  · next same => cases same

end Reader

/-! ## Values on one line -/

open Reader (inside keyed FieldReads FieldsRead RecordShape)

theorem compactItems_cons (item : Json) (items : List Json) :
    compactItems (item :: items) =
      compact item ++ (items.map compact).flatMap fun text => ',' :: text := by
  induction items generalizing item with
  | nil => simp [compactItems]
  | cons next items ih => simp [compactItems, ih]

theorem compactFields_cons (field : String × Json) (fields : List (String × Json)) :
    compactFields (field :: fields) = keyed [] field.1 (compact field.2) ++
      (fields.map fun field => keyed [] field.1 (compact field.2)).flatMap
        fun text => ',' :: text := by
  induction fields generalizing field with
  | nil => simp [compactFields, keyed]
  | cons next fields ih => simp [compactFields, ih, keyed]

theorem compact_list (items : List Json) :
    compact (.list items) = '[' :: inside ']' [] [] (items.map compact) := by
  cases items with
  | nil => simp [compact, compactItems, inside]
  | cons item items => simp [compact, compactItems_cons, inside]

theorem compact_object (fields : List (String × Json)) :
    compact (.object fields) = '\x7b' :: inside '\x7d' [] []
      (fields.map fun field => keyed [] field.1 (compact field.2)) := by
  cases fields with
  | nil => simp [compact, compactFields, inside]
  | cons field fields => simp [compact, compactFields_cons, inside]

/-- A value as it is written, on one line or over several. -/
def IsText (value : Json) (text : List Char) : Prop :=
  text = compact value ∨ ∃ level, text = pretty level value

/-! ## Fields in any order -/

/-- A field of a record: its name, default and value, and the text of the value unless the field is
left out. -/
structure Entry where
  name : String
  default : Json
  value : Json
  text? : Option (List Char)

/-- The field in an object, if it is not left out. -/
def Entry.given? (entry : Entry) : Option (String × List Char) :=
  entry.text?.map ((entry.name, ·))

/-- A text gives a value to somebody who knows a default. In an object any fields that are as in the
default may be left out, the others come in any order, and fields with unknown names may stand
between them; the same holds for the objects in it. -/
inductive Gives : Json → Json → List Char → Prop
  | plain {default value : Json} {text : List Char} : (∀ fields, value ≠ .object fields) →
      IsText value text → Gives default value text
  | object {entries : List Entry} {added given : List (String × List Char)}
      {gap last pad : List Char} :
      (∀ entry ∈ entries, entry.text? = none → entry.value = entry.default) →
      (∀ entry ∈ entries, ∀ text, entry.text? = some text →
        Gives entry.default entry.value text) →
      (∀ field ∈ added, field.1 ∉ entries.map Entry.name ∧ IsValue field.2) →
      given.Perm (entries.filterMap Entry.given? ++ added) → Gap gap → Gap last → Gap pad →
      Gives (.object (entries.map fun entry => (entry.name, entry.default)))
        (.object (entries.map fun entry => (entry.name, entry.value)))
        ('\x7b' :: inside '\x7d' gap last (given.map fun field => keyed pad field.1 field.2))

section Plain

variable {default : Json} {text : List Char}

theorem Gives.isText {value : Json} (gives : Gives default value text)
    (plain : ∀ fields, value ≠ .object fields) : IsText value text := by
  cases gives with
  | plain _ isText => exact isText
  | object => exact absurd rfl (plain _)

theorem Gives.reads_bool {value : Bool} (gives : Gives default (.bool value) text) :
    Reader.bool.Reads text value := by
  rcases gives.isText nofun with rfl | ⟨level, rfl⟩
  · rw [compact]
    exact Reader.reads_bool value
  · rw [pretty]
    exact Reader.reads_bool value

theorem Gives.reads_uint32 {value : UInt32} (gives : Gives default (.number value.toNat) text) :
    Reader.uint32.Reads text value := by
  rcases gives.isText nofun with rfl | ⟨level, rfl⟩
  · rw [compact]
    exact Reader.reads_uint32 value
  · rw [pretty]
    exact Reader.reads_uint32 value

theorem Gives.reads_string {value : String} (gives : Gives default (.string value) text) :
    Reader.string.Reads text value := by
  rcases gives.isText nofun with rfl | ⟨level, rfl⟩
  · rw [compact]
    exact Reader.reads_string value
  · exact reads_pretty_string level value

theorem Gives.reads_strings {values : List String}
    (gives : Gives default (.list (values.map .string)) text) :
    (Reader.list Reader.string).Reads text values := by
  rcases gives.isText nofun with rfl | ⟨level, rfl⟩
  · rw [compact_list, List.map_map]
    apply Reader.reads_list gap_nil gap_nil
    rw [List.forall₂_map_left_iff, List.forall₂_same]
    intro value _
    rw [Function.comp_apply, compact]
    exact Reader.reads_string value
  · exact reads_pretty_strings level values

end Plain

theorem map_zip_names {defaults values : List (String × Json)}
    (names : defaults.map Prod.fst = values.map Prod.fst) :
    (defaults.zip values).map (fun pair => (pair.2.1, pair.1.2)) = defaults := by
  induction defaults generalizing values with
  | nil => rfl
  | cons field defaults ih =>
      cases values with
      | nil => cases names
      | cons value values =>
          obtain ⟨same, names⟩ := List.cons.inj names
          rw [List.zip_cons_cons, List.map_cons, ih names, ← same]

/-- An object on one line gives its value. -/
theorem gives_compact_object {defaults values : List (String × Json)}
    (names : defaults.map Prod.fst = values.map Prod.fst)
    (each : ∀ pair ∈ defaults.zip values, Gives pair.1.2 pair.2.2 (compact pair.2.2)) :
    Gives (.object defaults) (.object values) (compact (.object values)) := by
  -- Every field is an entry whose text is there, and nothing is added.
  let entries := (defaults.zip values).map fun pair =>
    Entry.mk pair.2.1 pair.1.2 pair.2.2 (some (compact pair.2.2))
  have long : values.length ≤ defaults.length := by
    have same := congrArg List.length names
    simp only [List.length_map] at same
    exact Nat.le_of_eq same.symm
  have isDefault : entries.map (fun entry => (entry.name, entry.default)) = defaults := by
    rw [List.map_map]
    exact map_zip_names names
  have isValue : entries.map (fun entry => (entry.name, entry.value)) = values := by
    rw [List.map_map]
    exact List.map_snd_zip long
  have kept : entries.filterMap Entry.given? =
      values.map fun field => (field.1, compact field.2) := by
    conv => rhs; rw [← isValue, List.map_map]
    rw [List.filterMap_map, List.map_map, ← List.filterMap_eq_map]
    rfl
  have perm : (values.map fun field => (field.1, compact field.2)).Perm
      (entries.filterMap Entry.given? ++ []) := by
    rw [List.append_nil, kept]
  have left : ∀ entry ∈ entries, entry.text? = none → entry.value = entry.default := by
    rw [List.forall_mem_map]
    intro pair _ unwritten
    cases unwritten
  have written : ∀ entry ∈ entries, ∀ text, entry.text? = some text →
      Gives entry.default entry.value text := by
    rw [List.forall_mem_map]
    intro pair mem text same
    cases same
    exact each pair mem
  have gives := Gives.object left written (by simp) perm gap_nil gap_nil gap_nil
  rw [isDefault, isValue, List.map_map] at gives
  rw [compact_object]
  exact gives

/-! ## Reading the fields -/

section Entries

variable {σ : Type} {rule : σ → String → Reader.FieldRule σ} {stateOf : List String → σ}
  {names known : List String} {given : List (String × List Char)} {pad : List Char}

theorem fieldReads_pass {key : String} {text : List Char} {state : σ}
    (unknown : rule state key = .pass) (blank : Gap pad) (isValue : IsValue text) :
    FieldReads rule state (keyed pad key text) state := by
  refine ⟨_, quote_append key _, ?_⟩
  intro rest delimited
  simp only [List.append_assoc, List.cons_append, Reader.field, stringBody_flatMap_escape,
    String.ofList_toList, unknown, Reader.colon_cons, skipValue_eq isValue blank delimited]

/-- A run over fields in any order ends in a state that knows all of them, if each field leads to
the state that knows its name too and any other field keeps the state. -/
theorem fieldsRead_given
    (taken : ∀ field ∈ given, field.1 ∈ names → ∀ known, field.1 ∉ known →
      FieldReads rule (stateOf known) (keyed pad field.1 field.2) (stateOf (field.1 :: known)))
    (passed : ∀ field ∈ given, field.1 ∉ names → ∀ state,
      FieldReads rule state (keyed pad field.1 field.2) state)
    (once : given.Pairwise fun a b => a.1 ∈ names → a.1 ≠ b.1)
    (fresh : ∀ field ∈ given, field.1 ∈ names → field.1 ∉ known) :
    ∃ last, FieldsRead rule (stateOf known) (given.map fun field => keyed pad field.1 field.2)
      (stateOf last) ∧ known ⊆ last ∧ ∀ field ∈ given, field.1 ∈ names → field.1 ∈ last := by
  -- The names that are known grow along the run and stay apart from those still to come.
  induction given generalizing known with
  | nil => exact ⟨known, .nil, List.Subset.refl known, by simp⟩
  | cons field given ih =>
      obtain ⟨here, taken⟩ := List.forall_mem_cons.1 taken
      obtain ⟨past, passed⟩ := List.forall_mem_cons.1 passed
      obtain ⟨unlike, once⟩ := List.pairwise_cons.1 once
      obtain ⟨new, fresh⟩ := List.forall_mem_cons.1 fresh
      by_cases wanted : field.1 ∈ names
      · have fresh' : ∀ next ∈ given, next.1 ∈ names → next.1 ∉ field.1 :: known := by
          intro next mem nextWanted old
          rcases List.mem_cons.1 old with same | old
          · exact unlike next mem wanted same.symm
          · exact fresh next mem nextWanted old
        obtain ⟨last, reads, kept, met⟩ := ih taken passed once fresh'
        refine ⟨last, .cons (here wanted known (new wanted)) reads, ?_, ?_⟩
        · exact fun name mem => kept (List.mem_cons_of_mem _ mem)
        · exact List.forall_mem_cons.2 ⟨fun _ => kept List.mem_cons_self, met⟩
      · obtain ⟨last, reads, kept, met⟩ := ih taken passed once fresh
        refine ⟨last, .cons (past wanted _) reads, kept, ?_⟩
        exact List.forall_mem_cons.2 ⟨fun mem => absurd mem wanted, met⟩

end Entries

section Arrangement

variable {entries : List Entry} {added given : List (String × List Char)}
  {field : String × List Char}

theorem mem_given?_iff :
    field ∈ entries.filterMap Entry.given? ↔
      ∃ entry ∈ entries, entry.name = field.1 ∧ entry.text? = some field.2 := by
  simp only [List.mem_filterMap, Entry.given?, Option.map_eq_some_iff, Prod.ext_iff]
  constructor
  · rintro ⟨entry, mem, text, written, named, rfl⟩
    exact ⟨entry, mem, named, written⟩
  · rintro ⟨entry, mem, named, written⟩
    exact ⟨entry, mem, field.2, written, named, rfl⟩

variable (unknown : ∀ field ∈ added, field.1 ∉ entries.map Entry.name ∧ IsValue field.2)
  (perm : given.Perm (entries.filterMap Entry.given? ++ added))

include unknown perm

theorem exists_entry_of_mem_given (mem : field ∈ given)
    (wanted : field.1 ∈ entries.map Entry.name) :
    ∃ entry ∈ entries, entry.name = field.1 ∧ entry.text? = some field.2 := by
  rcases List.mem_append.1 (perm.mem_iff.1 mem) with mem | mem
  · exact mem_given?_iff.1 mem
  · exact absurd wanted (unknown field mem).1

theorem isValue_of_mem_given (mem : field ∈ given) (other : field.1 ∉ entries.map Entry.name) :
    IsValue field.2 := by
  rcases List.mem_append.1 (perm.mem_iff.1 mem) with mem | mem
  · obtain ⟨entry, mem, named, -⟩ := mem_given?_iff.1 mem
    exact absurd (List.mem_map.2 ⟨entry, mem, named⟩) other
  · exact (unknown field mem).2

/-- None of the record's fields comes twice, while a field with another name may. -/
theorem pairwise_given (distinct : (entries.map Entry.name).Nodup) :
    given.Pairwise fun a b => a.1 ∈ entries.map Entry.name → a.1 ≠ b.1 := by
  have symmetric : ∀ {a b : String × List Char},
      (a.1 ∈ entries.map Entry.name → a.1 ≠ b.1) → b.1 ∈ entries.map Entry.name → b.1 ≠ a.1 :=
    fun unlike mem same => unlike (same ▸ mem) same.symm
  rw [perm.pairwise_iff symmetric, List.pairwise_append]
  refine ⟨?_, ?_, ?_⟩
  · have apart : entries.Pairwise fun a b => a.name ≠ b.name := List.pairwise_map.1 distinct
    rw [List.pairwise_filterMap]
    refine apart.imp ?_
    intro a b unlike field written field' written' _
    obtain ⟨_, -, rfl⟩ := Option.map_eq_some_iff.1 written
    obtain ⟨_, -, rfl⟩ := Option.map_eq_some_iff.1 written'
    exact unlike
  · exact List.pairwise_of_forall_mem_list fun a mem _ _ wanted =>
      absurd wanted (unknown a mem).1
  · intro a _ b mem wanted same
    exact (unknown b mem).1 (same ▸ wanted)

end Arrangement

section Records

variable {σ α β : Type} {shape : RecordShape σ α} {stateOf : List String → σ}

/-- A record's reader takes a field that it does not know yet, and then knows it too. -/
def Follows (shape : RecordShape σ α) (stateOf : List String → σ) (name : String)
    (default value : Json) : Prop :=
  ∀ known, name ∉ known → ∀ text, Gives default value text →
    ∃ reader, shape.rule (stateOf known) name = .take reader ∧
      reader.Reads text (stateOf (name :: known))

theorem follows_of_reads {name : String} {default json : Json} {reader : Reader β} {value : β}
    {isGiven : σ → Bool} {put : σ → β → σ}
    (found : shape.fields.find? (·.name == name) =
      some ⟨name, isGiven, fun state => reader.map (put state)⟩)
    (adds : ∀ known, name ∉ known → isGiven (stateOf known) = false ∧
      put (stateOf known) value = stateOf (name :: known))
    (reads : ∀ text, Gives default json text → reader.Reads text value) :
    Follows shape stateOf name default json := by
  intro known unknown text gives
  obtain ⟨new, added⟩ := adds known unknown
  refine ⟨reader.map (put (stateOf known)), ?_, ?_⟩
  · simp only [RecordShape.rule, found, new]
    rfl
  · rw [← added]
    exact (reads text gives).map _

theorem rule_of_unknown {name : String} (unknown : name ∉ shape.fields.map (·.name)) (state : σ) :
    shape.rule state name = .pass := by
  have missing : shape.fields.find? (·.name == name) = none := by
    rw [List.find?_eq_none]
    intro field mem same
    exact unknown (List.mem_map.2 ⟨field, mem, eq_of_beq same⟩)
  rw [RecordShape.rule, missing]

/-- A record is read from every text that gives its value, if its reader follows each of its
fields and completes what is left out. -/
theorem reads_record_of_gives {defaults values : List (String × Json)} {value : α}
    {text : List Char} (start : stateOf [] = shape.start)
    (names : shape.fields.map (·.name) = values.map Prod.fst)
    (distinct : (shape.fields.map (·.name)).Nodup)
    (follows : ∀ pair ∈ defaults.zip values, Follows shape stateOf pair.2.1 pair.1.2 pair.2.2)
    (finish : ∀ known, (∀ pair ∈ defaults.zip values, pair.2.1 ∈ known ∨ pair.2.2 = pair.1.2) →
      shape.finish (stateOf known) = .ok value)
    (gives : Gives (.object defaults) (.object values) text) :
    (Reader.record shape).Reads text value := by
  cases gives with
  | plain plain _ => exact absurd rfl (plain _)
  | @object entries added given gap last pad left written unknown perm blank blankLast blankPad =>
      simp only [List.zip_map', List.forall_mem_map, List.map_map] at names follows finish
      rw [names] at distinct
      have taken : ∀ field ∈ given, field.1 ∈ entries.map Entry.name → ∀ known, field.1 ∉ known →
          FieldReads shape.rule (stateOf known) (keyed pad field.1 field.2)
            (stateOf (field.1 :: known)) := by
        intro field mem wanted known new
        obtain ⟨entry, mem, named, spelled⟩ := exists_entry_of_mem_given unknown perm mem wanted
        rw [← named] at new ⊢
        obtain ⟨reader, takes, read⟩ := follows entry mem known new _ (written entry mem _ spelled)
        exact Reader.fieldReads_take takes blankPad read
      have passed : ∀ field ∈ given, field.1 ∉ entries.map Entry.name → ∀ state,
          FieldReads shape.rule state (keyed pad field.1 field.2) state := by
        intro field mem other state
        have unnamed : field.1 ∉ shape.fields.map (·.name) := by
          rw [names]
          exact other
        apply fieldReads_pass (rule_of_unknown unnamed state) blankPad
        exact isValue_of_mem_given unknown perm mem other
      obtain ⟨final, reads, -, met⟩ := fieldsRead_given taken passed
        (pairwise_given unknown perm distinct) fun _ _ _ => List.not_mem_nil
      rw [start] at reads
      refine Reader.reads_record blank blankLast reads (finish final ?_)
      intro entry mem
      cases spelled : entry.text? with
      | none => exact .inr (left entry mem spelled)
      | some text =>
          have stands : (entry.name, text) ∈ given := perm.mem_iff.2
            (List.mem_append_left _ (mem_given?_iff.2 ⟨entry, mem, rfl, spelled⟩))
          exact .inl (met _ stands (List.mem_map_of_mem mem))

end Records

end LuaBundle.Json
