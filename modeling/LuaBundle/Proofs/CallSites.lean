import LuaBundle.Proofs.Bytes
import LuaBundle.Proofs.CallCuts

/-! # Which calls are found

Where calls start is said here of the bytes of a source, without regard to how it is scanned. The
sites that the scan reports follow one another without overlap, each begins where a call starts,
and every other such place lies inside a reported call.

One kind of call that is no member of anything is nevertheless left out. The dot that makes a
member is told by a single byte, and so is the second dot of `..`.
-/

namespace LuaBundle

namespace ImportSite

open ImportCall ImportCuts

variable {name source s front back : List Char} {previous : Option Char} {cuts : ImportCuts}
  {site : ImportSite} {offset : Nat} {c : Char}

/-! ## Sites of cut calls -/

theorem ofCalls_prepend (name text : List Char) (offset : Nat) (cuts : ImportCuts) :
    ofCalls name offset (cuts.prepend text).calls =
      ofCalls name (offset + Text.byteLength text) cuts.calls := by
  obtain ⟨calls, tail⟩ := cuts
  cases calls with
  | nil => rfl
  | cons cut calls => simp [prepend, ofCalls, Nat.add_assoc]

/-- A site is where its call stands. -/
theorem mem_of_cuts (cut : Cuts name previous s cuts)
    (mem : site ∈ ofCalls name offset cuts.calls) :
    ∃ front back, s = front ++ (site.call.source name ++ back) ∧ site.call.IsWritten ∧
      (front.getLast?.or previous).all mayFollow = true ∧
      site.start = offset + Text.byteLength front ∧
      site.stop = site.start + Text.byteLength (site.call.source name) := by
  induction cut generalizing offset with
  | done => cases mem
  | @call previous call rest cuts free written _ ih =>
      rcases List.mem_cons.1 mem with rfl | mem
      · exact ⟨[], rest, rfl, written, free, rfl, rfl⟩
      · obtain ⟨front, back, rfl, written, free, start, stop⟩ := ih mem
        refine ⟨call.source name ++ front, back, by simp, written, ?_, ?_, stop⟩
        · rw [List.getLast?_append, getLast?_source, Option.or_assoc]
          exact free
        · rw [start]
          simp only [Text.byteLength, Text.byteLength_append]
          omega
  | @pass previous c rest cuts _ _ ih =>
      rw [ofCalls_prepend] at mem
      obtain ⟨front, back, rfl, written, free, start, stop⟩ := ih mem
      refine ⟨c :: front, back, rfl, written, ?_, ?_, stop⟩
      · rwa [getLast?_cons_or]
      · rw [start]
        simp only [Text.byteLength]
        omega

/-- No call starts outside of the sites. -/
theorem covers_of_cuts (cut : Cuts name previous s cuts) (offset : Nat) (whole : s = front ++ back)
    (starts : Starts name (front.getLast?.or previous) back) :
    ∃ site ∈ ofCalls name offset cuts.calls,
      site.start ≤ offset + Text.byteLength front ∧ offset + Text.byteLength front < site.stop := by
  induction cut generalizing offset front with
  | done =>
      obtain ⟨-, rfl⟩ := List.append_eq_nil_iff.1 whole.symm
      obtain ⟨-, call, rest, -, bad⟩ := starts
      exact absurd bad (by simp [ImportCall.source])
  | @call previous call rest cuts _ _ _ ih =>
      have passed : front <+: call.source name ++ rest := ⟨back, whole.symm⟩
      have taken : call.source name <+: call.source name ++ rest := List.prefix_append _ _
      -- The place is inside the call that is taken here, or else in the rest, which is cut further.
      by_cases inside : front.length < (call.source name).length
      · obtain ⟨more, same⟩ := List.prefix_of_prefix_length_le passed taken (Nat.le_of_lt inside)
        refine ⟨_, List.mem_cons_self, ?_, ?_⟩
        · simp [Text.byteLength]
        · have nonempty : more ≠ [] := by
            rintro rfl
            simp [← same] at inside
          have := Text.byteLength_pos nonempty
          simp only [← same, Text.byteLength, Text.byteLength_append]
          omega
      · obtain ⟨more, rfl⟩ :=
          List.prefix_of_prefix_length_le taken passed (Nat.le_of_not_lt inside)
        rw [List.append_assoc, List.append_cancel_left_eq] at whole
        rw [List.getLast?_append, getLast?_source, Option.or_assoc] at starts
        obtain ⟨site, mem, low, high⟩ :=
          ih (offset + 0 + Text.byteLength (call.source name)) whole starts
        simp only [Text.byteLength_append]
        exact ⟨site, List.mem_cons_of_mem _ mem, by omega, by omega⟩
  | @pass previous c rest cuts no _ ih =>
      cases front with
      | nil => exact absurd (whole ▸ starts) no
      | cons d front =>
          obtain ⟨rfl, behind⟩ := List.cons.inj whole
          rw [getLast?_cons_or] at starts
          obtain ⟨site, mem, low, high⟩ := ih (offset + Text.byteLength [c]) behind starts
          rw [ofCalls_prepend]
          simp only [Text.byteLength] at low high ⊢
          exact ⟨site, mem, by omega, by omega⟩

/-! ## Calls in the bytes of a source -/

/-- At an offset stand a name, blanks and an opening parenthesis, and a closing one stands somewhere
behind that. -/
def IsCallShaped (name source : List Char) (offset : Nat) : Prop :=
  ∃ front blanks inside,
    Text.bytes source = front ++ (Text.bytes (name ++ blanks ++ ['(']) ++ inside) ∧
      front.length = offset ∧ (∀ c ∈ blanks, Text.isAsciiBlank c = true) ∧ ')'.toUInt8 ∈ inside

/-- The byte in front of an offset is that of `c`. -/
def Follows (source : List Char) (offset : Nat) (c : Char) : Prop :=
  ((Text.bytes source).take offset).getLast? = some c.toUInt8

instance (source : List Char) (offset : Nat) (c : Char) : Decidable (Follows source offset c) :=
  inferInstanceAs (Decidable (_ = _))

/-- A call starts at an offset: it is shaped like one there, and is neither the end of a longer name
nor behind a dot or colon. -/
def IsCallStart (name source : List Char) (offset : Nat) : Prop :=
  IsCallShaped name source offset ∧
    ∀ c, Text.isNameChar c = true ∨ c = '.' ∨ c = ':' → ¬Follows source offset c

theorem mayFollow_eq_false_iff :
    mayFollow c = false ↔ Text.isNameChar c = true ∨ c = '.' ∨ c = ':' := by
  simp only [mayFollow, Text.isNameChar, Bool.not_eq_false', Bool.or_eq_true, beq_iff_eq, or_assoc]

theorem isAscii_of_le {d : Char} (le : c ≤ d) (ascii : Text.IsAscii d) : Text.IsAscii c :=
  Nat.lt_of_le_of_lt (UInt32.le_iff_toNat_le.1 le) ascii

theorem isAscii_of_glued (glued : mayFollow c = false) : Text.IsAscii c := by
  rcases mayFollow_eq_false_iff.1 glued with named | rfl | rfl
  · simp only [Text.isNameChar, Text.isAsciiAlphanumeric, Bool.or_eq_true, Bool.and_eq_true,
      decide_eq_true_eq, beq_iff_eq] at named
    rcases named with ((lower | upper) | digit) | rfl
    · exact isAscii_of_le lower.2 (by decide)
    · exact isAscii_of_le upper.2 (by decide)
    · exact isAscii_of_le digit.2 (by decide)
    · decide
  · decide
  · decide

theorem isAscii_of_isAsciiBlank (blank : Text.isAsciiBlank c = true) : Text.IsAscii c := by
  simp only [Text.isAsciiBlank, Bool.or_eq_true, beq_iff_eq] at blank
  rcases blank with (((rfl | rfl) | rfl) | rfl) | rfl <;> decide

theorem follows_iff (ascii : Text.IsAscii c) :
    Follows (front ++ back) (Text.byteLength front) c ↔ front.getLast? = some c := by
  rw [Follows, Text.bytes_append, ← Text.length_bytes, List.take_left,
    Text.getLast?_bytes_eq_some_iff ascii]

theorem not_follows_of_follows {d : Char} (ascii : Text.IsAscii d)
    (follows : Follows source offset d) (unnamed : Text.isNameChar d = false) (c : Char)
    (named : Text.isNameChar c = true) : ¬Follows source offset c := by
  intro other
  have same : c.toUInt8 = d.toUInt8 := Option.some_inj.1 (other.symm.trans follows)
  rw [Text.toUInt8_inj (isAscii_of_glued (mayFollow_of_isNameChar named)) ascii] at same
  rw [same, unnamed] at named
  cases named

theorem isCallShaped_iff :
    IsCallShaped name source offset ↔ ∃ front call rest,
      source = front ++ (call.source name ++ rest) ∧ IsWritten call ∧
        Text.byteLength front = offset := by
  constructor
  · rintro ⟨front, blanks, inside, whole, rfl, blank, closing⟩
    obtain ⟨before, after, rfl, rfl, rfl⟩ := Text.cut_at_bytes (by simp) whole
    rw [Text.toUInt8_mem_bytes_iff (by decide)] at closing
    obtain ⟨call, rest, written, spelled⟩ := exists_call name blank closing
    refine ⟨before, call, rest, ?_, written, (Text.length_bytes before).symm⟩
    simp [← spelled]
  · rintro ⟨front, call, rest, rfl, written, rfl⟩
    refine ⟨Text.bytes front, call.blanks, Text.bytes (call.inner ++ ')' :: rest), ?_,
      Text.length_bytes front, written.blank, ?_⟩
    · simp [source_append, ← Text.bytes_append]
    · rw [Text.toUInt8_mem_bytes_iff (by decide)]
      simp

theorem isCallStart_iff :
    IsCallStart name source offset ↔ ∃ front back,
      source = front ++ back ∧ Text.byteLength front = offset ∧
        Starts name front.getLast? back := by
  constructor
  · rintro ⟨shaped, free⟩
    obtain ⟨front, call, rest, rfl, written, rfl⟩ := isCallShaped_iff.1 shaped
    refine ⟨front, _, rfl, rfl, ?_, call, rest, written, rfl⟩
    cases last : front.getLast? with
    | none => rfl
    | some c =>
        rw [Option.all_some, ← Bool.not_eq_false]
        intro glued
        apply free c (mayFollow_eq_false_iff.1 glued)
        exact (follows_iff (isAscii_of_glued glued)).2 last
  · rintro ⟨front, back, rfl, rfl, free, call, rest, written, rfl⟩
    refine ⟨isCallShaped_iff.2 ⟨front, call, rest, rfl, written, rfl⟩, ?_⟩
    intro c glue follows
    have glued := mayFollow_eq_false_iff.2 glue
    rw [(follows_iff (isAscii_of_glued glued)).1 follows, Option.all_some, glued] at free
    cases free

theorem mem_find (solid : Solid name) (mem : site ∈ find name source) :
    ∃ front back, source = front ++ (site.call.source name ++ back) ∧ site.call.IsWritten ∧
      front.getLast?.all mayFollow = true ∧ site.start = Text.byteLength front ∧
      site.stop = site.start + Text.byteLength (site.call.source name) := by
  simpa using mem_of_cuts (cuts_scan solid none source) mem

theorem isCallStart_of_mem (solid : Solid name) (mem : site ∈ find name source) :
    IsCallStart name source site.start := by
  obtain ⟨front, back, whole, written, free, start, -⟩ := mem_find solid mem
  exact isCallStart_iff.2 ⟨front, _, whole, start.symm, free, _, back, written, rfl⟩

theorem covers_of_isCallStart (solid : Solid name) (isStart : IsCallStart name source offset) :
    ∃ site ∈ find name source, site.start ≤ offset ∧ offset < site.stop := by
  obtain ⟨front, back, whole, rfl, starts⟩ := isCallStart_iff.1 isStart
  rw [← Option.or_none (o := front.getLast?)] at starts
  simpa [find, ofSource] using covers_of_cuts (cuts_scan solid none source) 0 whole starts

/-- The dot in front of an offset is the second one of `..`. In a run of dots three at a time are
read as one, so it is the second one if two are left over. -/
def IsBehindConcat (source : List Char) (offset : Nat) : Prop :=
  (((Text.bytes source).take offset).reverse.takeWhile (· == '.'.toUInt8)).length % 3 = 2

/-- What stands at an offset is a member: behind a colon, or behind a dot of its own. -/
def IsMember (source : List Char) (offset : Nat) : Prop :=
  Follows source offset ':' ∨ (Follows source offset '.' ∧ ¬IsBehindConcat source offset)

instance (source : List Char) (offset : Nat) : Decidable (IsBehindConcat source offset) :=
  inferInstanceAs (Decidable (_ = _))

instance (source : List Char) (offset : Nat) : Decidable (IsMember source offset) :=
  inferInstanceAs (Decidable (_ ∨ _))

theorem IsBehindConcat.follows (concat : IsBehindConcat source offset) :
    Follows source offset '.' := by
  rw [Follows, ← List.head?_reverse]
  unfold IsBehindConcat at concat
  cases ending : ((Text.bytes source).take offset).reverse with
  | nil => simp [ending] at concat
  | cons b others =>
      by_cases dot : b = '.'.toUInt8
      · rw [List.head?_cons, dot]
      · simp [ending, dot] at concat

/-- Of the calls that stand alone and are no members, outside of other calls, exactly those behind
the second dot of `..` are left out. -/
theorem find_reports_iff {name source : List Char} {offset : Nat}
    (spelled : Lua.isNameSpelling name = true) (shaped : IsCallShaped name source offset)
    (outside : ∀ site ∈ find name source, ¬(site.start < offset ∧ offset < site.stop))
    (alone : ∀ c, Text.isNameChar c = true → ¬Follows source offset c)
    (single : ¬IsMember source offset) :
    (∃ site ∈ find name source, site.start = offset) ↔ ¬IsBehindConcat source offset := by
  have solid := solid_of_isNameSpelling spelled
  constructor
  · rintro ⟨site, mem, rfl⟩ concat
    exact (isCallStart_of_mem solid mem).2 '.' (.inr (.inl rfl)) concat.follows
  · intro noConcat
    have isStart : IsCallStart name source offset := by
      refine ⟨shaped, ?_⟩
      rintro c (named | rfl | rfl) follows
      · exact alone c named follows
      · exact single (.inr ⟨follows, noConcat⟩)
      · exact single (.inl follows)
    obtain ⟨site, mem, low, high⟩ := covers_of_isCallStart solid isStart
    have := outside site mem
    exact ⟨site, mem, by omega⟩

theorem find_reports_iff_concat :
    ∃ name source : List Char, name = "f".toList ∧ source = "a..f(1) f(2)".toList ∧
      IsCallShaped name source 8 ∧ ¬IsMember source 8 ∧ ¬IsBehindConcat source 8 ∧
      ∃ site ∈ find name source, site.start = 8 := by
  have shaped : IsCallShaped "f".toList "a..f(1) f(2)".toList 8 :=
    ⟨Text.bytes "a..f(1) ".toList, [], Text.bytes "2)".toList, by decide +kernel, by decide +kernel,
      by simp, by decide +kernel⟩
  refine ⟨_, _, rfl, rfl, shaped, by decide +kernel, by decide +kernel, ?_⟩
  apply (find_reports_iff (by decide) shaped (by decide +kernel) _ (by decide +kernel)).2
  · decide +kernel
  · exact not_follows_of_follows (d := ' ') (by decide) (by decide +kernel) (by decide)

/-- A call whose result is joined to what stands before it is no member, and it is not reported. -/
theorem find_misses_concatenated_call :
    ∃ name source : List Char, name = "import".toList ∧ source = "prefix..import('./x')".toList ∧
      Lua.isNameSpelling name = true ∧ IsCallShaped name source 8 ∧
      (∀ site ∈ find name source, ¬(site.start < 8 ∧ 8 < site.stop)) ∧
      (∀ c, Text.isNameChar c = true → ¬Follows source 8 c) ∧ ¬IsMember source 8 ∧
      ¬∃ site ∈ find name source, site.start = 8 := by
  have shaped : IsCallShaped "import".toList "prefix..import('./x')".toList 8 :=
    ⟨Text.bytes "prefix..".toList, [], Text.bytes "'./x')".toList, by decide +kernel,
      by decide +kernel, by simp, by decide +kernel⟩
  have alone : ∀ c, Text.isNameChar c = true → ¬Follows "prefix..import('./x')".toList 8 c :=
    not_follows_of_follows (d := '.') (by decide) (by decide +kernel) (by decide)
  exact ⟨_, _, rfl, rfl, by decide, shaped, by decide +kernel, alone, by decide +kernel,
    by decide +kernel⟩

end ImportSite

end LuaBundle
