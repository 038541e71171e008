import LuaBundle.Proofs.Boundaries
import LuaBundle.Proofs.CallSites
import Mathlib.Logic.Function.Iterate

/-! # Finding and linking by offsets

The scan cuts a source between its characters, so that nothing in it can fail. Here the sites are
found by reckoning with offsets instead: the name is looked for among the bytes from an offset on,
the byte in front of it and the bytes behind it are looked at, and the search goes on behind what was
met. Every cut is checked, and a byte that is looked for may be missing. `findOnce` is one round of
this, with the rounds after it left open.

No round fails, whatever the name is, and each begins further on than the one before. So the rounds
come to an end and have then found the sites that the scan gives; and what stands between these can
be cut out one after the other, as linking does it.
-/

namespace LuaBundle

theorem ImportCall.append_source_nil (name : List Char) (call : ImportCall) :
    name ++ call.source [] = call.source name := by
  simp [source]

namespace ImportCuts

open ImportCall

variable {name s rest gap : List Char} {previous : Option Char} {call : ImportCall}

/-- A text in which no call is written is not cut. -/
theorem calls_scan_eq_nil (none : ∀ call : ImportCall, ¬call.source name <:+: s) :
    (scan name previous s).calls = [] := by
  have whole := rewrite_scan name previous s
  generalize scan name previous s = cuts at whole ⊢
  obtain ⟨calls, tail⟩ := cuts
  cases calls with
  | nil => rfl
  | cons cut calls =>
      rw [rewrite_cons, ← List.append_assoc] at whole
      exact absurd ⟨cut.1, _, whole⟩ (none cut.2)

/-- What the scan does at a name. -/
theorem scan_name (nonempty : name ≠ []) (previous : Option Char) (rest : List Char) :
    scan name previous (name ++ rest) =
      if previous.all mayFollow then
        match afterName? rest with
        | some (call, after) =>
          ⟨([], call) :: (scan name (some ')') after).calls, (scan name (some ')') after).tail⟩
        | none => (scan name name.getLast? rest).prepend name
      else (scan name name.getLast? rest).prepend name := by
  obtain ⟨c, others, cut⟩ := List.exists_cons_of_ne_nil nonempty
  have found : name ≠ [] ∧ name.isPrefixOf (c :: (others ++ rest)) = true := by
    refine ⟨nonempty, ?_⟩
    rw [← List.cons_append, ← cut, List.isPrefixOf_iff_prefix]
    exact List.prefix_append _ _
  have behind : (c :: (others ++ rest)).drop name.length = rest := by
    rw [← List.cons_append, ← cut, List.drop_left]
  conv_lhs => rw [cut, List.cons_append, scan, dif_pos (cut ▸ found)]
  simp only [← cut, behind]
  split
  · split
    all_goals
      next read =>
        rw [← cut, behind] at read
        rw [read]
  · rfl

theorem scan_call (nonempty : name ≠ []) (free : previous.all mayFollow = true)
    (written : call.IsWritten) :
    scan name previous (call.source name ++ rest) =
      ⟨([], call) :: (scan name (some ')') rest).calls, (scan name (some ')') rest).tail⟩ := by
  rw [source_append, scan_name nonempty, if_pos free,
    afterName?_eq_some_iff.2 ⟨written, rfl⟩]

theorem scan_pass (nonempty : name ≠ []) (no : ¬Starts name previous (name ++ rest)) :
    scan name previous (name ++ rest) = (scan name name.getLast? rest).prepend name := by
  rw [starts_append_iff] at no
  rw [scan_name nonempty]
  split
  · next free =>
      cases read : afterName? rest with
      | none => rfl
      | some found => exact absurd ⟨free, found.1, found.2, read⟩ no
  · rfl

/-- The scan passes everything in front of the first place where the name stands. -/
theorem scan_gap (first : ∀ front back, gap ++ (name ++ rest) = front ++ (name ++ back) →
      gap.length ≤ front.length) :
    scan name previous (gap ++ (name ++ rest)) =
      (scan name (gap.getLast?.or previous) (name ++ rest)).prepend gap := by
  induction gap generalizing previous with
  | nil => rw [List.nil_append, prepend_nil, List.getLast?_nil, Option.none_or]
  | cons c gap ih =>
      have absent : ¬name <+: c :: (gap ++ (name ++ rest)) := by
        rintro ⟨back, same⟩
        exact Nat.not_succ_le_zero _ (first [] back same.symm)
      have later : scan name (some c) (gap ++ (name ++ rest)) =
          (scan name (gap.getLast?.or (some c)) (name ++ rest)).prepend gap := by
        apply ih
        intro front back same
        exact Nat.le_of_succ_le_succ (first (c :: front) back (congrArg (c :: ·) same))
      rw [List.cons_append, scan, dif_neg (by simp [absent]), later, prepend_prepend,
        getLast?_cons_or]
      rfl

end ImportCuts

namespace ImportSite

open ImportCall ImportCuts

variable {name source s front after : List Char} {further : Nat → Option (List ImportSite)}

/-- What stands behind a name. -/
inductive Sighting where
  /-- No call: what follows the blanks is no parenthesis. -/
  | other
  /-- A call that nothing closes. -/
  | unclosed
  | call (site : ImportSite)

/-- Look for the end of a call whose parenthesis opens at an offset. -/
def sightingInside? (source : List Char) (start : Nat) (blanks : List Char) (opening : Nat) :
    Option Sighting := do
  let inside ← Text.cut? (opening + 1) (Text.byteLength source) source
  match Text.offsetOf? (Text.bytes [')']) (Text.bytes inside) with
  | none => some .unclosed
  | some offset =>
    let closing := opening + 1 + offset
    let inner ← Text.cut? (opening + 1) closing source
    some (.call ⟨start, closing + 1, blanks, inner⟩)

/-- Look at what stands behind a name, which goes from one offset to another. -/
def sightingBehind? (source : List Char) (start stop : Nat) : Option Sighting := do
  let rest ← Text.cut? stop (Text.byteLength source) source
  let blank := (Text.bytes rest).takeWhile fun b => Text.isAsciiBlank (Char.ofUInt8 b)
  let opening := stop + blank.length
  let blanks ← Text.cut? stop opening source
  if (Text.bytes source)[opening]? = some '('.toUInt8 then
    sightingInside? source start blanks opening
  else some .other

/-- Whether a call may start at an offset, as the byte in front of it tells. -/
def mayStart? (source : List Char) (start : Nat) : Option Bool :=
  if start = 0 then some true
  else (Text.bytes source)[start - 1]?.map fun b => mayFollow (Char.ofUInt8 b)

/-- Find the sites from a name on that stands at an offset, with `further` for those behind it. -/
def findAt (name source : List Char) (further : Nat → Option (List ImportSite)) (start : Nat) :
    Option (List ImportSite) := do
  let stop := start + Text.byteLength name
  if ← mayStart? source start then
    match ← sightingBehind? source start stop with
    | .other => further stop
    | .unclosed => some []
    | .call site => (further site.stop).map (site :: ·)
  else further stop

/-- Find the sites from an offset on, with `further` for those behind the first name. -/
def findOnce (name source : List Char) (further : Nat → Option (List ImportSite))
    (cursor : Nat) : Option (List ImportSite) := do
  let rest ← Text.cut? cursor (Text.byteLength source) source
  match Text.offsetOf? (Text.bytes name) (Text.bytes rest) with
  | none => some []
  | some offset => findAt name source further (cursor + offset)

theorem mayFollow_blind (c d : Char) (wide : ¬Text.IsAscii c) (wide' : ¬Text.IsAscii d) :
    mayFollow c = mayFollow d := by
  have free : ∀ c, ¬Text.IsAscii c → mayFollow c = true := by
    intro c wide
    rw [← Bool.not_eq_false]
    exact fun glued => wide (isAscii_of_glued glued)
  rw [free c wide, free d wide']

theorem isAsciiBlank_blind (c d : Char) (wide : ¬Text.IsAscii c) (wide' : ¬Text.IsAscii d) :
    Text.isAsciiBlank c = Text.isAsciiBlank d := by
  have full : ∀ c, ¬Text.IsAscii c → Text.isAsciiBlank c = false := by
    intro c wide
    rw [← Bool.not_eq_true]
    exact fun blank => wide (isAscii_of_isAsciiBlank blank)
  rw [full c wide, full d wide']

theorem mayStart?_eq (front back : List Char) :
    mayStart? (front ++ back) (Text.byteLength front) = some (front.getLast?.all mayFollow) := by
  rcases List.eq_nil_or_concat front with rfl | ⟨init, c, rfl⟩
  · rfl
  rw [List.concat_eq_append]
  obtain ⟨b, last⟩ : ∃ b, (String.utf8EncodeChar c).getLast? = some b :=
    ⟨_, List.getLast?_eq_some_getLast String.utf8EncodeChar_ne_nil⟩
  have positive := Text.byteLength_pos (s := init ++ [c]) (by simp)
  have within : Text.byteLength (init ++ [c]) - 1 < (Text.bytes (init ++ [c])).length := by
    rw [Text.length_bytes]
    omega
  have here : (Text.bytes (init ++ [c] ++ back))[Text.byteLength (init ++ [c]) - 1]? = some b := by
    rw [Text.bytes_append, List.getElem?_append_left within, ← Text.length_bytes,
      ← List.getLast?_eq_getElem?]
    simp [Text.bytes_cons, List.getLast?_append, last]
  rw [mayStart?, if_neg (by omega), here, Option.map_some, List.getLast?_concat, Option.all_some,
    Text.ofUInt8_of_mem mayFollow_blind (List.mem_of_getLast? last)]

/-- What a sighting says of the text behind a name. -/
inductive Sights (start : Nat) (front after : List Char) : Sighting → Prop where
  | other (unread : afterName? after = none) : Sights start front after .other
  | unclosed (absent : ')' ∉ after) : Sights start front after .unclosed
  | call {call : ImportCall} {rest : List Char} (read : afterName? after = some (call, rest)) :
      Sights start front after (.call ⟨start, Text.byteLength (front ++ call.source []), call⟩)

/-- Where a parenthesis opens, looking for the one that closes it does not fail. -/
theorem sightingInside?_eq (start : Nat) (front : List Char) {blanks : List Char}
    (blank : ∀ c ∈ blanks, Text.isAsciiBlank c = true) (inside : List Char) :
    ∃ sighting, sightingInside? (front ++ (blanks ++ '(' :: inside)) start blanks
        (Text.byteLength (front ++ blanks)) = some sighting ∧
      Sights start front (blanks ++ '(' :: inside) sighting := by
  have opened : Text.byteLength (front ++ blanks) + 1 =
      Text.byteLength (front ++ blanks ++ ['(']) := (Text.byteLength_append _ ['(']).symm
  have whole : front ++ (blanks ++ '(' :: inside) = front ++ blanks ++ ['('] ++ inside := by simp
  simp only [sightingInside?, opened, whole, Text.cut?_rest, Option.bind_eq_bind, Option.bind_some]
  split
  · next absent =>
      refine ⟨_, rfl, .unclosed fun mem => ?_⟩
      rcases List.mem_append.1 mem with early | mem
      · exact absurd (blank _ early) (by decide)
      · have closing : ')' ∈ inside := (List.mem_cons.1 mem).resolve_left (by decide)
        exact Text.not_infix_of_offsetOf? absent ((List.singleton_infix_iff _ _).2 closing)
  · next offset found =>
      obtain ⟨inner, rest, rfl, rfl, first⟩ := Text.cut_of_offsetOf? (by simp) found
      have closed : ')' ∉ inner := by
        intro mem
        obtain ⟨before, after, rfl⟩ := List.append_of_mem mem
        have early := first before (after ++ ')' :: rest) (by simp)
        rw [List.length_append, List.length_cons] at early
        omega
      have read : afterName? (blanks ++ '(' :: (inner ++ ([')'] ++ rest))) =
          some (⟨blanks, inner⟩, rest) := afterName?_eq_some_iff.2 ⟨⟨blank, closed⟩, rfl⟩
      have stop : Text.byteLength (front ++ blanks ++ ['(']) + Text.byteLength inner + 1 =
          Text.byteLength (front ++ source [] ⟨blanks, inner⟩) := by
        have parenthesis : Text.byteLength [')'] = 1 := rfl
        simp only [source, ← parenthesis, ← Text.byteLength_append]
        simp
      rw [Text.cut?_byteLength, Option.bind_some, stop]
      exact ⟨_, rfl, .call read⟩

/-- Looking behind a name does not fail, and sees what stands there. -/
theorem sightingBehind?_eq (start : Nat) (front after : List Char) :
    ∃ sighting, sightingBehind? (front ++ after) start (Text.byteLength front) = some sighting ∧
      Sights start front after sighting := by
  have skipped := Text.takeWhile_bytes isAsciiBlank_blind after
  have split := (List.takeWhile_append_dropWhile (p := Text.isAsciiBlank) (l := after)).symm
  have blank : ∀ c ∈ after.takeWhile Text.isAsciiBlank, Text.isAsciiBlank c = true :=
    fun c mem => List.mem_takeWhile_imp mem
  generalize after.takeWhile Text.isAsciiBlank = blanks at skipped split blank
  generalize opened : after.dropWhile Text.isAsciiBlank = tail at split
  have between : Text.cut? (Text.byteLength front) (Text.byteLength (front ++ blanks))
      (front ++ after) = some blanks := by
    rw [split, Text.byteLength_append]
    exact Text.cut?_byteLength front blanks tail
  have here : (Text.bytes (front ++ after))[Text.byteLength (front ++ blanks)]? =
      (Text.bytes tail).head? := by
    rw [split, ← List.append_assoc]
    exact Text.getElem?_bytes_append _ _
  simp only [sightingBehind?, Text.cut?_rest, skipped, Text.length_bytes, ← Text.byteLength_append,
    between, here, Option.bind_eq_bind, Option.bind_some]
  have opens := Text.head?_bytes_eq_some_iff (s := tail) (show Text.IsAscii '(' by decide)
  split
  · next byte =>
      obtain ⟨inside, rfl⟩ := opens.1 byte
      rw [split]
      exact sightingInside?_eq start front blank inside
  · next closed =>
      refine ⟨_, rfl, .other ?_⟩
      unfold afterName?
      rw [opened]
      split
      · exact absurd (opens.2 ⟨_, rfl⟩) closed
      · rfl

/-- From every offset between characters with fewer than `limit` bytes behind it, the sites of the
calls are found that the scan finds there. -/
def FindsFrom (name source : List Char) (further : Nat → Option (List ImportSite))
    (limit : Nat) : Prop :=
  ∀ front s, source = front ++ s → Text.byteLength s < limit →
    further (Text.byteLength front) =
      some (ofCalls name (Text.byteLength front) (scan name front.getLast? s).calls)

/-- Behind a name that starts no call, the search goes on as the scan does. -/
theorem FindsFrom.pass (finds : FindsFrom name source further (Text.byteLength (name ++ after)))
    (nonempty : name ≠ []) (whole : source = front ++ (name ++ after))
    (no : ¬Starts name front.getLast? (name ++ after)) :
    further (Text.byteLength (front ++ name)) =
      some (ofCalls name (Text.byteLength front)
        (scan name front.getLast? (name ++ after)).calls) := by
  have shorter := Text.byteLength_pos nonempty
  have last : (front ++ name).getLast? = name.getLast? := by
    obtain ⟨init, c, rfl⟩ := (List.eq_nil_or_concat name).resolve_left nonempty
    simp
  rw [scan_pass nonempty no, ofCalls_prepend, ← Text.byteLength_append, ← last]
  apply finds
  · rw [whole, List.append_assoc]
  · rw [Text.byteLength_append]
    omega

/-- Behind a call, the search goes on as the scan does. -/
theorem FindsFrom.call {call : ImportCall} {rest : List Char}
    (finds : FindsFrom name source further (Text.byteLength (call.source name ++ rest)))
    (nonempty : name ≠ []) (whole : source = front ++ (call.source name ++ rest))
    (free : front.getLast?.all mayFollow = true) (written : call.IsWritten) :
    (further (Text.byteLength (front ++ call.source name))).map
        (⟨Text.byteLength front, Text.byteLength (front ++ call.source name), call⟩ :: ·) =
      some (ofCalls name (Text.byteLength front)
        (scan name front.getLast? (call.source name ++ rest)).calls) := by
  have shorter := Text.byteLength_pos (source_ne_nil name call)
  have last : (front ++ call.source name).getLast? = some ')' := by
    rw [List.getLast?_append, getLast?_source, Option.some_or]
  have apart : source = front ++ call.source name ++ rest := by rw [whole, List.append_assoc]
  have within : Text.byteLength rest < Text.byteLength (call.source name ++ rest) := by
    rw [Text.byteLength_append]
    omega
  rw [finds _ rest apart within, last, scan_call nonempty free written, Option.map_some, ofCalls]
  simp only [Text.byteLength, Nat.add_zero, Text.byteLength_append]

theorem findAt_eq (nonempty : name ≠ []) (whole : source = front ++ (name ++ after))
    (finds : FindsFrom name source further (Text.byteLength (name ++ after))) :
    findAt name source further (Text.byteLength front) =
      some (ofCalls name (Text.byteLength front)
        (scan name front.getLast? (name ++ after)).calls) := by
  have free : mayStart? source (Text.byteLength front) = some (front.getLast?.all mayFollow) :=
    whole ▸ mayStart?_eq front _
  simp only [findAt, free, ← Text.byteLength_append, Option.bind_eq_bind, Option.bind_some]
  split
  · next free =>
      obtain ⟨sighting, seen, sights⟩ :=
        sightingBehind?_eq (Text.byteLength front) (front ++ name) after
      rw [List.append_assoc, ← whole] at seen
      rw [seen, Option.bind_some]
      have reads : Starts name front.getLast? (name ++ after) →
          ∃ call rest, afterName? after = some (call, rest) := fun starts =>
        (starts_append_iff.1 starts).2
      cases sights with
      | other unread =>
          refine finds.pass nonempty whole fun starts => ?_
          obtain ⟨call, rest, read⟩ := reads starts
          rw [unread] at read
          cases read
      | unclosed absent =>
          -- The scan goes on here, but without a closing parenthesis it finds no call any more.
          have no : ¬Starts name front.getLast? (name ++ after) := by
            intro starts
            obtain ⟨call, rest, read⟩ := reads starts
            apply absent
            rw [(afterName?_eq_some_iff.1 read).2]
            simp
          have nothing : ∀ call : ImportCall, ¬call.source name <:+: after := by
            intro call inside
            exact absent (inside.subset (List.mem_of_getLast? (getLast?_source name call)))
          rw [scan_pass nonempty no, ofCalls_prepend, calls_scan_eq_nil nothing]
          rfl
      | @call call rest read =>
          obtain ⟨written, rfl⟩ := afterName?_eq_some_iff.1 read
          rw [← source_append] at whole finds ⊢
          rw [List.append_assoc, append_source_nil]
          exact finds.call nonempty whole free written
  · next bound => exact finds.pass nonempty whole fun starts => bound starts.1

/-- A round gets at least one byte further than the rounds after it need. -/
theorem findOnce_eq {limit : Nat} (nonempty : name ≠ [])
    (finds : FindsFrom name source further limit) :
    FindsFrom name source (findOnce name source further) (limit + 1) := by
  intro front s whole within
  have rest : Text.cut? (Text.byteLength front) (Text.byteLength source) source = some s :=
    whole ▸ Text.cut?_rest front s
  rw [findOnce, rest, Option.bind_eq_bind, Option.bind_some]
  split
  · next absent =>
      have nothing : ∀ call : ImportCall, ¬call.source name <:+: s := by
        intro call inside
        apply Text.not_infix_of_offsetOf? absent
        refine List.IsInfix.trans ?_ inside
        exact ⟨[], call.source [], append_source_nil name call⟩
      rw [calls_scan_eq_nil nothing]
      rfl
  · next offset found =>
      obtain ⟨gap, after, rfl, rfl, first⟩ := Text.cut_of_offsetOf? nonempty found
      rw [scan_gap first, ofCalls_prepend, ← Text.byteLength_append, ← List.getLast?_append]
      apply findAt_eq nonempty (by rw [whole, List.append_assoc])
      intro front' s' whole' within'
      apply finds front' s' whole'
      rw [Text.byteLength_append] at within
      omega

/-- Rounds find all sites if there are more of them than bytes, whatever they end in. -/
theorem iterate_findOnce (nonempty : name ≠ []) (source : List Char)
    (further : Nat → Option (List ImportSite)) (rounds : Nat) :
    FindsFrom name source ((findOnce name source)^[rounds] further) rounds := by
  induction rounds with
  | zero => nofun
  | succ rounds ih =>
      rw [Function.iterate_succ_apply']
      exact findOnce_eq nonempty ih

end ImportSite

namespace Linker

open ImportSite

/-- Link the sites of a source from an offset on. This fails if what stands between two sites, or
behind the last, cannot be cut out. -/
def linkAt (linker : Linker) (importer : String) (source : List Char) (cursor : Nat) :
    List ImportSite → Option (Traced Linked)
  | [] => do
    let tail ← Text.cut? cursor (Text.byteLength source) source
    some (.pure ⟨tail, []⟩)
  | site :: sites => do
    let gap ← Text.cut? cursor site.start source
    let rest ← linker.linkAt importer source site.stop sites
    some ((linker.linkCall importer site.call).bind fun (text, modules) =>
      rest.bind fun rest => .pure ⟨gap ++ text ++ rest.text, modules ++ rest.dependencies⟩)

theorem linkAt_ofCalls (linker : Linker) (importer : String) {name source front tail : List Char}
    {calls : List (List Char × ImportCall)}
    (whole : source = front ++ (ImportCuts.mk calls tail).rewrite (·.source name)) :
    linker.linkAt importer source (Text.byteLength front)
        (ofCalls name (Text.byteLength front) calls) =
      some (linker.linkCalls importer tail calls) := by
  induction calls generalizing front with
  | nil =>
      have rest : Text.cut? (Text.byteLength front) (Text.byteLength source) source = some tail :=
        whole ▸ Text.cut?_rest front tail
      rw [ofCalls, linkAt, rest]
      rfl
  | cons cut calls ih =>
      obtain ⟨gap, call⟩ := cut
      rw [ImportCuts.rewrite_cons] at whole
      have here := whole ▸ Text.cut?_byteLength front gap _
      have later := @ih (front ++ gap ++ call.source name) (by rw [whole]; simp)
      rw [Text.byteLength_append, Text.byteLength_append] at later
      simp only [ofCalls, linkAt, here, later]
      rfl

end Linker

namespace ImportSite

/-- Finding and linking calls by offsets fails nowhere, whatever the source and the name are. Every
cut that is made goes forward, ends within the source and has no character on both of its sides, and
every byte that is looked at is there; for otherwise there would be no result. The search is over
when there have been more rounds than bytes, and what has then been found are the sites of the
source. Cutting out what stands between these, from one to the next, gives the linked source. -/
theorem find_by_offsets {name : List Char} (nonempty : name ≠ []) (source : List Char) :
    (∀ further rounds, Text.byteLength source < rounds →
      (findOnce name source)^[rounds] further 0 = some (find name source)) ∧
    ∀ (linker : Linker) (importer : String), linker.importFunction.toList = name →
      linker.linkAt importer source 0 (find name source) =
        some (linker.link importer source) := by
  constructor
  · intro further rounds enough
    exact iterate_findOnce nonempty source further rounds [] source rfl enough
  · rintro linker importer rfl
    have whole : source = [] ++ (ImportCuts.ofSource linker.importFunction.toList source).rewrite
        (·.source linker.importFunction.toList) := (ImportCuts.rewrite_scan _ none source).symm
    exact linker.linkAt_ofCalls importer whole

theorem find_by_offsets_wide :
    ∃ name source : List Char, name = "é".toList ∧ source = "ßé( ü )é.é(1)é(".toList ∧ name ≠ [] ∧
      ∀ further, (findOnce name source)^[22] further 0 = some [⟨2, 10, [], " ü ".toList⟩] := by
  have found : find "é".toList "ßé( ü )é.é(1)é(".toList = [⟨2, 10, [], " ü ".toList⟩] := by
    decide +kernel
  refine ⟨_, _, rfl, rfl, by decide, fun further => ?_⟩
  rw [← found]
  exact (find_by_offsets (by decide) _).1 further 22 (by decide +kernel)

end ImportSite

end LuaBundle
