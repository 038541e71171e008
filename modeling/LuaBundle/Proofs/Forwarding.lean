import LuaBundle.Proofs.Rescan

/-! # What a forwarded argument ends in

An argument that is no literal path is handed on without the blanks around it, and a line feed is a
blank. A comment that was closed by the last line feed of the argument then reaches the parenthesis
that closes the call. This is the one way in which a comment sign comes to stand on the last line of
what is handed on: it stood there before, or it stood on a line behind which there were only blanks.
-/

namespace LuaBundle

namespace Text

variable {s : List Char}

/-- What stands behind the last line feed, or all of a text without one. -/
def lastLine (s : List Char) : List Char :=
  s.rtakeWhile (· != '\n')

/-- Two hyphens stand somewhere on the last line, so what is written behind it is a comment. -/
def EndsInComment (s : List Char) : Prop :=
  ['-', '-'] <:+: lastLine s

instance (s : List Char) : Decidable (EndsInComment s) :=
  inferInstanceAs (Decidable (_ <:+: _))

/-- Two hyphens stand on a line that is ended by a line feed, and only blanks stand behind that. -/
def ClosesComment (s : List Char) : Prop :=
  ∃ before comment blanks, s = before ++ '-' :: '-' :: (comment ++ '\n' :: blanks) ∧
    '\n' ∉ comment ∧ ∀ c ∈ blanks, isBlank c = true

theorem lastLine_suffix (s : List Char) : lastLine s <:+ s :=
  List.rtakeWhile_suffix _ s

theorem feed_not_mem_lastLine (s : List Char) : '\n' ∉ lastLine s := by
  intro mem
  simpa using List.mem_rtakeWhile_imp mem

theorem lastLine_append_of_not_mem {line : List Char} (unbroken : '\n' ∉ line) (s : List Char) :
    lastLine (s ++ line) = lastLine s ++ line := by
  have passed : ∀ c ∈ line.reverse, (c != '\n') = true := by
    intro c mem
    simpa using fun feed : c = '\n' => unbroken (feed ▸ List.mem_reverse.1 mem)
  rw [lastLine, List.rtakeWhile, List.reverse_append, List.takeWhile_append_of_pos passed,
    List.reverse_append, List.reverse_reverse]
  rfl

theorem endsInComment_iff :
    EndsInComment s ↔ ∃ before rest, s = before ++ '-' :: '-' :: rest ∧ '\n' ∉ rest := by
  constructor
  · rintro ⟨front, rest, line⟩
    obtain ⟨before, whole⟩ := lastLine_suffix s
    refine ⟨before ++ front, rest, ?_, ?_⟩
    · rw [← whole, ← line]
      simp
    · intro feed
      exact feed_not_mem_lastLine s (line ▸ List.mem_append_right _ feed)
  · rintro ⟨before, rest, rfl, unbroken⟩
    have sameLine : '\n' ∉ '-' :: '-' :: rest := by simpa using unbroken
    rw [EndsInComment, lastLine_append_of_not_mem sameLine]
    exact ⟨lastLine before, rest, by simp⟩

/-- A text is what is left of it when it is trimmed, with blanks on both sides. -/
theorem trim_cut (s : List Char) :
    ∃ front back, s = front ++ (trim s ++ back) ∧ (∀ c ∈ front, isBlank c = true) ∧
      ∀ c ∈ back, isBlank c = true := by
  refine ⟨s.takeWhile isBlank, (trimStart s).rtakeWhile isBlank, ?_,
    fun c => List.mem_takeWhile_imp, fun c => List.mem_rtakeWhile_imp⟩
  have ending : trim s ++ (trimStart s).rtakeWhile isBlank = trimStart s :=
    List.rdropWhile_append_rtakeWhile
  rw [ending]
  exact List.takeWhile_append_dropWhile.symm

theorem cut_behind {front t before rest : List Char} {c : Char} (absent : c ∉ front)
    (same : front ++ t = before ++ c :: rest) :
    ∃ more, before = front ++ more ∧ t = more ++ c :: rest := by
  rcases List.append_eq_append_iff.1 same with ⟨more, rfl, rfl⟩ | ⟨more, rfl, tail⟩
  · exact ⟨more, rfl, rfl⟩
  · cases more with
    | nil => exact ⟨[], by simp, tail.symm⟩
    | cons d more =>
        obtain ⟨rfl, -⟩ := List.cons.inj tail
        simp at absent

theorem cut_before {t back before rest : List Char} {c : Char} (absent : c ∉ back)
    (same : t ++ back = before ++ c :: rest) :
    ∃ less, rest = less ++ back ∧ t = before ++ c :: less := by
  rcases List.append_eq_append_iff.1 same with ⟨more, rfl, rfl⟩ | ⟨more, rfl, tail⟩
  · simp at absent
  · cases more with
    | nil =>
        subst tail
        simp at absent
    | cons d less =>
        obtain ⟨rfl, rest⟩ := List.cons.inj tail
        exact ⟨less, rest, rfl⟩

/-- Trimming keeps two hyphens and takes only blanks from what stands behind them. -/
theorem trim_around_hyphens {before rest : List Char} (whole : s = before ++ '-' :: '-' :: rest) :
    ∃ more less back, trim s = more ++ '-' :: '-' :: less ∧ rest = less ++ back ∧
      ∀ c ∈ back, isBlank c = true := by
  obtain ⟨front, back, cut, blankFront, blankBack⟩ := trim_cut s
  have unlike : ∀ {blanks : List Char}, (∀ c ∈ blanks, isBlank c = true) → '-' ∉ blanks := by
    intro blanks blank mem
    exact absurd (blank '-' mem) (by decide)
  obtain ⟨more, -, inner⟩ := cut_behind (unlike blankFront) (cut.symm.trans whole)
  rw [List.append_cons] at inner
  obtain ⟨less, rfl, kept⟩ := cut_before (unlike blankBack) inner
  refine ⟨more, less, back, ?_, rfl, blankBack⟩
  rw [kept, List.append_assoc, List.singleton_append]

/-- What is trimmed does not end in a line of its own that only blanks stand on. -/
theorem not_blank_behind_trim {before blanks : List Char}
    (whole : trim s = before ++ '\n' :: blanks) (blank : ∀ c ∈ blanks, isBlank c = true) :
    False := by
  have last : ∃ c ∈ (trim s).getLast?, c ∈ '\n' :: blanks := by
    rw [whole, List.getLast?_append, List.getLast?_eq_getLast_of_ne_nil (List.cons_ne_nil _ _)]
    exact ⟨_, rfl, List.getLast_mem _⟩
  obtain ⟨c, ending, mem⟩ := last
  have unblank := (tight_trim s).2 c ending
  rcases List.mem_cons.1 mem with rfl | mem
  · cases unblank
  · rw [blank c mem] at unblank
    cases unblank

/-- A comment sign stands on the last line of a trimmed text if it stood on the last line before, or
on one behind which trimming has taken everything away. -/
theorem endsInComment_trim_iff :
    EndsInComment (trim s) ↔ EndsInComment s ∨ ClosesComment s := by
  rw [endsInComment_iff, endsInComment_iff]
  constructor
  · rintro ⟨before, comment, trimmed, unbroken⟩
    obtain ⟨front, back, cut, -, blank⟩ := trim_cut s
    rw [trimmed] at cut
    by_cases feed : '\n' ∈ back
    · obtain ⟨blanks, after, rfl, first⟩ := List.eq_append_cons_of_mem feed
      refine .inr ⟨front ++ before, comment ++ blanks, after, by simp [cut],
        by simp [unbroken, first], fun c mem => blank c (by simp [mem])⟩
    · exact .inl ⟨front ++ before, comment ++ back, by simp [cut], by simp [unbroken, feed]⟩
  · rintro (⟨before, rest, whole, unbroken⟩ | ⟨before, comment, blanks, whole, unbroken, blank⟩)
    · obtain ⟨more, less, back, trimmed, rfl, -⟩ := trim_around_hyphens whole
      exact ⟨more, less, trimmed, fun feed => unbroken (List.mem_append_left _ feed)⟩
    · obtain ⟨more, less, back, trimmed, rest, -⟩ := trim_around_hyphens whole
      refine ⟨more, less, trimmed, fun feed => ?_⟩
      -- A line feed that is left behind the hyphens has only blanks behind it.
      obtain ⟨line, after, rfl⟩ := List.append_of_mem feed
      rw [List.append_assoc, List.cons_append] at rest
      obtain ⟨skipped, -, tail⟩ := cut_behind unbroken rest
      have blankTail : ∀ c ∈ '\n' :: blanks, isBlank c = true :=
        List.forall_mem_cons.2 ⟨by decide, blank⟩
      have ending : trim s = (more ++ '-' :: '-' :: line) ++ '\n' :: after := by simp [trimmed]
      refine not_blank_behind_trim ending fun c mem => blankTail c ?_
      rw [tail]
      simp [mem]

end Text

namespace ImportCuts

/-- Whatever the name is, what a scan cuts out are calls as they can be written. -/
theorem isWritten_scan (name : List Char) (previous : Option Char) (s : List Char) :
    ∀ cut ∈ (scan name previous s).calls, cut.2.IsWritten := by
  induction previous, s using scan_induct name with
  | done previous => simp
  | call previous call rest cuts _ written ih => exact List.forall_mem_cons.2 ⟨written, ih⟩
  | passName previous rest cuts _ _ ih =>
      rwa [forall_calls_prepend name cuts ImportCall.IsWritten]
  | passChar previous c rest cuts _ ih =>
      rwa [forall_calls_prepend [c] cuts ImportCall.IsWritten]

end ImportCuts

namespace ImportSite

theorem isWritten_of_mem_find {name source : List Char} {site : ImportSite}
    (mem : site ∈ find name source) : site.call.IsWritten :=
  (forall_find name source ImportCall.IsWritten).2 (ImportCuts.isWritten_scan name none source) site
    mem

/-- At a site stands the call that is reported for it. -/
theorem text_of_mem_find {name source : List Char} {site : ImportSite}
    (mem : site ∈ find name source) : site.text source = site.call.source name := by
  have whole : source = [] ++ (ImportCuts.ofSource name source).rewrite (·.source name) :=
    (ImportCuts.rewrite_scan name none source).symm
  have texts : (find name source).map (text source) = _ := (pieces_ofCalls whole).2
  have calls := congrArg (List.map fun call => call.source name) (map_call_find name source)
  rw [List.map_map, List.map_map] at calls
  exact List.map_inj_left.1 (texts.trans calls.symm) site mem

end ImportSite

namespace Linker

/-- An argument that is no literal path is handed on so that a comment sign stands on its last line
exactly if one stood there in the source, or if one stood on a line behind which there was nothing
but blanks. In the second case the parenthesis of the loader's call becomes part of the comment that
the line feed had ended. -/
theorem link_endsInComment_iff {linker : Linker} {importer : String} {source : List Char}
    {linked : Linked} (result : (linker.link importer source).result = .ok linked) :
    let sites := ImportSite.find linker.importFunction.toList source
    linked.text = Text.weave (ImportSite.gaps source 0 sites) (sites.map fun site =>
        linker.loaderName.toList ++ '(' :: linker.handed importer site.call ++ [')']) ∧
    ∀ site ∈ sites, site.call.literal? = none →
      site.text source = linker.importFunction.toList ++ site.call.blanks ++
        '(' :: site.call.inner ++ [')'] ∧
      (∀ c ∈ site.call.blanks, Text.isAsciiBlank c = true) ∧ ')' ∉ site.call.inner ∧
      (Text.EndsInComment (linker.handed importer site.call) ↔
        Text.EndsInComment site.call.inner ∨ Text.ClosesComment site.call.inner) := by
  intro sites
  obtain ⟨resolves, -⟩ := link_eq_ok result
  have linkedAs : (linker.link importer source).result = _ :=
    link_of_resolves rfl ((ImportSite.forall_find _ _ (linker.Resolves importer)).2 resolves)
  refine ⟨congrArg Linked.text (Except.ok.inj (result.symm.trans linkedAs)), ?_⟩
  intro site mem dynamic
  obtain ⟨blank, closed⟩ := ImportSite.isWritten_of_mem_find mem
  refine ⟨ImportSite.text_of_mem_find mem, blank, closed, ?_⟩
  rw [(handed_of_dynamic linker importer dynamic).2]
  exact Text.endsInComment_trim_iff

theorem link_endsInComment_iff_two_calls :
    let source := "use(x\n--y\n )use(x --z )".toList
    (belowRoot.link "m.lua" source).result =
        .ok ⟨"import(x\n--y)import(x --z)".toList, []⟩ ∧
      ∃ first second, ImportSite.find "use".toList source = [first, second] ∧
        first.call.literal? = none ∧ second.call.literal? = none ∧
        Text.ClosesComment first.call.inner ∧ Text.EndsInComment second.call.inner ∧
        Text.EndsInComment (belowRoot.handed "m.lua" first.call) ∧
        Text.EndsInComment (belowRoot.handed "m.lua" second.call) := by
  intro source
  have result : (belowRoot.link "m.lua" source).result =
      .ok ⟨"import(x\n--y)import(x --z)".toList, []⟩ := by decide +kernel
  have found : ImportSite.find "use".toList source = [⟨0, 12, ⟨[], "x\n--y\n ".toList⟩⟩,
      ⟨12, 23, ⟨[], "x --z ".toList⟩⟩] := by decide +kernel
  have blank : ∀ c ∈ [' '], Text.isBlank c = true := List.forall_mem_singleton.2 (by decide)
  have closes : Text.ClosesComment "x\n--y\n ".toList :=
    ⟨"x\n".toList, "y".toList, [' '], by decide, by decide, blank⟩
  have ends : Text.EndsInComment "x --z ".toList := by decide
  obtain ⟨-, sites⟩ := link_endsInComment_iff result
  obtain ⟨-, -, -, first⟩ := sites _ (found ▸ List.mem_cons_self) (by decide)
  obtain ⟨-, -, -, second⟩ :=
    sites _ (found ▸ List.mem_cons_of_mem _ List.mem_cons_self) (by decide)
  exact ⟨result, _, _, found, by decide, by decide, closes, ends, first.2 (.inr closes),
    second.2 (.inl ends)⟩

/-- A comment behind a forwarded expression takes the closing parenthesis with it. -/
theorem link_comments_out_parenthesis :
    let source := "use(x --y\n)".toList
    (belowRoot.link "m.lua" source).result = .ok ⟨"import(x --y)".toList, []⟩ ∧
      ∃ site, ImportSite.find "use".toList source = [site] ∧ site.call.literal? = none ∧
        site.call.inner = "x --y\n".toList ∧ ¬Text.EndsInComment site.call.inner ∧
        belowRoot.handed "m.lua" site.call = "x --y".toList ∧
        Text.EndsInComment (belowRoot.handed "m.lua" site.call) := by
  intro source
  have found : ImportSite.find "use".toList source = [⟨0, 11, ⟨[], "x --y\n".toList⟩⟩] := by
    decide +kernel
  have handed : belowRoot.handed "m.lua" ⟨[], "x --y\n".toList⟩ = "x --y".toList := by
    decide +kernel
  refine ⟨by decide +kernel, _, found, by decide, rfl, by decide, handed, ?_⟩
  rw [handed]
  decide

end Linker

end LuaBundle
