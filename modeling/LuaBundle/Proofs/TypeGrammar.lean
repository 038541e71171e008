import LuaBundle.Lua.Identifier
import LuaBundle.Proofs.CallCuts
import LuaBundle.Proofs.Lines
import LuaBundle.TypeDeclaration

/-! # The grammar of type declarations

`Declares` says how a line that declares a type is written, and the scan accepts exactly these
lines: blanks may stand in front, the words have blanks between them, and a name that is not
followed by an equals sign or a type parameter, blanks apart, is none. No line can be read in two
ways. The scan goes through the lines of a source from first to last and counts them by the line
feeds it has passed.
-/

namespace LuaBundle

namespace Text

variable {s rest : List Char}

/-- Nothing but blanks. -/
def IsBlanks (s : List Char) : Prop :=
  ∀ c ∈ s, isBlank c = true

theorem isBlanks_takeWhile (s : List Char) : IsBlanks (s.takeWhile isBlank) :=
  fun _ => List.mem_takeWhile_imp

/-- Blanks in front are trimmed up to what is not blank. -/
theorem trimStart_eq_iff : trimStart s = rest ↔
    (∃ blanks, s = blanks ++ rest ∧ IsBlanks blanks) ∧ ∀ c ∈ rest.head?, isBlank c = false := by
  constructor
  · rintro rfl
    refine ⟨⟨s.takeWhile isBlank, List.takeWhile_append_dropWhile.symm, isBlanks_takeWhile s⟩, ?_⟩
    intro c first
    have unblank := List.head?_dropWhile_not isBlank s
    rw [← trimStart, Option.mem_def.1 first] at unblank
    exact unblank
  · rintro ⟨⟨blanks, rfl, blank⟩, solid⟩
    rw [trimStart, List.dropWhile_append_of_pos blank]
    cases rest with
    | nil => rfl
    | cons c rest => rw [List.dropWhile_cons_of_neg (by simp [solid c rfl])]

theorem isNameChar_of_isBlank {c : Char} (blank : isBlank c = true) : isNameChar c = false := by
  rw [← Bool.not_eq_true]
  intro named
  simp only [isNameChar, isAsciiAlphanumeric, Bool.or_eq_true, Bool.and_eq_true, decide_eq_true_eq,
    beq_iff_eq, Char.le_def, UInt32.le_iff_toNat_le, Char.toNat_val, Char.reduceToNat] at named
  simp only [isBlank, Bool.or_eq_true, Bool.and_eq_true, decide_eq_true_eq, beq_iff_eq] at blank
  rcases named with named | rfl
  · omega
  · simp at blank

end Text

namespace TypeDeclaration

open Text (IsBlanks)

variable {keyword s rest name line : List Char}

/-- The keyword `type`, a name and the mark behind it, with blanks between. What follows does not
matter. -/
def IsHead (s name : List Char) : Prop :=
  ∃ gap space mark rest, s = "type".toList ++ gap ++ name ++ space ++ mark :: rest ∧
    gap ≠ [] ∧ IsBlanks gap ∧ Lua.isNameSpelling name = true ∧ IsBlanks space ∧
    (mark = '=' ∨ mark = '<')

/-- How lines that declare a type are written. -/
inductive Declares : List Char → TypeDeclaration → Prop where
  | local {indent head name} (blank : IsBlanks indent) (isHead : IsHead head name) :
      Declares (indent ++ head) (.local name)
  | exported {indent gap head name} (blank : IsBlanks indent) (apart : gap ≠ [])
      (between : IsBlanks gap) (isHead : IsHead head name) :
      Declares (indent ++ "export".toList ++ gap ++ head) (.exported name)

theorem afterKeyword?_eq_some_iff : afterKeyword? keyword s = some rest ↔
    (∃ gap, s = keyword ++ gap ++ rest ∧ gap ≠ [] ∧ IsBlanks gap) ∧
      ∀ c ∈ rest.head?, Text.isBlank c = false := by
  constructor
  · intro read
    unfold afterKeyword? at read
    split at read
    · next isPrefix =>
        obtain ⟨after, rfl⟩ := List.isPrefixOf_iff_prefix.1 isPrefix
        rw [List.drop_left] at read
        split at read
        · next c after =>
            split at read
            · next blank =>
                obtain ⟨⟨blanks, rfl, others⟩, solid⟩ :=
                  Text.trimStart_eq_iff.1 (Option.some.inj read)
                refine ⟨⟨c :: blanks, by simp, by simp, ?_⟩, solid⟩
                exact List.forall_mem_cons.2 ⟨blank, others⟩
            · cases read
        · cases read
    · cases read
  · rintro ⟨⟨gap, rfl, apart, blank⟩, solid⟩
    obtain ⟨c, blanks, rfl⟩ := List.exists_cons_of_ne_nil apart
    obtain ⟨first, others⟩ := List.forall_mem_cons.1 blank
    have isPrefix : keyword.isPrefixOf (keyword ++ (c :: blanks) ++ rest) = true := by
      rw [List.isPrefixOf_iff_prefix, List.append_assoc]
      exact List.prefix_append _ _
    have trimmed : Text.trimStart (blanks ++ rest) = rest :=
      Text.trimStart_eq_iff.2 ⟨⟨blanks, rfl, others⟩, solid⟩
    rw [afterKeyword?, if_pos isPrefix, List.append_assoc, List.drop_left]
    simp [first, trimmed]

theorem name?_eq_some_iff : name? s = some name ↔
    ∃ space mark rest, s = name ++ space ++ mark :: rest ∧ Lua.isNameSpelling name = true ∧
      IsBlanks space ∧ (mark = '=' ∨ mark = '<') := by
  constructor
  · intro read
    have whole : s.takeWhile Text.isNameChar ++ s.dropWhile Text.isNameChar = s :=
      List.takeWhile_append_dropWhile
    have each : ∀ c ∈ s.takeWhile Text.isNameChar, Text.isNameChar c = true :=
      fun c => List.mem_takeWhile_imp
    unfold name? at read
    generalize s.takeWhile Text.isNameChar = taken at whole each read
    generalize s.dropWhile Text.isNameChar = left at whole
    subst whole
    simp only at read
    rw [List.drop_left] at read
    split at read
    · next first mark rest head after =>
        split at read
        · next accepted =>
            cases read
            obtain ⟨start, marked⟩ := Bool.and_eq_true_iff.1 accepted
            obtain ⟨others, rfl⟩ := List.head?_eq_some_iff.1 head
            obtain ⟨⟨space, cut, blank⟩, -⟩ := Text.trimStart_eq_iff.1 after
            refine ⟨space, mark, rest, by rw [cut, List.append_assoc], ?_, blank, ?_⟩
            · refine Bool.and_eq_true_iff.2 ⟨start, List.all_eq_true.2 ?_⟩
              exact fun c mem => each c (List.mem_cons_of_mem _ mem)
            · simpa using marked
        · cases read
    · cases read
  · rintro ⟨space, mark, rest, rfl, spelled, blank, marked⟩
    have named := Lua.isNameChar_of_isNameSpelling spelled
    have solid : Text.isBlank mark = false := by rcases marked with rfl | rfl <;> decide
    have unnamed : Text.isNameChar mark = false := by rcases marked with rfl | rfl <;> decide
    -- The name goes no further: behind it stands a blank or the mark.
    have ended : (space ++ mark :: rest).takeWhile Text.isNameChar = [] := by
      cases space with
      | nil => simp [unnamed]
      | cons c space => simp [Text.isNameChar_of_isBlank (blank c List.mem_cons_self)]
    have taken : (name ++ space ++ mark :: rest).takeWhile Text.isNameChar = name := by
      rw [List.append_assoc, List.takeWhile_append_of_pos named, ended, List.append_nil]
    have trimmed : Text.trimStart (space ++ mark :: rest) = mark :: rest :=
      Text.trimStart_eq_iff.2 ⟨⟨space, rfl, blank⟩, by simpa using solid⟩
    cases name with
    | nil => cases spelled
    | cons first others =>
        have start := (Bool.and_eq_true_iff.1 spelled).1
        rw [name?, taken, List.append_assoc, List.drop_left, trimmed]
        simpa [start, ← or_iff_not_imp_left] using marked

theorem bind_name?_eq_some_iff :
    (afterKeyword? "type".toList s).bind name? = some name ↔ IsHead s name := by
  rw [Option.bind_eq_some_iff]
  constructor
  · rintro ⟨rest, keyword, named⟩
    obtain ⟨⟨gap, rfl, apart, blank⟩, -⟩ := afterKeyword?_eq_some_iff.1 keyword
    obtain ⟨space, mark, rest, rfl, spelled, others, marked⟩ := name?_eq_some_iff.1 named
    exact ⟨gap, space, mark, rest, by simp, apart, blank, spelled, others, marked⟩
  · rintro ⟨gap, space, mark, rest, rfl, apart, blank, spelled, others, marked⟩
    refine ⟨name ++ space ++ mark :: rest, afterKeyword?_eq_some_iff.2 ⟨?_, ?_⟩,
      name?_eq_some_iff.2 ⟨space, mark, rest, rfl, spelled, others, marked⟩⟩
    · exact ⟨gap, by simp, apart, blank⟩
    · cases name with
      | nil => cases spelled
      | cons first tail =>
          have named := Lua.isNameChar_of_isNameSpelling spelled first List.mem_cons_self
          intro c isFirst
          cases isFirst
          rw [← Bool.not_eq_true]
          intro bad
          rw [Text.isNameChar_of_isBlank bad] at named
          cases named

theorem IsHead.head? (isHead : IsHead s name) : s.head? = some 't' := by
  obtain ⟨gap, space, mark, rest, rfl, -⟩ := isHead
  rfl

/-- Nothing that a keyword other than `type` stands in front of is a head. -/
theorem IsHead.afterKeyword?_export (isHead : IsHead s name) :
    afterKeyword? "export".toList s = none := by
  rw [Option.eq_none_iff_forall_ne_some]
  intro rest read
  obtain ⟨⟨gap, rfl, -⟩, -⟩ := afterKeyword?_eq_some_iff.1 read
  cases isHead.head?

theorem IsHead.not_blank (isHead : IsHead s name) : ∀ c ∈ s.head?, Text.isBlank c = false := by
  intro c first
  rw [isHead.head?] at first
  cases first
  decide

/-- The scan accepts just the lines that are written like a declaration. -/
theorem ofLine?_eq_some_iff {declaration : TypeDeclaration} :
    ofLine? line = some declaration ↔ Declares line declaration := by
  constructor
  · intro read
    obtain ⟨⟨indent, cut, blank⟩, -⟩ := Text.trimStart_eq_iff.1 (rfl : Text.trimStart line = _)
    unfold ofLine? at read
    simp only at read
    split at read
    · next rest isExport =>
        obtain ⟨name, head, rfl⟩ := Option.map_eq_some_iff.1 read
        obtain ⟨⟨gap, whole, apart, between⟩, -⟩ := afterKeyword?_eq_some_iff.1 isExport
        rw [cut, whole, ← List.append_assoc, ← List.append_assoc]
        exact .exported blank apart between (bind_name?_eq_some_iff.1 head)
    · obtain ⟨name, head, rfl⟩ := Option.map_eq_some_iff.1 read
      rw [cut]
      exact .local blank (bind_name?_eq_some_iff.1 head)
  · intro declares
    cases declares with
    | @«local» indent head name blank isHead =>
        have trimmed : Text.trimStart (indent ++ head) = head :=
          Text.trimStart_eq_iff.2 ⟨⟨indent, rfl, blank⟩, isHead.not_blank⟩
        simp only [ofLine?, trimmed, isHead.afterKeyword?_export, bind_name?_eq_some_iff.2 isHead,
          Option.map_some]
    | @exported indent gap head name blank apart between isHead =>
        have trimmed : Text.trimStart (indent ++ "export".toList ++ gap ++ head) =
            "export".toList ++ gap ++ head :=
          Text.trimStart_eq_iff.2 ⟨⟨indent, by simp, blank⟩, by
            intro c first
            cases first
            decide⟩
        have isExport : afterKeyword? "export".toList ("export".toList ++ gap ++ head) =
            some head :=
          afterKeyword?_eq_some_iff.2 ⟨⟨gap, rfl, apart, between⟩, isHead.not_blank⟩
        simp only [ofLine?, trimmed, isExport, bind_name?_eq_some_iff.2 isHead, Option.map_some]

theorem scanFrom_cutLines (module : String) (before : List Char) {pieces : List (List Char)}
    (unbroken : ∀ piece ∈ pieces, '\n' ∉ piece) :
    scanFrom module (before.count '\n' + 1) ((Text.cutLines before pieces).map (·.2)) =
      { warnings := (Text.cutLines before pieces).filterMap fun cut =>
          (ofLine? cut.2).map fun declaration =>
            { severity := .warning, module, line := cut.1.count '\n' + 1,
              message := declaration.message }
        found := (Text.cutLines before pieces).countP fun cut => (ofLine? cut.2).isSome } := by
  fun_induction Text.cutLines before pieces with
  | case1 => rfl
  | case2 => rfl
  | case3 before final some =>
      cases declared : ofLine? final <;> simp [scanFrom, declared, Diagnostic.warning]
  | case4 before piece next pieces ih =>
      obtain ⟨here, others⟩ := List.forall_mem_cons.1 unbroken
      have passed : (before ++ piece ++ ['\n']).count '\n' = before.count '\n' + 1 := by
        simp [List.count_eq_zero_of_not_mem here]
      have further := ih others
      rw [passed] at further
      rw [List.map_cons, scanFrom, further]
      cases declared : ofLine? (Text.dropFinalReturn piece) <;>
        simp [declared, Diagnostic.warning]

/-- The scan accepts just the lines that are written like a declaration, and no line is written
like two. It warns of the lines of a source in their order, once of each that it accepts and with
the number that the line feeds before the line give it, and of nothing else; and it counts these
lines. -/
theorem warnings_follow_grammar :
    (∀ line declaration, ofLine? line = some declaration ↔ Declares line declaration) ∧
    (∀ line declaration other, Declares line declaration → Declares line other →
      declaration = other) ∧
    ∀ module source, ∃ cuts : List (List Char × List Char),
      (∀ before line, (before, line) ∈ cuts ↔ Text.IsLine source before line) ∧
      cuts.Pairwise (fun cut later => cut.1.length < later.1.length) ∧
      (scan module source).warnings = cuts.filterMap (fun cut =>
        (ofLine? cut.2).map fun declaration =>
          { severity := .warning, module, line := cut.1.count '\n' + 1,
            message := declaration.message }) ∧
      (scan module source).found = cuts.countP fun cut => (ofLine? cut.2).isSome := by
  refine ⟨fun line declaration => ofLine?_eq_some_iff, ?_, ?_⟩
  · intro line declaration other first second
    rw [← ofLine?_eq_some_iff] at first second
    exact Option.some.inj (first.symm.trans second)
  · intro module source
    have unbroken : ∀ piece ∈ Text.split '\n' source, '\n' ∉ piece :=
      fun piece => Text.not_mem_of_mem_split
    have scanned := scanFrom_cutLines module [] unbroken
    rw [Text.map_cutLines [] (Text.split_ne_nil '\n' source)] at scanned
    refine ⟨Text.cutLines [] (Text.split '\n' source), fun before line => ?_,
      Text.pairwise_cutLines _ _, congrArg Scan.warnings scanned, congrArg Scan.found scanned⟩
    rw [Text.mem_cutLines (Text.split_ne_nil _ _) unbroken, Text.joinWith_split]
    simp

/-- A type can be called like a keyword, and a blank need not be a space. -/
theorem warnings_follow_grammar_keywords :
    Declares "\texport type\u00a0type<T>".toList (.exported "type".toList) ∧
    (∀ other, Declares "\texport type\u00a0type<T>".toList other →
      other = .exported "type".toList) ∧
    ∃ cuts : List (List Char × List Char),
      (∀ before line, (before, line) ∈ cuts ↔
        Text.IsLine "type A = 1\r\n\n\texport type\u00a0type<T>".toList before line) ∧
      (cuts.countP fun cut => (ofLine? cut.2).isSome) = 2 ∧
      scan "m" "type A = 1\r\n\n\texport type\u00a0type<T>".toList =
        { warnings := [
            { severity := .warning, module := "m", line := 1, message :=
                "local type declaration 'A' is kept verbatim; the host must support type syntax" },
            { severity := .warning, module := "m", line := 3, message :=
                "exported type declaration 'type' is kept verbatim; " ++
                "exports are not visible across bundled modules" }]
          found := 2 } := by
  obtain ⟨accepts, unique, reports⟩ := warnings_follow_grammar
  have declared : Declares "\texport type\u00a0type<T>".toList (.exported "type".toList) :=
    (accepts _ _).1 (by decide +kernel)
  refine ⟨declared, fun other declares => unique _ _ _ declares declared, ?_⟩
  obtain ⟨cuts, isLine, -, -, count⟩ :=
    reports "m" "type A = 1\r\n\n\texport type\u00a0type<T>".toList
  exact ⟨cuts, isLine, by rw [← count]; decide +kernel, by decide +kernel⟩

end TypeDeclaration

end LuaBundle
