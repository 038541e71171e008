import LuaBundle.Proofs.CallCuts
import LuaBundle.Proofs.Capture
import Mathlib.Data.List.Find

/-! # Filling slots one after the other

Slots are filled one after the other over the whole text, so a value that has a later slot in it is
itself filled before all is done. As long as each slot of a template is followed by a character that
cannot belong to one, no slot can come about where two pieces meet, and filling is done piece by
piece. So a template is filled as if all values were put in at once, only that each value has first
been filled with the values behind it. That value is the one that was given if it has no later slot
in it.
-/

namespace LuaBundle

namespace Text

variable {first : Char} {others value s rest : List Char}

/-- An occurrence cannot go on into a text that begins with none of its characters. -/
theorem isPrefix_of_append (apart : ∀ c ∈ rest.head?, c ∉ others) (some : s ≠ [])
    (met : first :: others <+: s ++ rest) : first :: others <+: s := by
  obtain ⟨after, whole⟩ := met
  rcases List.append_eq_append_iff.1 whole with ⟨less, cut, -⟩ | ⟨more, cut, beyond⟩
  · exact ⟨less, cut.symm⟩
  · cases more with
    | nil => simp [cut]
    | cons c more =>
        obtain ⟨d, s, rfl⟩ := List.exists_cons_of_ne_nil some
        obtain ⟨-, rfl⟩ := List.cons.inj cut
        exact absurd (by simp) (apart c (by simp [beyond]))

theorem replaceAll_append_of_apart (apart : ∀ c ∈ rest.head?, c ∉ others) :
    replaceAll (first :: others) value (s ++ rest) =
      replaceAll (first :: others) value s ++ replaceAll (first :: others) value rest := by
  fun_induction replaceAll (first :: others) value s with
  | case1 => rfl
  | case2 c s met ih =>
      obtain ⟨after, whole⟩ := List.isPrefixOf_iff_prefix.1 met.2
      rw [← whole, List.drop_left] at ih
      rw [← whole, List.drop_left, List.append_assoc, replaceAll_of_isPrefixOf met.1, ih,
        List.append_assoc]
  | case3 c s other ih =>
      have otherwise : (first :: others).isPrefixOf (c :: (s ++ rest)) = false := by
        rw [Bool.eq_false_iff, ne_eq, List.isPrefixOf_iff_prefix]
        intro met
        exact other ⟨by simp, List.isPrefixOf_iff_prefix.2 (isPrefix_of_append apart (by simp) met)⟩
      rw [List.cons_append, replaceAll_of_not_isPrefixOf otherwise, ih, List.cons_append]

/-- A text is left alone if the pattern does not occur in it. -/
theorem replaceAll_of_not_infix {pattern : List Char} (absent : ¬ pattern <:+: s) :
    replaceAll pattern value s = s := by
  fun_induction replaceAll pattern value s with
  | case1 => rfl
  | case2 c s met ih => exact absurd (List.isPrefixOf_iff_prefix.1 met.2).isInfix absent
  | case3 c s other ih => rw [ih fun later => absent (later.trans (List.suffix_cons c s).isInfix)]

/-- Text that can neither be put in nor begin an occurrence stood there before. -/
theorem isPrefix_of_replaceAll {t : List Char} (some : value ≠ []) (unlike : ∀ c ∈ value, c ∉ t)
    (met : t <+: replaceAll (first :: others) value s) : t <+: s := by
  fun_induction replaceAll (first :: others) value s generalizing t with
  | case1 => exact met
  | case2 c s _ ih =>
      cases t with
      | nil => exact List.nil_prefix
      | cons d t =>
          obtain ⟨e, value, rfl⟩ := List.exists_cons_of_ne_nil some
          obtain ⟨rfl, -⟩ := List.cons_prefix_cons.1 met
          exact absurd List.mem_cons_self (unlike d List.mem_cons_self)
  | case3 c s _ ih =>
      cases t with
      | nil => exact List.nil_prefix
      | cons d t =>
          obtain ⟨rfl, further⟩ := List.cons_prefix_cons.1 met
          refine List.cons_prefix_cons.2 ⟨rfl, ih (fun c mem inside => ?_) further⟩
          exact unlike c mem (List.mem_cons_of_mem _ inside)

theorem infix_of_append {t : List Char} (some : t ≠ []) (unlike : ∀ c ∈ value, c ∉ t)
    (met : t <:+: value ++ s) : t <:+: s := by
  induction value with
  | nil => exact met
  | cons c value ih =>
      obtain ⟨here, others⟩ := List.forall_mem_cons.1 unlike
      rcases List.infix_cons_iff.1 met with front | later
      · obtain ⟨d, t, rfl⟩ := List.exists_cons_of_ne_nil some
        obtain ⟨rfl, -⟩ := List.cons_prefix_cons.1 front
        exact absurd List.mem_cons_self here
      · exact ih others later

/-- No occurrence is left if what is put in has nothing in common with the pattern. -/
theorem not_infix_replaceAll (some : value ≠ []) (unlike : ∀ c ∈ value, c ∉ first :: others) :
    ¬ first :: others <:+: replaceAll (first :: others) value s := by
  fun_induction replaceAll (first :: others) value s with
  | case1 => simp
  | case2 c s _ ih => exact fun met => ih (infix_of_append (by simp) unlike met)
  | case3 c s other ih =>
      intro met
      rcases List.infix_cons_iff.1 met with front | later
      · obtain ⟨rfl, further⟩ := List.cons_prefix_cons.1 front
        have before : others <+: s := isPrefix_of_replaceAll some
          (fun c mem inside => unlike c mem (List.mem_cons_of_mem _ inside)) further
        refine other ⟨by simp, List.isPrefixOf_iff_prefix.2 ?_⟩
        exact List.cons_prefix_cons.2 ⟨rfl, before⟩
      · exact ih later

end Text

namespace Token

/-- Every slot is followed by a character that cannot belong to one. -/
def isSpaced : List Token → Bool
  | [] => true
  | .slot _ :: .mark c :: rest => !Text.isNameChar c && c != '\x7d' && isSpaced rest
  | .slot _ :: _ => false
  | _ :: rest => isSpaced rest

variable {tokens : List Token} {text : Token → List Char} {name value : List Char}

theorem name_ne_nil (spelled : Lua.isNameSpelling name = true) : name ≠ [] := by
  rintro rfl
  cases spelled

theorem not_mem_name {c : Char} (spelled : Lua.isNameSpelling name = true)
    (other : Text.isNameChar c = false) : c ∉ name := by
  intro mem
  rw [Lua.isNameChar_of_isNameSpelling spelled c mem] at other
  cases other

theorem fill_of_ne {token : Token} (other : token ≠ .slot name) :
    token.fill name value = token := by
  cases token with
  | slot inner => exact if_neg fun same => other (by rw [same])
  | word chars => rfl
  | table => rfl
  | aside chars => rfl
  | mark c => rfl

theorem replaceAll_of_not_slot {token : Token} (plain : token.IsPlain)
    (solid : ∀ name, token ≠ .slot name) (spelled : Lua.isNameSpelling name = true)
    (rest : List Char) :
    Text.replaceAll ('\x7b' :: name ++ ['\x7d']) value (token.chars ++ rest) =
      token.chars ++ Text.replaceAll ('\x7b' :: name ++ ['\x7d']) value rest := by
  rw [replaceAll_slot plain (name_ne_nil spelled) (not_mem_name spelled (by decide)),
    fill_of_ne (solid name)]

theorem replaceAll_chars {token : Token} (plain : token.IsPlain)
    (spelled : Lua.isNameSpelling name = true) :
    Text.replaceAll ('\x7b' :: name ++ ['\x7d']) value token.chars =
      (token.fill name value).chars := by
  have alone : Text.replaceAll ('\x7b' :: name ++ ['\x7d']) value (token.chars ++ []) = _ :=
    replaceAll_slot plain (name_ne_nil spelled) (not_mem_name spelled (by decide))
  rwa [List.append_nil, Text.replaceAll, List.append_nil] at alone

/-- Replacing a slot is done piece by piece, whatever has been put in for the slots already. -/
theorem replaceAll_flatMap_text (plain : ∀ token ∈ tokens, token.IsPlain)
    (spaced : isSpaced tokens = true)
    (kept : ∀ token, token.IsPlain → (∀ name, token ≠ .slot name) → text token = token.chars)
    (spelled : Lua.isNameSpelling name = true) :
    Text.replaceAll ('\x7b' :: name ++ ['\x7d']) value (tokens.flatMap text) =
      tokens.flatMap fun token =>
        Text.replaceAll ('\x7b' :: name ++ ['\x7d']) value (text token) := by
  fun_induction isSpaced tokens with
  | case1 => rw [List.flatMap_nil, Text.replaceAll, List.flatMap_nil]
  | case2 inner c rest ih =>
      simp only [Bool.and_eq_true, Bool.not_eq_true', bne_iff_ne] at spaced
      obtain ⟨⟨other, unclosed⟩, further⟩ := spaced
      obtain ⟨-, behind⟩ := List.forall_mem_cons.1 plain
      obtain ⟨isPlain, others⟩ := List.forall_mem_cons.1 behind
      have solid : ∀ other, Token.mark c ≠ .slot other := by simp
      -- The mark behind the slot keeps its value apart from the rest.
      have apart : ∀ d ∈ (text (.mark c) ++ rest.flatMap text).head?, d ∉ name ++ ['\x7d'] := by
        rw [kept (.mark c) isPlain solid]
        intro d first
        cases first
        simp [not_mem_name spelled other, unclosed]
      rw [List.flatMap_cons, List.flatMap_cons, List.cons_append,
        Text.replaceAll_append_of_apart apart, ← List.cons_append, List.flatMap_cons,
        List.flatMap_cons, kept (.mark c) isPlain solid,
        replaceAll_of_not_slot isPlain solid spelled, replaceAll_chars isPlain spelled,
        fill_of_ne (solid name), ih others further]
  | case3 => cases spaced
  | case4 token rest _ solid ih =>
      obtain ⟨isPlain, others⟩ := List.forall_mem_cons.1 plain
      rw [List.flatMap_cons, List.flatMap_cons, kept token isPlain solid,
        replaceAll_of_not_slot isPlain solid spelled, replaceAll_chars isPlain spelled,
        fill_of_ne (solid name), ih others spaced]

end Token

namespace Template

variable {values : List (String × String)} {tokens : List Token}

/-- Fill the slots of a text one after the other. -/
def fillChars (values : List (String × String)) (s : List Char) : List Char :=
  values.foldl (fun text value => Text.replaceAll (slot value.1) value.2.toList text) s

theorem toList_fill_eq (template : Template) (values : List (String × String)) :
    (template.fill values).toList = fillChars values template.text.toList :=
  String.toList_ofList

/-- The values as they end up: each is filled with those behind it. -/
def settled : List (String × String) → List (String × String)
  | [] => []
  | value :: later => (value.1, fill ⟨value.2⟩ later) :: settled later

/-- Slots that are called by names. -/
def Named (values : List (String × String)) : Prop :=
  ∀ value ∈ values, Lua.isNameSpelling value.1.toList = true

theorem fillChars_flatMap {text : Token → List Char} (plain : ∀ token ∈ tokens, token.IsPlain)
    (spaced : Token.isSpaced tokens = true) (named : Named values)
    (kept : ∀ token, token.IsPlain → (∀ name, token ≠ .slot name) → text token = token.chars) :
    fillChars values (tokens.flatMap text) =
      tokens.flatMap fun token => fillChars values (text token) := by
  induction values generalizing text with
  | nil => rfl
  | cons value later ih =>
      obtain ⟨spelled, others⟩ := List.forall_mem_cons.1 named
      rw [fillChars, List.foldl_cons, slot,
        Token.replaceAll_flatMap_text plain spaced kept spelled, ← fillChars, ih others]
      · rfl
      · intro token isPlain solid
        rw [kept token isPlain solid, Token.replaceAll_chars isPlain spelled,
          Token.fill_of_ne (solid _)]

/-- What one piece of a template is filled to. -/
theorem fillChars_chars {token : Token} (plain : token.IsPlain) (named : Named values) :
    fillChars values token.chars = token.charsIn (settled values) := by
  induction values with
  | nil => rw [settled, Token.charsIn_nil]; rfl
  | cons value later ih =>
      obtain ⟨spelled, others⟩ := List.forall_mem_cons.1 named
      rw [fillChars, List.foldl_cons, slot, Token.replaceAll_chars plain spelled, settled,
        Token.charsIn_cons]
      by_cases own : token = .slot value.1.toList
      · simp only [own, Token.fill, if_true, Token.chars, Token.charsIn, toList_fill_eq]
        rfl
      · simp only [Token.fill_of_ne own]
        exact ih others

/-! ## All slots at once -/

/-- Values put in for all slots at once. A text is read once from left to right; the characters to
skip belong to a slot that was met, and what is put in for it is not read. -/
def substituteFrom (values : List (String × String)) : Nat → List Char → List Char
  | _, [] => []
  | skip + 1, _ :: rest => substituteFrom values skip rest
  | 0, c :: rest =>
    match values.find? fun value => (slot value.1).isPrefixOf (c :: rest) with
    | some value => value.2.toList ++ substituteFrom values ((slot value.1).length - 1) rest
    | none => c :: substituteFrom values 0 rest

/-- Fill all slots at once. -/
def substitute (template : Template) (values : List (String × String)) : String :=
  String.ofList (substituteFrom values 0 template.text.toList)

theorem substituteFrom_skip (values : List (String × String)) (s rest : List Char) :
    substituteFrom values s.length (s ++ rest) = substituteFrom values 0 rest := by
  induction s with
  | nil => rfl
  | cons c s ih => exact ih

theorem substituteFrom_of_none {c : Char} {rest : List Char}
    (nowhere : ∀ value ∈ values, (slot value.1).isPrefixOf (c :: rest) = false) :
    substituteFrom values 0 (c :: rest) = c :: substituteFrom values 0 rest := by
  have none : (values.find? fun value => (slot value.1).isPrefixOf (c :: rest)) = none := by
    rw [List.find?_eq_none]
    intro value mem
    simp [nowhere value mem]
  rw [substituteFrom, none]

theorem substituteFrom_of_not_mem {s : List Char} (braceless : '\x7b' ∉ s) (rest : List Char) :
    substituteFrom values 0 (s ++ rest) = s ++ substituteFrom values 0 rest := by
  induction s with
  | nil => rfl
  | cons c s ih =>
      obtain ⟨here, later⟩ : '\x7b' ≠ c ∧ '\x7b' ∉ s := by simpa using braceless
      rw [List.cons_append, substituteFrom_of_none, ih later, List.cons_append]
      intro value _
      simp [slot, List.isPrefixOf, here]

/-- Which slot stands at the front of a text is told by its name. -/
theorem isPrefixOf_slot {name : String} (spelled : Lua.isNameSpelling name.toList = true)
    {inner rest : List Char} (unclosed : '\x7d' ∉ inner) :
    (slot name).isPrefixOf ('\x7b' :: (inner ++ '\x7d' :: rest)) = (name.toList == inner) := by
  rw [Bool.eq_iff_iff, List.isPrefixOf_iff_prefix, beq_iff_eq]
  constructor
  · rintro ⟨after, whole⟩
    have met : name.toList ++ '\x7d' :: after = inner ++ '\x7d' :: rest := by
      simpa [slot] using whole
    exact Token.eq_of_closed (Token.not_mem_name spelled (by decide)) unclosed met
  · rintro rfl
    exact ⟨rest, by simp [slot]⟩

theorem substituteFrom_token {token : Token} (plain : token.IsPlain) (named : Named values)
    (rest : List Char) :
    substituteFrom values 0 (token.chars ++ rest) =
      token.charsIn values ++ substituteFrom values 0 rest := by
  cases token with
  | word chars => exact substituteFrom_of_not_mem plain rest
  | aside chars => exact substituteFrom_of_not_mem plain rest
  | mark c => exact substituteFrom_of_not_mem (by simpa [Token.chars] using Ne.symm plain) rest
  | table =>
      have nowhere : ∀ value ∈ values,
          (slot value.1).isPrefixOf ('\x7b' :: (['\x7d'] ++ rest)) = false := by
        intro value mem
        have told : (slot value.1).isPrefixOf ('\x7b' :: ([] ++ '\x7d' :: rest)) = _ :=
          isPrefixOf_slot (named value mem) (by simp)
        rw [List.singleton_append, ← List.nil_append ('\x7d' :: rest), told]
        simpa using Token.name_ne_nil (named value mem)
      change substituteFrom values 0 ('\x7b' :: (['\x7d'] ++ rest)) = _
      rw [substituteFrom_of_none nowhere, substituteFrom_of_not_mem (by simp)]
      rfl
  | slot inner =>
      obtain ⟨unopened, unclosed⟩ := plain
      have written : Token.chars (.slot inner) ++ rest = '\x7b' :: (inner ++ '\x7d' :: rest) := by
        simp [Token.chars]
      have found : (values.find? fun value =>
          (slot value.1).isPrefixOf ('\x7b' :: (inner ++ '\x7d' :: rest))) =
          values.find? (·.1.toList == inner) :=
        List.find?_congr fun value mem => isPrefixOf_slot (named value mem) unclosed
      rw [written, substituteFrom, found, Token.charsIn]
      cases held : values.find? (·.1.toList == inner) with
      | none =>
          have passed : substituteFrom values 0 ((inner ++ ['\x7d']) ++ rest) = _ :=
            substituteFrom_of_not_mem (by simp [unopened]) rest
          rw [List.append_assoc, List.singleton_append] at passed
          simp [passed, Token.chars]
      | some value =>
          have same : value.1.toList = inner := by simpa using List.find?_some held
          have skipped := substituteFrom_skip values (inner ++ ['\x7d']) rest
          rw [List.append_assoc, List.singleton_append] at skipped
          have length : (slot value.1).length - 1 = (inner ++ ['\x7d']).length := by
            simp [slot, same]
          simp only [length, skipped]

theorem toList_substitute {template : Template} (plain : ∀ token ∈ template.tokens, token.IsPlain)
    (named : Named values) :
    (template.substitute values).toList = template.tokens.flatMap (Token.charsIn values) := by
  have read : ∀ tokens : List Token, (∀ token ∈ tokens, token.IsPlain) →
      substituteFrom values 0 (tokens.flatMap Token.chars) =
        tokens.flatMap (Token.charsIn values) := by
    intro tokens plain
    induction tokens with
    | nil => rfl
    | cons token tokens ih =>
        obtain ⟨here, others⟩ := List.forall_mem_cons.1 plain
        rw [List.flatMap_cons, substituteFrom_token here named, ih others, List.flatMap_cons]
  rw [substitute, String.toList_ofList, ← read _ plain, tokens, Token.flatMap_ofChars]

theorem named_settled (named : Named values) : Named (settled values) := by
  induction values with
  | nil => exact named
  | cons value later ih =>
      obtain ⟨spelled, others⟩ := List.forall_mem_cons.1 named
      exact List.forall_mem_cons.2 ⟨spelled, ih others⟩

/-- Filling one slot after the other comes to filling all at once with the values that have
settled. -/
theorem fill_eq_substitute_settled {template : Template}
    (plain : ∀ token ∈ template.tokens, token.IsPlain)
    (spaced : Token.isSpaced template.tokens = true) (named : Named values) :
    template.fill values = template.substitute (settled values) := by
  rw [← String.toList_inj, toList_fill_eq, toList_substitute plain (named_settled named),
    ← Token.flatMap_ofChars template.text.toList, ← tokens,
    fillChars_flatMap plain spaced named fun token _ _ => rfl, List.flatMap_def, List.flatMap_def,
    List.map_congr_left fun token mem => fillChars_chars (plain token mem) named]

theorem fillChars_of_not_infix {s : List Char}
    (absent : ∀ value ∈ values, ¬ slot value.1 <:+: s) : fillChars values s = s := by
  induction values with
  | nil => rfl
  | cons value later ih =>
      obtain ⟨here, others⟩ := List.forall_mem_cons.1 absent
      rw [fillChars, List.foldl_cons, Text.replaceAll_of_not_infix here]
      exact ih others

/-- A value stays as it is given if no slot that is filled later occurs in it. -/
theorem settled_eq_self
    (apart : values.Pairwise fun value later => ¬ slot later.1 <:+: value.2.toList) :
    settled values = values := by
  induction apart with
  | nil => rfl
  | @cons value later absent _ ih =>
      have kept : fill ⟨value.2⟩ later = value.2 := by
        rw [← String.toList_inj, toList_fill_eq, fillChars_of_not_infix absent]
      rw [settled, kept, ih]

end Template

/-! ## The bridge -/

/-- What the slots of the bridge are filled with, in this order. -/
def BridgeSettings.values (bridge : BridgeSettings) : List (String × String) := [
  ("bridge", bridge.name),
  ("host_loader", bridge.loader),
  ("get_identity", bridge.getIdentity),
  ("set_identity", bridge.setIdentity),
  ("identity", toString bridge.identity.toNat)]

theorem spaced_bridge : Token.isSpaced bridgeTemplate.tokens = true ∧
    ∀ name ∈ ["bridge", "host_loader", "get_identity", "set_identity", "identity"],
      Token.slot name.toList ∈ bridgeTemplate.tokens := by
  rw [Template.tokens, bridgeTemplate, Template.toList_ofLines]
  simp only [List.flatMap_cons, List.flatMap_nil]
  repeat rw [String.toList_ofList]
  decide +kernel

namespace Artifact

variable (bridge : BridgeSettings)

theorem named_values : Template.Named bridge.values := by
  have spelled : ∀ name ∈ ["bridge", "host_loader", "get_identity", "set_identity", "identity"],
      Lua.isNameSpelling name.toList = true := by decide +kernel
  intro value mem
  exact spelled value.1 (List.mem_map_of_mem (f := (·.1)) mem)

theorem bridge_eq_substitute :
    Artifact.bridge bridge = bridgeTemplate.substitute (Template.settled bridge.values) :=
  Template.fill_eq_substitute_settled used_bridge.2 spaced_bridge.1 (named_values bridge)

/-- The slot of the identity is filled last, by a number, so none is left. -/
theorem identity_not_infix_bridge :
    ¬ Template.slot "identity" <:+: (Artifact.bridge bridge).toList := by
  have digits : (toString bridge.identity.toNat).toList =
      Nat.toDigits 10 bridge.identity.toNat := by
    simp [Nat.repr]
  have some : (toString bridge.identity.toNat).toList ≠ [] := by
    rw [digits]
    exact Nat.toDigits_ne_nil
  have unlike : ∀ c ∈ (toString bridge.identity.toNat).toList, c ∉ Template.slot "identity" := by
    have letters : (Template.slot "identity").all (!·.isDigit) = true := by decide +kernel
    intro c mem inside
    rw [digits] at mem
    have digit := Nat.isDigit_of_mem_toDigits (by decide) (by decide) mem
    simpa [digit] using List.all_eq_true.1 letters c inside
  have last : Artifact.bridge bridge = bridgeTemplate.fill
      (bridge.values.take 4 ++ [("identity", toString bridge.identity.toNat)]) := rfl
  rw [last, Template.toList_fill_eq, Template.fillChars, List.foldl_append, List.foldl_cons,
    List.foldl_nil]
  exact Text.not_infix_replaceAll some unlike

/-- Put in at once, a value of the bridge stands in the text as it was given. -/
theorem infix_substitute {value : String × String} (mem : value ∈ bridge.values) :
    value.2.toList <:+: (bridgeTemplate.substitute bridge.values).toList := by
  have slotted : Token.slot value.1.toList ∈ bridgeTemplate.tokens :=
    spaced_bridge.2 value.1 (List.mem_map_of_mem (f := (·.1)) mem)
  have given : Token.charsIn bridge.values (.slot value.1.toList) = value.2.toList := by
    simp only [BridgeSettings.values, List.mem_cons, List.not_mem_nil, or_false] at mem
    rcases mem with rfl | rfl | rfl | rfl | rfl <;> simp [BridgeSettings.values, Token.charsIn]
  obtain ⟨front, back, cut⟩ := List.append_of_mem slotted
  rw [Template.toList_substitute used_bridge.2 (named_values bridge), cut, List.flatMap_append,
    List.flatMap_cons, given, ← List.append_assoc]
  exact List.infix_append _ _ _

theorem bridge_ne_substitute {value : String × String} (mem : value ∈ bridge.values)
    (met : Template.slot "identity" <:+: value.2.toList) :
    Artifact.bridge bridge ≠ bridgeTemplate.substitute bridge.values := by
  intro same
  refine identity_not_infix_bridge bridge ?_
  rw [same]
  exact met.trans (infix_substitute bridge mem)

end Artifact

namespace Settings

/-- The bridge of a bundle is its template with a value in place of each slot, put in at once, only
that a value is first filled with those behind it. So it is what the settings say if no value has
the slot of a later one in it, and it is not if the slot of the identity occurs in one. -/
theorem bridge_substitutes_settled {settings checked : Settings}
    (accepted : settings.check = .ok checked) (enabled : checked.bridge.enabled = true) :
    (∀ made graph, ∃ before, Artifact.render checked made graph =
      before ++ (Artifact.bridge checked.bridge ++ "\n" ++ Artifact.entry graph.entry)) ∧
    Artifact.bridge checked.bridge = bridgeTemplate.substitute [
      ("bridge", checked.bridge.name),
      ("host_loader", Template.fill ⟨checked.bridge.loader⟩ (checked.bridge.values.drop 2)),
      ("get_identity", Template.fill ⟨checked.bridge.getIdentity⟩ (checked.bridge.values.drop 3)),
      ("set_identity", Template.fill ⟨checked.bridge.setIdentity⟩ (checked.bridge.values.drop 4)),
      ("identity", toString checked.bridge.identity.toNat)] ∧
    ((checked.bridge.values.drop 1).Pairwise
        (fun value later => ¬ Template.slot later.1 <:+: value.2.toList) →
      Artifact.bridge checked.bridge = bridgeTemplate.substitute checked.bridge.values) ∧
    (Artifact.bridge checked.bridge = bridgeTemplate.substitute checked.bridge.values →
      ∀ value ∈ checked.bridge.values, ¬ Template.slot "identity" <:+: value.2.toList) := by
  obtain ⟨-, -, named⟩ := check_eq_ok.1 accepted
  have braceless := Lua.brace_not_mem_of_isIdentifier (named.bridge enabled)
  have unopened : ∀ slot, ¬ Template.slot slot <:+: checked.bridge.name.toList :=
    fun slot met => braceless (met.subset List.mem_cons_self)
  have filled := Artifact.bridge_eq_substitute checked.bridge
  refine ⟨?_, ?_, ?_, ?_⟩
  · intro made graph
    refine ⟨(if checked.header then Artifact.header made else "") ++
      Artifact.prelude checked.loaderName ++ Artifact.bridgeDeclaration checked.bridge.name ++
      "\n" ++ String.join (graph.modules.modules.map Artifact.thunk) ++
      Artifact.loader checked.loaderName ++ "\n", ?_⟩
    simp only [Artifact.render, enabled, if_true, String.append_assoc]
  · have name : Template.fill ⟨checked.bridge.name⟩ (checked.bridge.values.drop 1) =
        checked.bridge.name := by
      rw [← String.toList_inj, Template.toList_fill_eq, Template.fillChars_of_not_infix]
      exact fun value _ => unopened value.1
    have number : Template.fill ⟨toString checked.bridge.identity.toNat⟩ [] =
        toString checked.bridge.identity.toNat := String.ofList_toList
    have settled : Template.settled checked.bridge.values = [
        ("bridge", Template.fill ⟨checked.bridge.name⟩ (checked.bridge.values.drop 1)), _, _, _,
        ("identity", Template.fill ⟨toString checked.bridge.identity.toNat⟩ [])] := rfl
    rw [filled, settled, name, number]
    rfl
  · intro apart
    rw [filled, Template.settled_eq_self]
    exact .cons (fun later _ => unopened later.1) apart
  · exact fun same value mem met => Artifact.bridge_ne_substitute checked.bridge mem met same

/-- A value is kept if the slots in it have been filled before it is put in. -/
theorem bridge_substitutes_settled_earlier_slot :
    let settings : Settings :=
      { bridge := { loader := "pick(\x7bbridge\x7d)", getIdentity := "\x7bhost_loader\x7d" } }
    settings.check = .ok settings ∧
      Artifact.bridge settings.bridge = bridgeTemplate.substitute settings.bridge.values := by
  intro settings
  have accepted : settings.check = .ok settings :=
    check_eq_self (by decide +kernel) (by simp [settings]) (by decide +kernel)
  obtain ⟨-, -, kept, -⟩ := bridge_substitutes_settled accepted rfl
  exact ⟨accepted, kept (by decide +kernel)⟩

/-- A loader with the slot of the identity in it is accepted, and the number is put in there. -/
theorem bridge_fills_value :
    let settings : Settings := { bridge := { loader := "loaderFor(\x7bidentity\x7d)" } }
    settings.check = .ok settings ∧ settings.bridge.enabled = true ∧
    Template.fill ⟨settings.bridge.loader⟩ (settings.bridge.values.drop 2) = "loaderFor(2)" ∧
    Artifact.bridge settings.bridge ≠ bridgeTemplate.substitute settings.bridge.values := by
  intro settings
  have accepted : settings.check = .ok settings :=
    check_eq_self (by decide +kernel) (by simp [settings]) (by decide +kernel)
  have mem : ("host_loader", settings.bridge.loader) ∈ settings.bridge.values := by
    simp [BridgeSettings.values]
  have slotted : Template.slot "identity" <:+: settings.bridge.loader.toList := by decide +kernel
  exact ⟨accepted, rfl, by decide +kernel, Artifact.bridge_ne_substitute _ mem slotted⟩

end Settings

end LuaBundle
