import LuaBundle.Yaml.Scalar

/-! # YAML tokens

The scanner cuts a text into tokens and makes the block structure explicit: indentation opens and
closes block collections. A key without `?` is only known to be one when its `:` is met, so each
place where a key may have begun is remembered, and the tokens in front of the key are put in then.
-/

namespace LuaBundle.Yaml

/-- A token. -/
inductive Token where
  | versionDirective (major minor : Nat)
  | tagDirective (handle uri : List Char)
  | documentStart
  | documentEnd
  | blockSequenceStart
  | blockMappingStart
  | blockEnd
  | flowSequenceStart
  | flowSequenceEnd
  | flowMappingStart
  | flowMappingEnd
  | blockEntry
  | flowEntry
  | key
  | value
  | alias (name : List Char)
  | anchor (name : List Char)
  | tag (handle suffix : List Char)
  | scalar (text : List Char) (style : ScalarStyle)
  deriving Repr, DecidableEq

/-- A place where a key may have begun. -/
structure KeyStart where
  /-- Nothing but a key may stand there. -/
  required : Bool
  /-- How many tokens stand in front. -/
  token : Nat
  index : Nat
  line : Nat
  column : Nat

/-- What the scanner knows. -/
structure Scanner where
  cursor : Cursor
  tokens : List Token := []
  /-- The column of the block collection the scanner is in, and of those around it. -/
  indent : Int := -1
  outerIndents : List Int := []
  /-- The key that may have begun at each level of brackets, innermost first. -/
  keys : List (Option KeyStart) := [none]
  keyAllowed : Bool := true

namespace Scanner

/-- Whether the scanner is inside brackets. -/
def inFlow (scanner : Scanner) : Bool :=
  1 < scanner.keys.length

/-- Add a token. -/
def emit (scanner : Scanner) (token : Token) : Scanner :=
  { scanner with tokens := scanner.tokens ++ [token] }

/-- Put a token behind some others. -/
def insert (scanner : Scanner) (n : Nat) (token : Token) : Scanner :=
  { scanner with tokens := scanner.tokens.take n ++ token :: scanner.tokens.drop n }

/-- Say whether a key may begin next. -/
def allowKey (scanner : Scanner) (allowed : Bool) : Scanner :=
  { scanner with keyAllowed := allowed }

/-- Go on to a place. -/
def moveTo (scanner : Scanner) (cursor : Cursor) : Scanner :=
  { scanner with cursor }

/-- Open a block collection if the column is deeper than that of the current one. -/
def openBlock (scanner : Scanner) (column : Nat) (place : Option Nat) (start : Token) : Scanner :=
  if scanner.inFlow || column ≤ scanner.indent then scanner
  else
    let opened :=
      { scanner with indent := column, outerIndents := scanner.indent :: scanner.outerIndents }
    match place with
    | none => opened.emit start
    | some n => opened.insert n start

/-- Close block collections that are deeper than a column. -/
def closeBlocks (column : Int) (scanner : Scanner) : List Int → Scanner
  | [] => scanner
  | outer :: outers =>
    if scanner.indent ≤ column then scanner
    else
      closeBlocks column
        ({ scanner with indent := outer, outerIndents := outers }.emit .blockEnd) outers

/-- Close block collections that are deeper than a column, unless in brackets. -/
def unindent (scanner : Scanner) (column : Int) : Scanner :=
  if scanner.inFlow then scanner else closeBlocks column scanner scanner.outerIndents

/-- Give up the key that may have begun at this level. It must not be a required one. -/
def dropKey (scanner : Scanner) : Option Scanner :=
  match scanner.keys with
  | some start :: outer =>
    if start.required then none else some { scanner with keys := none :: outer }
  | _ => some scanner

/-- Remember that a key may begin here. -/
def saveKey (scanner : Scanner) : Option Scanner :=
  if scanner.keyAllowed then
    scanner.dropKey.map fun scanner =>
      let start : KeyStart :=
        { required := !scanner.inFlow && scanner.indent == scanner.cursor.column
          token := scanner.tokens.length
          index := scanner.cursor.index
          line := scanner.cursor.line
          column := scanner.cursor.column }
      { scanner with keys := some start :: scanner.keys.drop 1 }
  else some scanner

/-- Give up keys that began on an earlier line or more than 1024 bytes ago. -/
def dropStaleKeys (scanner : Scanner) : Option Scanner :=
  let stale (start : KeyStart) : Bool :=
    start.line < scanner.cursor.line || start.index + 1024 < scanner.cursor.index
  if scanner.keys.any (·.any fun start => stale start && start.required) then none
  else some { scanner with keys := scanner.keys.map (·.filter (!stale ·)) }

/-- Pass blanks, comments and breaks up to the next token. -/
def toNextToken (scanner : Scanner) : Nat → Scanner
  | 0 => scanner
  | fuel + 1 =>
    let cursor := scanner.cursor
    let cursor := if cursor.column == 0 && cursor.sees '\ufeff' then cursor.skip else cursor
    let tabs := scanner.inFlow || !scanner.keyAllowed
    let cursor := cursor.skipWhile fun c => c == ' ' || (tabs && c == '\t')
    let cursor := if cursor.sees '#' then cursor.skipWhile (!isBreak ·) else cursor
    if cursor.seesBreak then
      let scanner := scanner.moveTo cursor.skipLine
      (if scanner.inFlow then scanner else scanner.allowKey true).toNextToken fuel
    else scanner.moveTo cursor

/-! ## Indicators -/

/-- A token of some characters, after which a key may or may not begin. -/
def indicator (scanner : Scanner) (width : Nat) (allowed : Bool) (token : Token) : Scanner :=
  ((scanner.moveTo (scanner.cursor.skipMany width)).allowKey allowed).emit token

/-- The start or end of a document. -/
def documentMarker (scanner : Scanner) (token : Token) : Option Scanner :=
  (scanner.unindent (-1)).dropKey.map (·.indicator 3 false token)

/-- An opening bracket. -/
def openFlow (scanner : Scanner) (token : Token) : Option Scanner :=
  scanner.saveKey.map fun scanner =>
    { scanner with keys := none :: scanner.keys }.indicator 1 true token

/-- A closing bracket. -/
def closeFlow (scanner : Scanner) (token : Token) : Option Scanner :=
  scanner.dropKey.map fun scanner =>
    (if scanner.inFlow then { scanner with keys := scanner.keys.drop 1 } else scanner).indicator
      1 false token

/-- A comma. -/
def flowEntry (scanner : Scanner) : Option Scanner :=
  scanner.dropKey.map (·.indicator 1 true .flowEntry)

/-- A dash. -/
def blockEntry (scanner : Scanner) : Option Scanner :=
  if !scanner.inFlow && !scanner.keyAllowed then none
  else
    (scanner.openBlock scanner.cursor.column none .blockSequenceStart).dropKey.map
      (·.indicator 1 true .blockEntry)

/-- A question mark. -/
def explicitKey (scanner : Scanner) : Option Scanner :=
  if !scanner.inFlow && !scanner.keyAllowed then none
  else
    (scanner.openBlock scanner.cursor.column none .blockMappingStart).dropKey.map
      fun scanner => scanner.indicator 1 (!scanner.inFlow) .key

/-- A colon. It makes a key of what may have been one. -/
def value (scanner : Scanner) : Option Scanner :=
  match scanner.keys with
  | some start :: outer =>
    let scanner := { scanner with keys := none :: outer }.insert start.token .key
    let scanner := scanner.openBlock start.column (some start.token) .blockMappingStart
    some (scanner.indicator 1 false .value)
  | _ =>
    if !scanner.inFlow && !scanner.keyAllowed then none
    else
      let scanner := scanner.openBlock scanner.cursor.column none .blockMappingStart
      some (scanner.indicator 1 (!scanner.inFlow) .value)

/-! ## Anchors, tags and directives -/

/-- Whether an anchor's name may be followed by what comes next. -/
def endsAnchor (cursor : Cursor) : Bool :=
  cursor.gapAhead 0 || cursor.rest.head?.any fun c =>
    c == '?' || c == ':' || c == ',' || c == ']' || c == '\x7d' || c == '%' || c == '@' ||
      c == '\x60'

/-- An anchor or alias. -/
def anchor (scanner : Scanner) (token : List Char → Token) : Option Scanner :=
  match scanner.saveKey with
  | none => none
  | some scanner =>
    let cursor := scanner.cursor.skip
    let name := cursor.rest.takeWhile isWordChar
    let cursor := cursor.skipMany name.length
    if name.isEmpty || !endsAnchor cursor then none
    else some (((scanner.moveTo cursor).allowKey false).emit (token name))

/-- What tags are made of. -/
def isTagChar (uri : Bool) (c : Char) : Bool :=
  isWordChar c || ";/?:@&=+$.!~*()%".toList.contains c || c == Char.ofNat 39 ||
    (uri && (c == ',' || c == '[' || c == ']'))

/-- The text of a tag, in which a percent sign and two digits write one byte of a character. The
first byte says how many more there are. `missing` of them are still to come, and `code` is what
those read so far write. -/
def decodeTag (missing code : Nat) : List Char → Option (List Char)
  | [] => if missing = 0 then some [] else none
  | '%' :: a :: b :: rest =>
    match hexNumber? [a, b] with
    | none => none
    | some byte =>
      if missing = 0 then
        if byte < 0x80 then (decodeTag 0 0 rest).map (Char.ofNat byte :: ·)
        else if byte / 0x20 = 0x6 then decodeTag 1 (byte % 0x20) rest
        else if byte / 0x10 = 0xE then decodeTag 2 (byte % 0x10) rest
        else if byte / 0x8 = 0x1E then decodeTag 3 (byte % 0x8) rest
        else none
      else if byte / 0x40 = 2 then
        let code := code * 0x40 + byte % 0x40
        if missing = 1 then (decodeTag 0 0 rest).map (Char.ofNat code :: ·)
        else decodeTag (missing - 1) code rest
      else none
  | c :: rest => if missing = 0 ∧ c ≠ '%' then (decodeTag 0 0 rest).map (c :: ·) else none

/-- Read the text of a tag. -/
def tagText (uri : Bool) (cursor : Cursor) : Option (List Char × Cursor) :=
  let written := cursor.rest.takeWhile (isTagChar uri)
  (decodeTag 0 0 written).map fun text => (text, cursor.skipMany written.length)

/-- Read the handle of a tag: a word between exclamation marks, of which the second may be
missing. -/
def tagHandle (cursor : Cursor) : Option (List Char × Cursor) :=
  if cursor.sees '!' then
    let name := cursor.skip.rest.takeWhile isWordChar
    let cursor := cursor.skip.skipMany name.length
    if cursor.sees '!' then some ('!' :: name ++ ['!'], cursor.skip)
    else some ('!' :: name, cursor)
  else none

/-- Read a tag. -/
def tagParts (cursor : Cursor) : Option (List Char × List Char × Cursor) :=
  if cursor.ahead? 1 == some '<' then
    match tagText true (cursor.skipMany 2) with
    | none => none
    | some (text, cursor) =>
      if text.isEmpty || !cursor.sees '>' then none else some ([], text, cursor.skip)
  else
    match tagHandle cursor with
    | none => none
    | some (handle, cursor) =>
      match tagText false cursor with
      | none => none
      | some (text, cursor) =>
        if 1 < handle.length && handle.getLast? == some '!' then
          if text.isEmpty then none else some (handle, text, cursor)
        else
          match handle.drop 1 ++ text with
          | [] => some ([], ['!'], cursor)
          | suffix => some (['!'], suffix, cursor)

/-- A tag. -/
def tag (scanner : Scanner) : Option Scanner :=
  match scanner.saveKey with
  | none => none
  | some scanner =>
    match tagParts scanner.cursor with
    | none => none
    | some (handle, suffix, cursor) =>
      if cursor.gapAhead 0 || (scanner.inFlow && cursor.sees ',') then
        some (((scanner.moveTo cursor).allowKey false).emit (.tag handle suffix))
      else none

/-- Read a number of at most nine digits. -/
def versionNumber (cursor : Cursor) : Option (Nat × Cursor) :=
  let digits := cursor.rest.takeWhile fun c => '0' ≤ c && c ≤ '9'
  if digits.isEmpty || 9 < digits.length then none
  else
    some (digits.foldl (fun n c => n * 10 + (c.toNat - '0'.toNat)) 0,
      cursor.skipMany digits.length)

/-- Read what a directive says. -/
def directiveToken (cursor : Cursor) : Option (Token × Cursor) :=
  let name := cursor.rest.takeWhile isWordChar
  let cursor := cursor.skipMany name.length
  if !cursor.gapAhead 0 then none
  else
    let cursor := cursor.skipWhile isBlank
    if name == "YAML".toList then
      match versionNumber cursor with
      | none => none
      | some (major, cursor) =>
        if !cursor.sees '.' then none
        else
          (versionNumber cursor.skip).map fun (minor, cursor) =>
            (.versionDirective major minor, cursor)
    else if name == "TAG".toList then
      match tagHandle cursor with
      | none => none
      | some (handle, cursor) =>
        if (1 < handle.length && handle.getLast? != some '!') || !cursor.seesBlank then none
        else
          match tagText true (cursor.skipWhile isBlank) with
          | none => none
          | some (uri, cursor) =>
            if uri.isEmpty || !cursor.gapAhead 0 then none
            else some (.tagDirective handle uri, cursor)
    else none

/-- A directive, which has a line to itself. -/
def directive (scanner : Scanner) : Option Scanner :=
  match (scanner.unindent (-1)).dropKey with
  | none => none
  | some scanner =>
    match directiveToken scanner.cursor.skip with
    | none => none
    | some (token, cursor) =>
      let cursor := cursor.skipWhile isBlank
      let cursor := if cursor.sees '#' then cursor.skipWhile (!isBreak ·) else cursor
      if !cursor.atLineEnd then none
      else
        let cursor := if cursor.seesBreak then cursor.skipLine else cursor
        some (((scanner.moveTo cursor).allowKey false).emit token)

/-! ## Scalars -/

/-- A block scalar. -/
def block (scanner : Scanner) (folded : Bool) : Option Scanner :=
  match scanner.dropKey with
  | none => none
  | some scanner =>
    (blockScalar folded scanner.indent scanner.cursor).map fun (text, cursor) =>
      ((scanner.moveTo cursor).allowKey true).emit
        (.scalar text (if folded then .folded else .literal))

/-- A quoted scalar. -/
def quoted (scanner : Scanner) (mark : Char) : Option Scanner :=
  match scanner.saveKey with
  | none => none
  | some scanner =>
    (quotedScalar mark scanner.cursor).map fun (text, cursor) =>
      ((scanner.moveTo cursor).allowKey false).emit
        (.scalar text (if mark == '"' then .doubleQuoted else .singleQuoted))

/-- A plain scalar. -/
def plain (scanner : Scanner) : Option Scanner :=
  match scanner.saveKey with
  | none => none
  | some scanner =>
    (plainScalar scanner.inFlow (scanner.indent + 1) scanner.cursor).map
      fun (text, broken, cursor) =>
        ((scanner.moveTo cursor).allowKey broken).emit (.scalar text .plain)

/-- Characters that no plain scalar begins with. -/
def isIndicator (c : Char) : Bool :=
  isFlowIndicator c || "-?:#&*!|>\"%@".toList.contains c || c == Char.ofNat 39 || c == '\x60'

/-- Whether a plain scalar begins here. -/
def startsPlain (scanner : Scanner) (c : Char) : Bool :=
  (!scanner.cursor.gapAhead 0 && !isIndicator c) ||
    (c == '-' && !(scanner.cursor.ahead? 1).any isBlank) ||
    (!scanner.inFlow && (c == '?' || c == ':') && !scanner.cursor.gapAhead 1)

/-- Read the next token, or the end of the text. -/
def next (scanner : Scanner) (c : Char) : Option Scanner :=
  let cursor := scanner.cursor
  let flow := scanner.inFlow
  if cursor.column == 0 && c == '%' then scanner.directive
  else if cursor.seesMarker '-' then scanner.documentMarker .documentStart
  else if cursor.seesMarker '.' then scanner.documentMarker .documentEnd
  else if c == '[' then scanner.openFlow .flowSequenceStart
  else if c == '\x7b' then scanner.openFlow .flowMappingStart
  else if c == ']' then scanner.closeFlow .flowSequenceEnd
  else if c == '\x7d' then scanner.closeFlow .flowMappingEnd
  else if c == ',' then scanner.flowEntry
  else if c == '-' && cursor.gapAhead 1 then scanner.blockEntry
  else if c == '?' && (flow || cursor.gapAhead 1) then scanner.explicitKey
  else if c == ':' && (flow || cursor.gapAhead 1) then scanner.value
  else if c == '*' then scanner.anchor .alias
  else if c == '&' then scanner.anchor .anchor
  else if c == '!' then scanner.tag
  else if c == '|' && !flow then scanner.block false
  else if c == '>' && !flow then scanner.block true
  else if c == '"' || c == Char.ofNat 39 then scanner.quoted c
  else if scanner.startsPlain c then scanner.plain
  else none

/-- Read tokens up to the end of the text. -/
def run (scanner : Scanner) : Nat → Option (List Token)
  | 0 => none
  | fuel + 1 =>
    match (scanner.toNextToken (scanner.cursor.rest.length + 1)).dropStaleKeys with
    | none => none
    | some scanner =>
      let scanner := scanner.unindent scanner.cursor.column
      match scanner.cursor.rest with
      | [] =>
        let line := scanner.cursor.line + (if scanner.cursor.column == 0 then 0 else 1)
        let scanner := scanner.moveTo { scanner.cursor with line, column := 0 }
        (scanner.unindent (-1)).dropKey.map (·.tokens)
      | c :: _ =>
        match scanner.next c with
        | none => none
        | some scanner => scanner.run fuel

end Scanner

/-- The tokens of a text. -/
def tokens? (text : List Char) : Option (List Token) :=
  if text.all isAllowed then
    Scanner.run { cursor := { rest := text } } (text.length + 1)
  else none

end LuaBundle.Yaml
