import LuaBundle.Yaml.Cursor

/-! # YAML scalars

Plain and quoted scalars may run over several lines: one break between two lines becomes a space,
and of more breaks all but the first are kept. Block scalars keep their lines, or fold them by the
same rule unless a line begins with a blank. Functions return nothing if the text is not YAML.
-/

namespace LuaBundle.Yaml

/-- How a scalar is written. -/
inductive ScalarStyle where
  | plain
  | singleQuoted
  | doubleQuoted
  | literal
  | folded
  deriving Repr, DecidableEq

/-- A scalar that is being read, and the blanks and breaks met behind what was read so far. -/
structure Folding where
  text : List Char := []
  blanks : List Char := []
  firstBreak : List Char := []
  moreBreaks : List Char := []
  /-- Whether a line has ended since the last character. -/
  broken : Bool := false

namespace Folding

/-- Settle what blanks and breaks become, now that more text follows. -/
def settle (fold : Folding) : Folding :=
  if fold.broken then
    if fold.firstBreak == ['\n'] then
      { text := fold.text ++ (if fold.moreBreaks.isEmpty then [' '] else fold.moreBreaks) }
    else { text := fold.text ++ fold.firstBreak ++ fold.moreBreaks }
  else { text := fold.text ++ fold.blanks }

/-- Add text. -/
def push (fold : Folding) (chars : List Char) : Folding :=
  { fold with text := fold.text ++ chars }

/-- Pass blanks and breaks. In a plain scalar a tab must not stand in for indentation. -/
def gap (fold : Folding) (indent : Option Int) (cursor : Cursor) :
    Nat → Option (Folding × Cursor)
  | 0 => some (fold, cursor)
  | fuel + 1 =>
    match cursor.rest with
    | [] => some (fold, cursor)
    | c :: _ =>
      if isBlank c then
        let early := indent.any fun least => (cursor.column : Int) < least
        if fold.broken && c == '\t' && early then none
        else if fold.broken then fold.gap indent cursor.skip fuel
        else ({ fold with blanks := fold.blanks ++ [c] } : Folding).gap indent cursor.skip fuel
      else if isBreak c then
        if fold.broken then
          ({ fold with moreBreaks := fold.moreBreaks ++ cursor.lineBreak } : Folding).gap indent
            cursor.skipLine fuel
        else
          ({ fold with blanks := [], firstBreak := cursor.lineBreak, broken := true } :
            Folding).gap indent cursor.skipLine fuel
      else some (fold, cursor)

end Folding

/-! ## Plain scalars -/

/-- Characters that end a plain scalar inside brackets. -/
def isFlowIndicator (c : Char) : Bool :=
  c == ',' || c == '[' || c == ']' || c == '\x7b' || c == '\x7d'

/-- Read the characters of a plain scalar up to a gap or an indicator. -/
def plainWord (flow : Bool) (fold : Folding) (cursor : Cursor) :
    Nat → Option (Folding × Cursor)
  | 0 => some (fold, cursor)
  | fuel + 1 =>
    match cursor.rest with
    | [] => some (fold, cursor)
    | c :: _ =>
      if cursor.gapAhead 0 then some (fold, cursor)
      else if flow && c == ':' &&
          (cursor.ahead? 1).any (fun next => isFlowIndicator next || next == '?') then none
      else if (c == ':' && cursor.gapAhead 1) || (flow && isFlowIndicator c) then
        some (fold, cursor)
      else
        let settled := if fold.broken || !fold.blanks.isEmpty then fold.settle else fold
        plainWord flow (settled.push [c]) cursor.skip fuel

/-- Read a plain scalar whose lines are indented by at least `indent` blanks. -/
def plainFrom (flow : Bool) (indent : Int) (fold : Folding) (cursor : Cursor) :
    Nat → Option (Folding × Cursor)
  | 0 => some (fold, cursor)
  | fuel + 1 =>
    if cursor.seesDocumentMarker || cursor.sees '#' then some (fold, cursor)
    else
      match plainWord flow fold cursor cursor.rest.length with
      | none => none
      | some (fold, cursor) =>
        if !(cursor.seesBlank || cursor.seesBreak) then some (fold, cursor)
        else
          match fold.gap (some indent) cursor cursor.rest.length with
          | none => none
          | some (fold, cursor) =>
            if !flow && cursor.column < indent then some (fold, cursor)
            else plainFrom flow indent fold cursor fuel

/-- Read a plain scalar: its text, whether a line ended behind it, and what is left. -/
def plainScalar (flow : Bool) (indent : Int) (cursor : Cursor) :
    Option (List Char × Bool × Cursor) :=
  (plainFrom flow indent {} cursor cursor.rest.length).map fun (fold, cursor) =>
    (fold.text, fold.broken, cursor)

/-! ## Quoted scalars -/

/-- The value of a digit in base sixteen. -/
def hexValue? (c : Char) : Option Nat :=
  if '0' ≤ c && c ≤ '9' then some (c.toNat - '0'.toNat)
  else if 'a' ≤ c && c ≤ 'f' then some (c.toNat - 'a'.toNat + 10)
  else if 'A' ≤ c && c ≤ 'F' then some (c.toNat - 'A'.toNat + 10)
  else none

/-- The number that digits in base sixteen write. -/
def hexNumber? (digits : List Char) : Option Nat :=
  digits.foldl (fun n c => n.bind fun n => (hexValue? c).map (n * 16 + ·)) (some 0)

/-- The character that a letter behind a backslash stands for. -/
def shortEscape? (c : Char) : Option Char :=
  match c with
  | '0' => some '\x00'
  | 'a' => some '\x07'
  | 'b' => some '\x08'
  | 't' => some '\t'
  | '\t' => some '\t'
  | 'n' => some '\n'
  | 'v' => some '\x0b'
  | 'f' => some '\x0c'
  | 'r' => some '\r'
  | 'e' => some '\x1b'
  | ' ' => some ' '
  | '"' => some '"'
  | '/' => some '/'
  | '\\' => some '\\'
  | 'N' => some '\u0085'
  | '_' => some '\u00a0'
  | 'L' => some '\u2028'
  | 'P' => some '\u2029'
  | _ => none

/-- How many digits a letter behind a backslash is followed by. -/
def escapeWidth? (c : Char) : Option Nat :=
  match c with
  | 'x' => some 2
  | 'u' => some 4
  | 'U' => some 8
  | _ => none

/-- Read what stands behind a backslash. -/
def unescape (cursor : Cursor) : Option (Char × Cursor) :=
  match cursor.rest with
  | [] => none
  | c :: rest =>
    match shortEscape? c, escapeWidth? c with
    | some meant, _ => some (meant, cursor.skip)
    | none, some width =>
      let digits := rest.take width
      match hexNumber? digits with
      | none => none
      | some n =>
        if digits.length < width ∨ (0xD800 ≤ n ∧ n ≤ 0xDFFF) ∨ 0x10FFFF < n then none
        else some (Char.ofNat n, cursor.skipMany (width + 1))
    | none, none => none

/-- Read the characters of a quoted scalar up to a gap or the closing quote. -/
def quotedWord (mark : Char) (fold : Folding) (cursor : Cursor) :
    Nat → Option (Folding × Cursor)
  | 0 => some (fold, cursor)
  | fuel + 1 =>
    match cursor.rest with
    | [] => some (fold, cursor)
    | c :: rest =>
      if cursor.gapAhead 0 then some (fold, cursor)
      else if c == mark then
        if mark != '"' && rest.head? == some mark then
          quotedWord mark (fold.push [mark]) (cursor.skipMany 2) fuel
        else some (fold, cursor)
      else if mark == '"' && c == '\\' then
        if cursor.skip.seesBreak then some ({ fold with broken := true }, cursor.skip.skipLine)
        else
          match unescape cursor.skip with
          | none => none
          | some (meant, cursor) => quotedWord mark (fold.push [meant]) cursor fuel
      else quotedWord mark (fold.push [c]) cursor.skip fuel

/-- Read a quoted scalar behind its opening quote. -/
def quotedFrom (mark : Char) (fold : Folding) (cursor : Cursor) :
    Nat → Option (List Char × Cursor)
  | 0 => none
  | fuel + 1 =>
    if cursor.seesDocumentMarker || cursor.atEnd then none
    else
      match quotedWord mark fold cursor cursor.rest.length with
      | none => none
      | some (fold, cursor) =>
        if cursor.sees mark then some (fold.text, cursor.skip)
        else
          match fold.gap none cursor cursor.rest.length with
          | none => none
          | some (fold, cursor) => quotedFrom mark fold.settle cursor fuel

/-- Read a quoted scalar. -/
def quotedScalar (mark : Char) (cursor : Cursor) : Option (List Char × Cursor) :=
  quotedFrom mark {} cursor.skip (cursor.rest.length + 1)

/-! ## Block scalars -/

/-- What becomes of the breaks at the end of a block scalar. -/
inductive Chomping where
  | strip
  | clip
  | keep
  deriving Repr, DecidableEq

/-- Read the sign of the chomping. -/
def chompingSign? (cursor : Cursor) : Option Chomping :=
  if cursor.sees '+' then some .keep else if cursor.sees '-' then some .strip else none

/-- Read the number of blanks a block is indented by; zero is no such number. -/
def indentDigit? (cursor : Cursor) : Option Nat :=
  match cursor.rest with
  | c :: _ => if '0' ≤ c && c ≤ '9' then some (c.toNat - '0'.toNat) else none
  | [] => none

/-- Read the header of a block scalar: its chomping and how deep it is indented, if it says so. -/
def blockHeader (cursor : Cursor) : Option (Chomping × Option Nat × Cursor) :=
  let (chomping, digit, cursor) : Option Chomping × Option Nat × Cursor :=
    match chompingSign? cursor, indentDigit? cursor with
    | some chomping, _ =>
      match indentDigit? cursor.skip with
      | some digit => (some chomping, some digit, cursor.skipMany 2)
      | none => (some chomping, none, cursor.skip)
    | none, some digit =>
      match chompingSign? cursor.skip with
      | some chomping => (some chomping, some digit, cursor.skipMany 2)
      | none => (none, some digit, cursor.skip)
    | none, none => (none, none, cursor)
  let cursor := cursor.skipWhile isBlank
  let cursor := if cursor.sees '#' then cursor.skipWhile (!isBreak ·) else cursor
  if digit == some 0 || !cursor.atLineEnd then none
  else
    some (chomping.getD .clip, digit, if cursor.seesBreak then cursor.skipLine else cursor)

/-- Pass the blank lines of a block scalar and the indentation of the line behind them. If the
indentation is not known yet, the deepest of these lines is measured. -/
def blockBreaks (indent : Option Nat) (breaks : List Char) (deepest : Nat) (cursor : Cursor) :
    Nat → Option (List Char × Nat × Cursor)
  | 0 => some (breaks, deepest, cursor)
  | fuel + 1 =>
    let spaces := (cursor.rest.takeWhile (· == ' ')).length
    let wanted :=
      match indent with
      | none => spaces
      | some indent => min spaces (indent - cursor.column)
    let cursor := cursor.skipMany wanted
    let deepest := max deepest cursor.column
    if indent.all (cursor.column < ·) && cursor.sees '\t' then none
    else if !cursor.seesBreak then some (breaks, deepest, cursor)
    else blockBreaks indent (breaks ++ cursor.lineBreak) deepest cursor.skipLine fuel

/-- Read the lines of a block scalar. `fold.blanks` holds whether the line before began with one. -/
def blockLines (folded : Bool) (indent : Nat) (fold : Folding) (cursor : Cursor) :
    Nat → Option (Folding × Cursor)
  | 0 => some (fold, cursor)
  | fuel + 1 =>
    if cursor.column != indent || cursor.atEnd then some (fold, cursor)
    else
      let startsBlank := cursor.seesBlank
      let joined :=
        if folded && fold.firstBreak == ['\n'] && fold.blanks.isEmpty && !startsBlank then
          if fold.moreBreaks.isEmpty then fold.text ++ [' '] else fold.text
        else fold.text ++ fold.firstBreak
      let line := cursor.rest.takeWhile (!isBreak ·)
      let text := joined ++ fold.moreBreaks ++ line
      let cursor := cursor.skipMany line.length
      let firstBreak := cursor.lineBreak
      let cursor := if cursor.seesBreak then cursor.skipLine else cursor
      match blockBreaks (some indent) [] 0 cursor (cursor.rest.length + 1) with
      | none => none
      | some (moreBreaks, _, cursor) =>
        blockLines folded indent
          { text, firstBreak, moreBreaks, blanks := if startsBlank then [' '] else [] } cursor fuel

/-- Read a block scalar. `parent` is the indentation of what the scalar stands in. -/
def blockScalar (folded : Bool) (parent : Int) (cursor : Cursor) :
    Option (List Char × Cursor) :=
  match blockHeader cursor.skip with
  | none => none
  | some (chomping, increment, cursor) =>
    let given : Option Nat := increment.map fun n => if 0 ≤ parent then parent.toNat + n else n
    match blockBreaks given [] 0 cursor (cursor.rest.length + 1) with
    | none => none
    | some (breaks, deepest, cursor) =>
      let indent := given.getD (max deepest (max (parent + 1).toNat 1))
      match blockLines folded indent { moreBreaks := breaks } cursor
        (cursor.rest.length + 1) with
      | none => none
      | some (fold, cursor) =>
        let text :=
          match chomping with
          | .strip => fold.text
          | .clip => fold.text ++ fold.firstBreak
          | .keep => fold.text ++ fold.firstBreak ++ fold.moreBreaks
        some (text, cursor)

end LuaBundle.Yaml
