import FilterScript.Yaml.Cursor

/-!
# The parts of a document

How the single parts of a document are read: names, tags, directives, and scalars of five forms.
Each function starts at the first character of the part and ends behind the last one.
-/

namespace FilterScript.Yaml

/-- A part of a document. -/
inductive Token where
  /-- Three dashes. -/
  | documentStart
  /-- Three dots. -/
  | documentEnd
  /-- The end of the text. -/
  | streamEnd
  /-- A deeper column at which a list begins. -/
  | blockSequenceStart
  /-- A deeper column at which a mapping begins. -/
  | blockMappingStart
  /-- The end of what a deeper column began. -/
  | blockEnd
  /-- An opening bracket. -/
  | flowSequenceStart
  /-- A closing bracket. -/
  | flowSequenceEnd
  /-- An opening brace. -/
  | flowMappingStart
  /-- A closing brace. -/
  | flowMappingEnd
  /-- A dash before an item. -/
  | blockEntry
  /-- A comma. -/
  | flowEntry
  /-- The place of a key. -/
  | key
  /-- A colon before a value. -/
  | value
  /-- The name of an earlier node. -/
  | alias (name : String)
  /-- A name for the node that follows. -/
  | anchor (name : String)
  /-- A tag: a handle, if there is one, and what follows it. -/
  | tag (handle : Option String) (suffix : String)
  /-- A scalar, and whether it stands without quotes. -/
  | scalar (text : String) (plain : Bool)
  /-- The directive for the version. -/
  | version (major : Nat)
  /-- The directive for a handle of tags. -/
  | tagHandle (handle expansion : String)
  /-- A directive of another name. -/
  | otherDirective
deriving DecidableEq, Repr

/-! ## Names -/

/-- Reads the name behind the sign of an anchor or an alias. -/
def readName (c : Cursor) : Except Fault (String × Cursor) := do
  let c := c.next
  let name := c.takeWhile isWord
  let c := c.advance name.length
  demand (!name.isEmpty)
  demand (isSpaceOrEnd c.peek || "?:,]\x7d%@\x60".toList.contains c.peek)
  pure (String.ofList name, c)

/-! ## Tags -/

/-- Whether a character may stand in the suffix of a tag as itself. -/
def isTagCharacter (c : Char) : Bool :=
  isWord c || ";/?:@&=+$,.!~*'()[]".toList.contains c

/-- Reads bytes that are spelled by percent signs. -/
def readSpelledBytes : Nat → Cursor → Except Fault (List UInt8 × Cursor)
  | 0, c => pure ([], c)
  | fuel + 1, c => do
    if c.peek == '%' then
      match Numeral.digitIn? 16 (c.peek 1), Numeral.digitIn? 16 (c.peek 2) with
      | some high, some low =>
        let (bytes, c) ← readSpelledBytes fuel (c.advance 3)
        pure (UInt8.ofNat (high * 16 + low) :: bytes, c)
      | _, _ => throw .malformed
    else pure ([], c)

/-- Reads the suffix of a tag, which may be empty here. -/
def readTagText : Nat → Cursor → Except Fault (List Char × Cursor)
  | 0, c => pure ([], c)
  | fuel + 1, c => do
    if c.peek == '%' then
      let (bytes, c) ← readSpelledBytes fuel c
      match String.fromUTF8? ⟨bytes.toArray⟩ with
      | some text =>
        let (more, c) ← readTagText fuel c
        pure (text.toList ++ more, c)
      | none => throw .malformed
    else
      let front := c.takeWhile isTagCharacter
      if front.isEmpty then pure ([], c)
      else
        let (more, c) ← readTagText fuel (c.advance front.length)
        pure (front ++ more, c)

/-- Reads the suffix of a tag. -/
def readTagSuffix (c : Cursor) : Except Fault (String × Cursor) := do
  let (text, c) ← readTagText (c.rest.length + 1) c
  demand (!text.isEmpty)
  pure (String.ofList text, c)

/-- Reads the handle of a tag: an exclamation mark, or a word between two of them. -/
def readTagHandle (c : Cursor) : Except Fault (String × Cursor) := do
  demand (c.peek == '!')
  if c.peek 1 == ' ' then pure ("!", c.next)
  else
    let word := c.next.takeWhile isWord
    let behind := c.advance (word.length + 1)
    demand (behind.peek == '!')
    pure (String.ofList ('!' :: word ++ ['!']), behind.next)

/-- Reads a tag. -/
def readTag (c : Cursor) : Except Fault (Token × Cursor) := do
  let (tag, c) ←
    if c.peek 1 == '<' then do
      let (suffix, c) ← readTagSuffix (c.advance 2)
      demand (c.peek == '>')
      pure (Token.tag none suffix, c.next)
    else if isSpaceOrEnd (c.peek 1) then pure (Token.tag none "!", c.next)
    else do
      let word := c.next.takeWhile fun x => !isBlankOrEnd x
      let (handle, c) ← if word.contains '!' then readTagHandle c else pure ("!", c.next)
      let (suffix, c) ← readTagSuffix c
      pure (Token.tag (some handle) suffix, c)
  demand (isBlankOrEnd c.peek)
  pure (tag, c)

/-! ## Directives -/

/-- Reads a row of decimal digits. About one that no number is read from nothing is said. -/
def readNumber (c : Cursor) : Except Fault (Nat × Cursor) := do
  let row := c.takeWhile Char.isDigit
  if Numeral.mostDigits < row.length then throw .outside
  match Numeral.read? 10 row with
  | some n => pure (n, c.advance row.length)
  | none => throw .malformed

/-- The end of a line that holds nothing more but a comment. -/
def skipRestOfLine (c : Cursor) : Except Fault Cursor := do
  let c := c.skipBlanks
  let c := if c.peek == '#' then c.skipLine else c
  demand (isLineEnd c.peek)
  pure c.readBreak.2

/-- Reads a directive. -/
def readDirective (c : Cursor) : Except Fault (Token × Cursor) := do
  let c := c.next
  let name := c.takeWhile isWord
  let c := c.advance name.length
  demand (!name.isEmpty && isBlankOrEnd c.peek)
  let (token, c) ← match String.ofList name with
    | "YAML" => do
      let (major, c) ← readNumber c.skipBlanks
      demand (c.peek == '.')
      let (_, c) ← readNumber c.next
      demand (isBlankOrEnd c.peek)
      pure (Token.version major, c)
    | "TAG" => do
      let (handle, c) ← readTagHandle c.skipBlanks
      demand (c.peek == ' ')
      let (expansion, c) ← readTagSuffix c.skipBlanks
      demand (isBlankOrEnd c.peek)
      pure (Token.tagHandle handle expansion, c)
    | _ => pure (Token.otherDirective, c.skipLine)
  let c ← skipRestOfLine c
  pure (token, c)

/-! ## Block scalars -/

/-- What becomes of the line ends at the end of a block scalar. -/
inductive Chomping where
  /-- One is kept. -/
  | clip
  /-- None is kept. -/
  | strip
  /-- All are kept. -/
  | keep
deriving DecidableEq

/-- The chomping that a sign asks for. -/
def chompingOf (c : Char) : Option Chomping :=
  if c == '+' then some .keep else if c == '-' then some .strip else none

/-- Reads the indicators behind the sign of a block scalar: a chomping and a number of columns, in
either order. -/
def readIndicators (c : Cursor) : Except Fault ((Chomping × Option Nat) × Cursor) := do
  let (first, c) := match chompingOf c.peek with
    | some chomping => (some chomping, c.next)
    | none => (none, c)
  let (columns, c) := match Numeral.digitIn? 10 c.peek with
    | some n => (some n, c.next)
    | none => (none, c)
  let (second, c) := match first, columns, chompingOf c.peek with
    | none, some _, some chomping => (some chomping, c.next)
    | _, _, _ => (none, c)
  demand (columns != some 0 && isBlankOrEnd c.peek)
  pure (((first.or second).getD .clip, columns), c)

/-- Reads the empty lines before the first line of a block scalar, with the widest indentation among
them. -/
def readLeadingLines : Nat → Cursor → Nat → List Char × Nat × Cursor
  | 0, c, widest => ([], widest, c)
  | fuel + 1, c, widest =>
    if c.peek == ' ' then readLeadingLines fuel c.next (max widest c.next.column)
    else if isBreak c.peek then
      let (lineEnd, c) := c.readBreak
      let (more, widest, c) := readLeadingLines fuel c widest
      (lineEnd ++ more, widest, c)
    else ([], widest, c)

/-- Reads empty lines, and the blanks up to a column behind them. -/
def readEmptyLines (column : Nat) : Nat → Cursor → List Char × Cursor
  | 0, c => ([], c.skipBlanksTo column)
  | fuel + 1, c =>
    let c := c.skipBlanksTo column
    if isBreak c.peek then
      let (lineEnd, c) := c.readBreak
      let (more, c) := readEmptyLines column fuel c
      (lineEnd ++ more, c)
    else ([], c)

/-- Reads the lines of a block scalar from a line on, with the empty lines before it. The last line
end and the empty lines at the end are given apart. -/
def readBlockLines (folded : Bool) (column : Nat) : Nat → Cursor → List Char →
    List Char × List Char × List Char × Cursor
  | 0, c, empty => ([], [], empty, c)
  | fuel + 1, c, empty =>
    let leadingText := !(c.peek == ' ' || c.peek == '\t')
    let text := c.takeWhile fun x => !isBreak x
    let (lineEnd, c) := (c.advance text.length).readBreak
    let (following, c) := readEmptyLines column c.rest.length c
    if c.column == column && c.peek != endMark then
      let joins := folded && lineEnd == ['\n'] && leadingText &&
        !(c.peek == ' ' || c.peek == '\t')
      let between := if joins then (if following.isEmpty then [' '] else []) else lineEnd
      let (more, last, trailing, c) := readBlockLines folded column fuel c following
      (empty ++ text ++ between ++ more, last, trailing, c)
    else (empty ++ text, lineEnd, following, c)

/-- Reads a block scalar inside a collection that begins at `indent`, or outside any at -1. -/
def readBlockScalar (folded : Bool) (indent : Int) (c : Cursor) :
    Except Fault (Token × Cursor) := do
  let ((chomping, columns), c) ← readIndicators c.next
  let c ← skipRestOfLine c
  let least := max 1 (indent + 1).toNat
  let (empty, column, c) := match columns with
    | some n =>
      let column := least + n - 1
      let (empty, c) := readEmptyLines column c.rest.length c
      (empty, column, c)
    | none =>
      let (empty, widest, c) := readLeadingLines c.rest.length c 0
      (empty, max least widest, c)
  let (text, last, trailing, c) :=
    if c.column == column && c.peek != endMark then
      readBlockLines folded column c.rest.length c empty
    else ([], [], empty, c)
  let ending := match chomping with
    | .strip => []
    | .clip => last
    | .keep => last ++ trailing
  pure (.scalar (String.ofList (text ++ ending)) false, c)

/-! ## Quoted scalars -/

/-- The characters that a backslash and a letter stand for. -/
def escapes : List (Char × Char) := [
  ('0', '\x00'), ('a', '\x07'), ('b', '\x08'), ('t', '\x09'), ('\t', '\x09'), ('n', '\x0A'),
  ('v', '\x0B'), ('f', '\x0C'), ('r', '\x0D'), ('e', '\x1B'), (' ', ' '), ('"', '"'), ('\\', '\\'),
  ('/', '/'), ('N', '\u0085'), ('_', '\u00A0'), ('L', '\u2028'), ('P', '\u2029')]

/-- The number of digits behind a backslash and a letter. -/
def escapeDigits (c : Char) : Option Nat :=
  if c == 'x' then some 2 else if c == 'u' then some 4 else if c == 'U' then some 8 else none

/-- Reads empty lines inside quotes, up to the text of the next line that has one. -/
def readQuotedBreaks : Nat → Cursor → Except Fault (List Char × Cursor)
  | 0, c => pure ([], c)
  | fuel + 1, c => do
    demand (!c.atSeparator)
    let c := c.skipWhile fun x => x == ' ' || x == '\t'
    if isBreak c.peek then
      let (lineEnd, c) := c.readBreak
      let (more, c) ← readQuotedBreaks fuel c
      pure (lineEnd ++ more, c)
    else pure ([], c)

/-- Reads what a backslash in double quotes stands for. A number must be that of a character:
nothing is said about halves of surrogate pairs and what lies beyond them all. -/
def readEscape (c : Cursor) : Except Fault (List Char × Cursor) := do
  match escapes.lookup c.peek, escapeDigits c.peek with
  | some x, _ => pure ([x], c.next)
  | none, some count =>
    let row := c.next.rest.take count
    match Numeral.read? 16 row with
    | some n =>
      demand (row.length == count)
      if n.isValidChar then pure ([Char.ofNat n], c.advance (count + 1)) else throw .outside
    | none => throw .malformed
  | none, none =>
    demand (isBreak c.peek)
    let (_, c) := c.readBreak
    readQuotedBreaks c.rest.length c

/-- Reads the rest of a scalar in quotes. A line end is a blank, and more of them are one less. -/
def readQuoted (double : Bool) : Nat → Cursor → Except Fault (List Char × Cursor)
  | 0, _ => throw .malformed
  | fuel + 1, c => do
    let x := c.peek
    let quote := if double then '"' else '\''
    if x == endMark then throw .malformed
    else if x == ' ' || x == '\t' || isBreak x then
      let spaces := c.takeWhile fun x => x == ' ' || x == '\t'
      let c := c.advance spaces.length
      if isBreak c.peek then
        let (lineEnd, c) := c.readBreak
        let (breaks, c) ← readQuotedBreaks c.rest.length c
        let between := if lineEnd != ['\n'] then lineEnd else if breaks.isEmpty then [' '] else []
        let (more, c) ← readQuoted double fuel c
        pure (between ++ breaks ++ more, c)
      else
        let (more, c) ← readQuoted double fuel c
        pure (spaces ++ more, c)
    else if !double && x == '\'' && c.peek 1 == '\'' then
      let (more, c) ← readQuoted double fuel (c.advance 2)
      pure ('\'' :: more, c)
    else if x == quote then pure ([], c.next)
    else if double && x == '\\' then
      let (piece, c) ← readEscape c.next
      let (more, c) ← readQuoted double fuel c
      pure (piece ++ more, c)
    else
      let (more, c) ← readQuoted double fuel c.next
      pure (x :: more, c)

/-- Reads a scalar in quotes. -/
def readQuotedScalar (double : Bool) (c : Cursor) : Except Fault (Token × Cursor) := do
  let (text, c) ← readQuoted double (c.rest.length + 1) c.next
  pure (.scalar (String.ofList text) false, c)

/-! ## Plain scalars -/

/-- Whether a plain scalar ends before a character, given the one behind it. -/
def endsPlain (inFlow : Bool) (x following : Char) : Bool :=
  isSpaceOrEnd x ||
    (x == ':' && (isSpaceOrEnd following || (inFlow && ",[]\x7b\x7d".toList.contains following))) ||
    (inFlow && ",?[]\x7b\x7d".toList.contains x)

/-- The characters of a plain scalar up to the next blank or to its end. -/
def plainPiece (inFlow : Bool) : List Char → List Char
  | [] => []
  | x :: rest =>
    if endsPlain inFlow x (rest.head?.getD endMark) then [] else x :: plainPiece inFlow rest

/-- Reads empty lines and blanks behind a line of a plain scalar. Nothing is given if the document
ends there. -/
def readPlainBreaks : Nat → Cursor → Option (List Char) × Cursor
  | 0, c => (some [], c)
  | fuel + 1, c =>
    if c.peek == ' ' then readPlainBreaks fuel c.next
    else if isBreak c.peek then
      let (lineEnd, c) := c.readBreak
      if c.atSeparator then (none, c)
      else
        let (more, c) := readPlainBreaks fuel c
        (more.map (lineEnd ++ ·), c)
    else (some [], c)

/-- Reads the blanks and line ends behind a piece of a plain scalar: the text between it and the
next piece, empty if there can be none, and whether a line ended. -/
def readPlainSpaces (c : Cursor) : List Char × Bool × Cursor :=
  let spaces := c.takeWhile (· == ' ')
  let c := c.advance spaces.length
  if isBreak c.peek then
    let (lineEnd, c) := c.readBreak
    if c.atSeparator then ([], true, c)
    else
      match readPlainBreaks c.rest.length c with
      | (none, c) => ([], true, c)
      | (some breaks, c) =>
        let between := if lineEnd != ['\n'] then lineEnd else if breaks.isEmpty then [' '] else []
        (between ++ breaks, true, c)
  else (spaces, false, c)

/-- Reads a plain scalar piece by piece, with the text before the next piece; also gives whether a
line ended behind the last piece. -/
def readPlain (inFlow : Bool) (column : Nat) : Nat → Cursor → List Char → Bool →
    List Char × Bool × Cursor
  | 0, c, _, ended => ([], ended, c)
  | fuel + 1, c, between, ended =>
    if c.peek == '#' then ([], ended, c)
    else
      let piece := plainPiece inFlow c.rest
      if piece.isEmpty then ([], ended, c)
      else
        let (spaces, ended, c) := readPlainSpaces (c.advance piece.length)
        if spaces.isEmpty || c.peek == '#' || (!inFlow && c.column < column) then
          (between ++ piece, ended, c)
        else
          let (more, ended, c) := readPlain inFlow column fuel c spaces ended
          (between ++ piece ++ more, ended, c)

/-- Reads a plain scalar inside a collection that begins at `indent`; also gives whether a line
ended behind it. -/
def readPlainScalar (inFlow : Bool) (indent : Int) (c : Cursor) : Token × Bool × Cursor :=
  let (text, ended, c) := readPlain inFlow (indent + 1).toNat c.rest.length c [] false
  (.scalar (String.ofList text) true, ended, c)

end FilterScript.Yaml
