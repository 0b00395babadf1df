import FilterScript.Error

/-!
# Places in a document

A cursor is the rest of a document with the place where the rest begins: its index, line and column.
The end of a document is read as the null character, which documents cannot hold.
-/

namespace FilterScript.Yaml

/-! ## Characters -/

/-- The character that stands for the end of a document. -/
def endMark : Char := '\x00'

/-- Whether a character ends a line. -/
def isBreak (c : Char) : Bool :=
  c == '\r' || c == '\n' || c == '\u0085' || c == '\u2028' || c == '\u2029'

/-- Whether a character ends a line or the document. -/
def isLineEnd (c : Char) : Bool :=
  c == endMark || isBreak c

/-- Whether a character ends a line or the document, or is a blank. -/
def isBlankOrEnd (c : Char) : Bool :=
  c == ' ' || isLineEnd c

/-- Whether a character ends a line or the document, or is a blank or a tab. -/
def isSpaceOrEnd (c : Char) : Bool :=
  c == '\t' || isBlankOrEnd c

/-- Whether a character may stand in the names of anchors and tags. -/
def isWord (c : Char) : Bool :=
  c.isAlphanum || c == '-' || c == '_'

/-- Whether a document may hold a character. -/
def isAllowed (c : Char) : Bool :=
  let n := c.toNat
  n == 0x09 || n == 0x0A || n == 0x0D || (0x20 ≤ n && n ≤ 0x7E) || n == 0x85 ||
    (0xA0 ≤ n && n ≤ 0xD7FF) || (0xE000 ≤ n && n ≤ 0xFFFD) || 0x10000 ≤ n

/-! ## Cursors -/

/-- A place in a document. -/
structure Cursor where
  /-- What comes from here on. -/
  rest : List Char
  /-- The number of characters before. -/
  index : Nat := 0
  /-- The number of lines before. -/
  line : Nat := 0
  /-- The number of characters before on this line. -/
  column : Nat := 0

namespace Cursor

/-- The character so many places on. -/
def peek (c : Cursor) (count : Nat := 0) : Char :=
  (c.rest.drop count).head?.getD endMark

/-- The place one character on. A carriage return before a line feed does not yet end the line. -/
def next (c : Cursor) : Cursor :=
  match c.rest with
  | [] => c
  | x :: rest =>
    let ends := isBreak x && !(x == '\r' && rest.head? == some '\n')
    if ends then ⟨rest, c.index + 1, c.line + 1, 0⟩
    else if x == '\uFEFF' then ⟨rest, c.index + 1, c.line, c.column⟩
    else ⟨rest, c.index + 1, c.line, c.column + 1⟩

/-- The place so many characters on. -/
def advance (c : Cursor) : Nat → Cursor
  | 0 => c
  | count + 1 => c.next.advance count

/-- The characters from here on that are of one class. -/
def takeWhile (c : Cursor) (p : Char → Bool) : List Char :=
  c.rest.takeWhile p

/-- The place behind the characters of one class. -/
def skipWhile (c : Cursor) (p : Char → Bool) : Cursor :=
  c.advance (c.takeWhile p).length

/-- The place behind the blanks. -/
def skipBlanks (c : Cursor) : Cursor :=
  c.skipWhile (· == ' ')

/-- The place behind the blanks, but not beyond a column. -/
def skipBlanksTo (c : Cursor) (column : Nat) : Cursor :=
  c.advance (min (column - c.column) (c.takeWhile (· == ' ')).length)

/-- The end of the line. -/
def skipLine (c : Cursor) : Cursor :=
  c.skipWhile fun x => !isBreak x

/-- The text that an end of line stands for, and the place behind it. The usual ends are line feeds;
the separators of lines and paragraphs stay. -/
def readBreak (c : Cursor) : List Char × Cursor :=
  match c.rest with
  | '\r' :: '\n' :: _ => (['\n'], c.advance 2)
  | x :: _ =>
    if x == '\u2028' || x == '\u2029' then ([x], c.next)
    else if isBreak x then (['\n'], c.next)
    else ([], c)
  | [] => ([], c)

/-- Whether the line begins here with three marks of one kind that stand alone. -/
def atMarks (c : Cursor) (mark : Char) : Bool :=
  c.peek == mark && c.peek 1 == mark && c.peek 2 == mark && isSpaceOrEnd (c.peek 3)

/-- Whether a document begins or ends here, if here a line begins. -/
def atSeparator (c : Cursor) : Bool :=
  c.atMarks '-' || c.atMarks '.'

end Cursor

/-- Fails unless a condition holds. -/
def demand (holds : Bool) : Except Fault Unit :=
  if holds then .ok () else .error .malformed

end FilterScript.Yaml
