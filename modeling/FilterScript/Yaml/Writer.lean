import FilterScript.Yaml.Scalar

/-!
# Writing texts

A text is written so that reading gives it back: without quotes where it then means itself, else in
single quotes, else with escapes in double quotes. Lines are broken at single blanks once they are
longer than 80 characters, and go on at an indentation.
-/

namespace FilterScript.Yaml

/-! ## What a text looks like -/

/-- Whether a character ends a line in a written text. -/
def isWrittenBreak (c : Char) : Bool :=
  c == '\n' || c == '\u0085' || c == '\u2028' || c == '\u2029'

/-- Whether a character can stand in a text without escapes. -/
def isWritable (c : Char) : Bool :=
  c == '\n' || (' ' ≤ c && c ≤ '~')

/-- Whether the character behind the first one is a blank or missing. -/
def blankFollows (cs : List Char) : Bool :=
  isSpaceOrEnd (cs.head?.getD endMark)

/-- Whether a text without quotes would begin like something else. -/
def beginsLikeMarkup (cs : List Char) : Bool :=
  match cs with
  | [] => false
  | c :: rest =>
    ['-', '-', '-'].isPrefixOf cs || ['.', '.', '.'].isPrefixOf cs ||
      "#,[]\x7b\x7d&*!|>'\"%@\x60".toList.contains c ||
      ((c == '?' || c == ':' || c == '-') && blankFollows rest)

/-- Whether a text without quotes holds a colon or a comment sign that would be read as one.
`previous` is the character before. -/
def holdsMarkup (previous : Char) : List Char → Bool
  | [] => false
  | c :: rest =>
    (c == ':' && blankFollows rest) || (c == '#' && isSpaceOrEnd previous) || holdsMarkup c rest

/-- Whether a character stands right before another of two kinds. -/
def holdsPair (first second : Char → Bool) : List Char → Bool
  | a :: b :: rest => (first a && second b) || holdsPair first second (b :: rest)
  | _ => false

/-- Whether a text begins or ends with a blank or the end of a line. -/
def hasOuterSpace (cs : List Char) : Bool :=
  let isSpace (c : Char) : Bool := c == ' ' || isWrittenBreak c
  cs.head?.any isSpace || cs.getLast?.any isSpace

/-- Whether a text can stand in single quotes. -/
def allowsSingleQuotes (cs : List Char) : Bool :=
  cs.all isWritable && !holdsPair isWrittenBreak (· == ' ') cs &&
    !holdsPair (· == ' ') isWrittenBreak cs

/-- Whether a text can stand without quotes. -/
def allowsPlain (cs : List Char) : Bool :=
  Scalar.tagOf (String.ofList cs) == .text && allowsSingleQuotes cs && !hasOuterSpace cs &&
    !cs.any isWrittenBreak && !beginsLikeMarkup cs && !holdsMarkup 'x' cs

/-! ## Breaking lines -/

/-- The length from which lines are broken. -/
def bestWidth : Nat := 80

/-- A new line at an indentation. -/
def newLine (indent : Nat) : List Char :=
  '\n' :: List.replicate indent ' '

/-- The kind of a character where lines are broken: blank, end of line, or text. -/
def breakKind (c : Char) : Nat :=
  if c == ' ' then 1 else if c == '\n' then 2 else 0

/-- A text cut into rows of blanks, of line ends, and of other characters. -/
def rows (cs : List Char) : List (List Char) :=
  cs.splitBy fun a b => breakKind a == breakKind b

/-- Writes rows from a column on. A line end is written twice, as one alone means a blank. A single
blank in a line that is long enough becomes the end of the line, but not at either end of the text
where `inner` asks for that. -/
def writeRows (indent : Nat) (inner first : Bool) : Nat → List (List Char) → List Char
  | _, [] => []
  | column, row :: rest =>
    if row.head? == some '\n' then
      '\n' :: row ++ List.replicate indent ' ' ++ writeRows indent inner false indent rest
    else if row == [' '] && bestWidth < column && !(inner && (first || rest.isEmpty)) then
      newLine indent ++ writeRows indent inner false indent rest
    else row ++ writeRows indent inner false (column + row.length) rest

/-! ## Quotes -/

/-- A text with its single quotes doubled. -/
def doubleQuotes (cs : List Char) : List Char :=
  cs.flatMap fun c => if c = '\'' then ['\'', '\''] else [c]

/-- The letters that stand for characters behind a backslash. -/
def escapeLetters : List (Char × Char) := [
  ('\x00', '0'), ('\x07', 'a'), ('\x08', 'b'), ('\t', 't'), ('\n', 'n'), ('\x0B', 'v'),
  ('\x0C', 'f'), ('\r', 'r'), ('\x1B', 'e'), ('"', '"'), ('\\', '\\'), ('\u0085', 'N'),
  ('\u00A0', '_'), ('\u2028', 'L'), ('\u2029', 'P')]

/-- Whether a character is written as itself in double quotes. -/
def isLiteral (c : Char) : Bool :=
  ' ' ≤ c && c ≤ '~' && c != '"' && c != '\\'

/-- How a character that is not written as itself is spelled. -/
def escapeOf (c : Char) : List Char :=
  match escapeLetters.lookup c with
  | some letter => ['\\', letter]
  | none =>
    let n := c.toNat
    if n < 0x100 then '\\' :: 'x' :: Numeral.hexadecimalCapital 2 n
    else if n < 0x10000 then '\\' :: 'u' :: Numeral.hexadecimalCapital 4 n
    else '\\' :: 'U' :: Numeral.hexadecimalCapital 8 n

/-- Writes the inside of double quotes. `waiting` are the literal characters, last one first, that
are not written yet, `column` is the column without them, and `first` says whether nothing came
before. A long line is broken before a blank or an escape, with a backslash at its end. -/
def writeEscaped (indent : Nat) : (first : Bool) → (column : Nat) → (waiting : List Char) →
    List Char → List Char
  | _, _, waiting, [] => waiting.reverse
  | first, column, waiting, c :: rest =>
    let literal := isLiteral c
    let written := if literal then [] else waiting.reverse ++ escapeOf c
    let column := column + written.length
    let waiting := if literal then waiting else []
    let mayBreak := !first && !rest.isEmpty && (c == ' ' || !literal || waiting.isEmpty)
    let reached := if literal then column + waiting.length else column - 1
    if mayBreak && bestWidth < reached then
      let following := if literal then some c else rest.head?
      let slash := if following == some ' ' then ['\\'] else []
      written ++ waiting.reverse ++ '\\' :: newLine indent ++ slash ++
        writeEscaped indent false (indent + slash.length) (if literal then [c] else []) rest
    else
      written ++
        writeEscaped indent false column (if literal then c :: waiting else waiting) rest

/-! ## Texts -/

/-- Writes a text from a column on; further lines begin at an indentation. -/
def writeText (indent column : Nat) (s : String) : List Char :=
  let cs := s.toList
  if allowsPlain cs then writeRows indent false true column (rows cs)
  else if allowsSingleQuotes cs then
    '\'' :: writeRows indent true true (column + 1) (rows (doubleQuotes cs)) ++ ['\'']
  else '"' :: writeEscaped indent true (column + 1) [] cs ++ ['"']

end FilterScript.Yaml
