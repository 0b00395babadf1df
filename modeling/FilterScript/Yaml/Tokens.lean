import FilterScript.Yaml.Lexeme

/-!
# From text to tokens

A document is cut into tokens from the front. Two things make this more than cutting: columns open
and close blocks, and a key is only known to be one when the colon behind it is reached. So every
part that may be a key is remembered with its place among the tokens, one at each depth of brackets,
as long as it stays on one line; the colon then puts the token of a key before it.
-/

namespace FilterScript.Yaml

/-- A part that may turn out to be a key. -/
structure PossibleKey where
  /-- The depth of brackets it stands at. -/
  depth : Nat
  /-- The number of tokens before it. -/
  place : Nat
  /-- Whether it must be a key, as nothing else can stand in its column. -/
  required : Bool
  /-- Where it begins. -/
  index : Nat
  /-- The line it begins on. -/
  line : Nat
  /-- The column it begins in. -/
  column : Nat

/-- How far a document is cut. -/
structure Lexer where
  /-- The rest of the document. -/
  cursor : Cursor
  /-- The tokens so far. -/
  tokens : Array Token := #[]
  /-- The column of the innermost block, or -1. -/
  indent : Int := -1
  /-- The columns of the blocks around it. -/
  outer : List Int := []
  /-- The number of open brackets. -/
  depth : Nat := 0
  /-- Whether a key may begin here. -/
  keyAllowed : Bool := true
  /-- The parts that may be keys. -/
  keys : List PossibleKey := []

namespace Lexer

/-- The lexer with one more token. -/
def push (s : Lexer) (t : Token) : Lexer :=
  { s with tokens := s.tokens.push t }

/-- The lexer at another place. -/
def moveTo (s : Lexer) (c : Cursor) : Lexer :=
  { s with cursor := c }

/-! ## Blocks -/

/-- Closes the blocks that are deeper than a column. Inside brackets columns do not count. -/
def closeBlocks (column : Int) : List Int → Lexer → Lexer
  | [], s => s
  | outer :: rest, s =>
    if s.depth = 0 ∧ column < s.indent then
      closeBlocks column rest { s.push .blockEnd with indent := outer, outer := rest }
    else s

/-- Closes the blocks that are deeper than a column. -/
def unwind (s : Lexer) (column : Int) : Lexer :=
  closeBlocks column s.outer s

/-- Whether a column is deeper than the innermost block. -/
def isDeeper (s : Lexer) (column : Nat) : Bool :=
  s.indent < column

/-- Opens a block at a column. -/
def openBlock (s : Lexer) (column : Nat) : Lexer :=
  { s with indent := column, outer := s.indent :: s.outer }

/-! ## Keys -/

/-- Forgets the part at this depth that may be a key. One that must be a key is an error. -/
def dropKey (s : Lexer) : Except Fault Lexer :=
  if s.keys.any fun k => k.depth == s.depth && k.required then .error .malformed
  else .ok { s with keys := s.keys.filter fun k => k.depth != s.depth }

/-- Whether a part can no longer be a key: it has to stay on its line and within 1024 characters. -/
def isStale (s : Lexer) (k : PossibleKey) : Bool :=
  k.line != s.cursor.line || 1024 < s.cursor.index - k.index

/-- Forgets the parts that can no longer be keys. -/
def dropStaleKeys (s : Lexer) : Except Fault Lexer :=
  if s.keys.any fun k => s.isStale k && k.required then .error .malformed
  else .ok { s with keys := s.keys.filter fun k => !s.isStale k }

/-- Remembers that the next token may be a key. -/
def saveKey (s : Lexer) : Except Fault Lexer := do
  if s.keyAllowed then
    let required := s.depth == 0 && s.indent == s.cursor.column
    let s ← s.dropKey
    let k : PossibleKey :=
      ⟨s.depth, s.tokens.size, required, s.cursor.index, s.cursor.line, s.cursor.column⟩
    pure { s with keys := k :: s.keys }
  else pure s

/-! ## Tokens -/

/-- The place of the next token. -/
def skipToToken : Nat → Lexer → Lexer
  | 0, s => s
  | fuel + 1, s =>
    let c := s.cursor.skipBlanks
    let c := if c.peek == '#' then c.skipLine else c
    if isBreak c.peek then
      skipToToken fuel
        { s.moveTo c.readBreak.2 with keyAllowed := s.keyAllowed || s.depth == 0 }
    else s.moveTo c

/-- A token that begins a collection in brackets. -/
def openBracket (s : Lexer) (t : Token) : Except Fault Lexer := do
  let s ← s.saveKey
  pure { (s.push t).moveTo s.cursor.next with depth := s.depth + 1, keyAllowed := true }

/-- A token that ends a collection in brackets. -/
def closeBracket (s : Lexer) (t : Token) : Except Fault Lexer := do
  let s ← s.dropKey
  demand (0 < s.depth)
  pure { (s.push t).moveTo s.cursor.next with depth := s.depth - 1, keyAllowed := false }

/-- A comma. -/
def comma (s : Lexer) : Except Fault Lexer := do
  let s ← s.dropKey
  pure { (s.push .flowEntry).moveTo s.cursor.next with keyAllowed := true }

/-- The start of a block at this column, if it is deeper than the innermost one. -/
def beginBlock (s : Lexer) (t : Token) : Lexer :=
  if s.isDeeper s.cursor.column then (s.openBlock s.cursor.column).push t else s

/-- A dash before an item. -/
def dash (s : Lexer) : Except Fault Lexer := do
  demand (s.depth != 0 || s.keyAllowed)
  let s := if s.depth == 0 then s.beginBlock .blockSequenceStart else s
  let s ← s.dropKey
  pure { (s.push .blockEntry).moveTo s.cursor.next with keyAllowed := true }

/-- A question mark before a key. -/
def question (s : Lexer) : Except Fault Lexer := do
  demand (s.depth != 0 || s.keyAllowed)
  let s := if s.depth == 0 then s.beginBlock .blockMappingStart else s
  let s ← s.dropKey
  pure { (s.push .key).moveTo s.cursor.next with keyAllowed := s.depth == 0 }

/-- The token of a key put before the part that has turned out to be one, and the start of a block
if the key begins one. -/
def markKey (s : Lexer) (k : PossibleKey) : Lexer :=
  let begins := s.depth == 0 && s.isDeeper k.column
  let marks := if begins then #[Token.blockMappingStart, .key] else #[.key]
  let s := if begins then s.openBlock k.column else s
  { s with
    tokens := s.tokens.extract 0 k.place ++ marks ++ s.tokens.extract k.place s.tokens.size
    keys := s.keys.filter fun other => other.depth != s.depth
    keyAllowed := false }

/-- A colon before a value. -/
def colon (s : Lexer) : Except Fault Lexer := do
  let s ← match s.keys.find? fun k => k.depth == s.depth with
    | some k => pure (s.markKey k)
    | none => do
      demand (s.depth != 0 || s.keyAllowed)
      let s := if s.depth == 0 then s.beginBlock .blockMappingStart else s
      let s ← s.dropKey
      pure { s with keyAllowed := s.depth == 0 }
  pure ((s.push .value).moveTo s.cursor.next)

/-- A mark at the start of a line that ends all blocks. -/
def leaveDocument (s : Lexer) : Except Fault Lexer := do
  let s ← (s.unwind (-1)).dropKey
  pure { s with keyAllowed := false }

/-- A part that may be a key. -/
def part (s : Lexer) (read : Cursor → Except Fault (Token × Cursor)) : Except Fault Lexer := do
  let s ← s.saveKey
  let (t, c) ← read s.cursor
  pure { (s.push t).moveTo c with keyAllowed := false }

/-- A plain scalar. Behind a line end a key may begin. -/
def plain (s : Lexer) : Except Fault Lexer := do
  let s ← s.saveKey
  let (t, ended, c) := readPlainScalar (s.depth != 0) s.indent s.cursor
  pure { (s.push t).moveTo c with keyAllowed := ended }

/-- A block scalar. -/
def block (s : Lexer) (folded : Bool) : Except Fault Lexer := do
  let s ← s.dropKey
  let (t, c) ← readBlockScalar folded s.indent s.cursor
  pure { (s.push t).moveTo c with keyAllowed := true }

/-- Reads a name as a token of one kind. -/
def readNamed (kind : String → Token) (c : Cursor) : Except Fault (Token × Cursor) := do
  let (name, c) ← readName c
  pure (kind name, c)

/-- Whether a plain scalar can begin here. -/
def beginsPlain (s : Lexer) : Bool :=
  let x := s.cursor.peek
  if isSpaceOrEnd x || "-?:,[]\x7b\x7d#&*!|>'\"%@\x60".toList.contains x then
    !isSpaceOrEnd (s.cursor.peek 1) && (x == '-' || (s.depth == 0 && (x == '?' || x == ':')))
  else true

/-- The next token that is no mark of a document. -/
def content (s : Lexer) : Except Fault Lexer :=
  let x := s.cursor.peek
  let alone := isSpaceOrEnd (s.cursor.peek 1)
  if x == '[' then s.openBracket .flowSequenceStart
  else if x == '\x7b' then s.openBracket .flowMappingStart
  else if x == ']' then s.closeBracket .flowSequenceEnd
  else if x == '\x7d' then s.closeBracket .flowMappingEnd
  else if x == ',' then s.comma
  else if x == '-' && alone then s.dash
  else if x == '?' && (s.depth != 0 || alone) then s.question
  else if x == ':' && (s.depth != 0 || alone) then s.colon
  else if x == '*' then s.part (readNamed .alias)
  else if x == '&' then s.part (readNamed .anchor)
  else if x == '!' then s.part readTag
  else if x == '|' && s.depth == 0 then s.block false
  else if x == '>' && s.depth == 0 then s.block true
  else if x == '\'' then s.part (readQuotedScalar false)
  else if x == '"' then s.part (readQuotedScalar true)
  else if s.beginsPlain then s.plain
  else .error .malformed

/-- One token more, or all tokens at the end of the text. -/
def step (s : Lexer) : Except Fault (Lexer ⊕ List Token) := do
  let s := skipToToken (s.cursor.rest.length + 1) s
  let s ← s.dropStaleKeys
  let s := s.unwind s.cursor.column
  let c := s.cursor
  if c.peek == endMark then
    let s ← s.leaveDocument
    pure (.inr (s.push .streamEnd).tokens.toList)
  else if c.peek == '%' && c.column == 0 then
    let s ← s.leaveDocument
    let (t, c) ← readDirective c
    pure (.inl ((s.push t).moveTo c))
  else if c.column == 0 && c.atMarks '-' then
    let s ← s.leaveDocument
    pure (.inl ((s.push .documentStart).moveTo (c.advance 3)))
  else if c.column == 0 && c.atMarks '.' then
    let s ← s.leaveDocument
    pure (.inl ((s.push .documentEnd).moveTo (c.advance 3)))
  else
    let s ← s.content
    pure (.inl s)

/-- The deepest nesting that is read. How much of it a reader can take is up to the machine. -/
def deepest : Nat := 100

/-- How deep brackets and blocks are nested. -/
def nesting (s : Lexer) : Nat :=
  s.depth + s.outer.length

/-- Takes tokens until the end of the text. -/
def run : Nat → Lexer → Except Fault (List Token)
  | 0, _ => .error .malformed
  | fuel + 1, s => do
    match ← s.step with
    | .inr tokens => pure tokens
    | .inl s => if deepest < s.nesting then throw .outside else run fuel s

end Lexer

/-- The tokens of a text. A mark of byte order at the start is skipped, and characters that a
document may not hold are noticed somewhere on the way. -/
def Token.ofText (cs : List Char) : Except Fault (List Token) :=
  let start : Cursor := ⟨cs, 0, 0, 0⟩
  let start := if start.peek == '\uFEFF' then start.next else start
  match Lexer.run (cs.length + 2) { cursor := start } with
  | .error .outside => .error .outside
  | tokens => if cs.all isAllowed then tokens else .error .malformed

end FilterScript.Yaml
