import FilterScript.Number.Numeral
import FilterScript.Text.Visible

/-!
# Quoted text

Messages show a text in quotes, so that blanks and controls can be seen. Single quotes are used
unless the text holds a single quote and no double one. A backslash stands before the quote itself
and before a backslash; characters without a visible form are spelled by their code point.
-/

namespace FilterScript.Text

/-- The quote that a text is shown in. -/
def quoteFor (cs : List Char) : Char :=
  if cs.contains '\'' && !cs.contains '"' then '"' else '\''

/-- How one character is spelled inside quotes. -/
def spelled (quote c : Char) : List Char :=
  if c = quote ∨ c = '\\' then ['\\', c]
  else if c = '\n' then ['\\', 'n']
  else if c = '\r' then ['\\', 'r']
  else if c = '\t' then ['\\', 't']
  else if isVisible c then [c]
  else if c.toNat < 0x100 then '\\' :: 'x' :: Numeral.hexadecimal 2 c.toNat
  else if c.toNat < 0x10000 then '\\' :: 'u' :: Numeral.hexadecimal 4 c.toNat
  else '\\' :: 'U' :: Numeral.hexadecimal 8 c.toNat

/-- The text in quotes. -/
def quoted (s : String) : String :=
  let q := quoteFor s.toList
  String.ofList (q :: s.toList.flatMap (spelled q) ++ [q])

/-- How one byte is spelled inside quotes: as the ASCII character if that is visible. -/
def spelledByte (quote : Char) (b : UInt8) : List Char :=
  let c := Char.ofNat b.toNat
  if b.toNat < 0x80 then spelled quote c else '\\' :: 'x' :: Numeral.hexadecimal 2 b.toNat

/-- Bytes in quotes, marked by a letter in front. -/
def quotedBytes (bytes : List UInt8) : String :=
  let q := quoteFor (bytes.map fun b => Char.ofNat b.toNat)
  String.ofList ('b' :: q :: bytes.flatMap (spelledByte q) ++ [q])

end FilterScript.Text
