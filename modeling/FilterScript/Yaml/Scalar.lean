import FilterScript.Yaml.Cursor

/-!
# The types of scalars

A scalar without quotes and tag is of the first type whose pattern it has: truth value, fraction,
whole number, merge mark, no value, time, value mark; and text if it has none of these.
-/

namespace FilterScript.Yaml

/-- What a node is by its tag. -/
inductive Tag where
  | null
  | bool
  | int
  | float
  | binary
  | timestamp
  | omap
  | pairs
  | set
  | text
  | list
  | map
  | merge
  | value
  /-- A tag that nothing is known of. -/
  | unknown
deriving DecidableEq, Repr

/-- What the names of tags begin with. -/
def tagDomain : String := "tag:yaml.org,2002:"

/-- The tag of a name. -/
def Tag.ofName (name : String) : Tag :=
  let table : List (String × Tag) := [
    ("null", .null), ("bool", .bool), ("int", .int), ("float", .float), ("binary", .binary),
    ("timestamp", .timestamp), ("omap", .omap), ("pairs", .pairs), ("set", .set), ("str", .text),
    ("seq", .list), ("map", .map), ("merge", .merge), ("value", .value)]
  ((table.map fun (word, tag) => (tagDomain ++ word, tag)).lookup name).getD .unknown

namespace Scalar

/-! ## Truth values -/

/-- The words for truth values, in small letters. -/
def truthWords : List (String × Bool) := [
  ("yes", true), ("no", false), ("true", true), ("false", false), ("on", true), ("off", false)]

/-- A word with a capital letter in front. -/
def capitalized : List Char → List Char
  | [] => []
  | c :: rest => c.toUpper :: rest

/-- The spellings of a word: in small letters, with a capital in front, in capitals. -/
def spellings (word : List Char) : List (List Char) :=
  [word, capitalized word, word.map Char.toUpper]

/-- Whether a text is a word for a truth value. -/
def isBool (cs : List Char) : Bool :=
  truthWords.any fun (word, _) => (spellings word.toList).contains cs

/-! ## Numbers -/

/-- Whether a character is a digit or an underscore. -/
def isDigitOrBar (c : Char) : Bool :=
  c.isDigit || c == '_'

/-- Whether a text is a digit with digits and underscores behind it. -/
def isRow (first : Char → Bool) : List Char → Bool
  | [] => false
  | c :: rest => first c && rest.all isDigitOrBar

/-- Whether a text is nothing, or an exponent with a sign. -/
def isExponent : List Char → Bool
  | [] => true
  | e :: sign :: c :: rest =>
    (e == 'e' || e == 'E') && (sign == '-' || sign == '+') && c.isDigit && rest.all Char.isDigit
  | _ => false

/-- Whether a text is a number below sixty in one or two digits. -/
def isBelowSixty : List Char → Bool
  | [c] => c.isDigit
  | [d, c] => '0' ≤ d && d ≤ '5' && c.isDigit
  | _ => false

/-- Whether a text is a row of digits and one or more numbers below sixty, with colons between. -/
def isBaseSixty (first : Char → Bool) (cs : List Char) : Bool :=
  match cs.splitOn ':' with
  | front :: more => isRow first front && !more.isEmpty && more.all isBelowSixty
  | [] => false

/-- Whether what is behind the point of a fraction can stand there. -/
def isBehindPoint (cs : List Char) : Bool :=
  isExponent (cs.dropWhile isDigitOrBar)

/-- Whether a text is a fraction. -/
def isFloat (cs : List Char) : Bool :=
  let unsigned := (Numeral.splitSign cs).2
  let front := unsigned.takeWhile (· != '.')
  let back := (unsigned.dropWhile (· != '.')).drop 1
  let hasPoint := unsigned.contains '.'
  (hasPoint && isRow Char.isDigit front && isBehindPoint back) ||
    (hasPoint && cs.head? == some '.' && isRow Char.isDigit (back.takeWhile isDigitOrBar) &&
      isBehindPoint back) ||
    (hasPoint && isBaseSixty Char.isDigit front && back.all isDigitOrBar) ||
    [".inf", ".Inf", ".INF"].contains (String.ofList unsigned) ||
    [".nan", ".NaN", ".NAN"].contains (String.ofList cs)

/-- Whether a character is a digit of a base, or an underscore. -/
def isInBase (base : Nat) (c : Char) : Bool :=
  c == '_' || (Numeral.digitIn? base c).isSome

/-- Whether a text is a whole number. -/
def isInt (cs : List Char) : Bool :=
  let unsigned := (Numeral.splitSign cs).2
  let leading (c : Char) : Bool := c.isDigit && c != '0'
  (match unsigned with
    | '0' :: 'b' :: c :: rest => (c :: rest).all (isInBase 2)
    | '0' :: 'x' :: c :: rest => (c :: rest).all (isInBase 16)
    | ['0'] => true
    | '0' :: rest => rest.all (isInBase 8)
    | _ => isRow leading unsigned) ||
    isBaseSixty leading unsigned

/-! ## Other types -/

/-- Whether a text means no value. -/
def isNull (cs : List Char) : Bool :=
  ["", "~", "null", "Null", "NULL"].contains (String.ofList cs)

/-- A time as it is written. -/
structure TimeText where
  /-- The year. -/
  year : List Char
  /-- The month. -/
  month : List Char
  /-- The day. -/
  day : List Char
  /-- Hour, minute, second, and what is behind the point, if the time of day is given. -/
  clock : Option (List Char × List Char × List Char × List Char) := none
  /-- The distance from world time, if it is given: its sign, hours and minutes. -/
  zone : Option (Bool × List Char × List Char) := none

/-- Reads from `least` to `most` digits. -/
def readDigits? (least most : Nat) (cs : List Char) : Option (List Char × List Char) :=
  let row := (cs.take most).takeWhile Char.isDigit
  if least ≤ row.length then some (row, cs.drop row.length) else none

/-- Reads one character. -/
def readChar? (c : Char) : List Char → Option (List Char)
  | x :: rest => if x = c then some rest else none
  | [] => none

/-- Whether a character is a blank or a tab. -/
def isSpace (c : Char) : Bool :=
  c == ' ' || c == '\t'

/-- Reads what separates a day from the time of day. -/
def readSeparator? : List Char → Option (List Char)
  | 'T' :: rest => some rest
  | 't' :: rest => some rest
  | c :: rest => if isSpace c then some (rest.dropWhile isSpace) else none
  | [] => none

/-- Reads the distance from world time, or nothing, up to the end. -/
def readZone? (cs : List Char) : Option (Option (Bool × List Char × List Char)) :=
  if cs.isEmpty then some none
  else
    match cs.dropWhile isSpace with
    | ['Z'] => some (some (false, [], []))
    | sign :: rest =>
      if sign = '-' ∨ sign = '+' then do
        let (hours, rest) ← readDigits? 1 2 rest
        if rest.isEmpty then some (some (sign == '-', hours, []))
        else do
          let rest ← readChar? ':' rest
          let (minutes, rest) ← readDigits? 2 2 rest
          if rest.isEmpty then some (some (sign == '-', hours, minutes)) else none
      else none
    | [] => some none

/-- Reads a time: a day, or a day with a time of day. -/
def readTime? (cs : List Char) : Option TimeText := do
  let (year, rest) ← readDigits? 4 4 cs
  let rest ← readChar? '-' rest
  let (month, rest) ← readDigits? 1 2 rest
  let rest ← readChar? '-' rest
  let (day, rest) ← readDigits? 1 2 rest
  if rest.isEmpty then pure ⟨year, month, day, none, none⟩
  else do
    let rest ← readSeparator? rest
    let (hour, rest) ← readDigits? 1 2 rest
    let rest ← readChar? ':' rest
    let (minute, rest) ← readDigits? 2 2 rest
    let rest ← readChar? ':' rest
    let (second, rest) ← readDigits? 2 2 rest
    let (fraction, rest) := match rest with
      | '.' :: rest => (rest.takeWhile Char.isDigit, rest.dropWhile Char.isDigit)
      | rest => ([], rest)
    let zone ← readZone? rest
    pure ⟨year, month, day, some (hour, minute, second, fraction), zone⟩

/-- Whether a text is a time. A day alone has all its digits. -/
def isTimestamp (cs : List Char) : Bool :=
  match readTime? cs with
  | some t => t.clock.isSome || (t.month.length == 2 && t.day.length == 2)
  | none => false

/-- A text without a line feed at its end. Types are told by what is before it. -/
def withoutFinalBreak (cs : List Char) : List Char :=
  if cs.getLast? = some '\n' ∧ 1 < cs.length then cs.dropLast else cs

/-- The tag of a scalar that has none and no quotes. -/
def tagOf (s : String) : Tag :=
  let cs := withoutFinalBreak s.toList
  if isBool cs then .bool
  else if isFloat cs then .float
  else if isInt cs then .int
  else if cs = ['<', '<'] then .merge
  else if isNull cs then .null
  else if isTimestamp cs then .timestamp
  else if cs = ['='] then .value
  else .text

end Scalar

end FilterScript.Yaml
