import FilterScript.Color.Names
import FilterScript.Color.Space
import FilterScript.Error
import FilterScript.Text.Casing

/-!
# Color literals

Scripts write a color as a dollar sign and its bytes in hexadecimal, with a byte for transparency in
front if there is one. A color is given as a number, as hexadecimal digits with or without a sign
for them, by name, or as in style sheets. The main statement says which numbers are colors.
-/

namespace FilterScript.Color

/-! ## Writing -/

/-- A number in hexadecimal, filled up with zeros to a width in which a minus sign counts. -/
def hexadecimal (width : Nat) (n : Int) : List Char :=
  if n < 0 then '-' :: Numeral.hexadecimalCapital (width - 1) n.natAbs
  else Numeral.hexadecimalCapital width n.natAbs

/-- The literal of a number: six digits, or eight where six are not enough. -/
def literal (n : Int) : String :=
  String.ofList ('$' :: hexadecimal (if 0xFFFFFF < n then 8 else 6) n)

/-! ## Bytes in one number -/

/-- The bits that are set in one of two whole numbers. Negative numbers have all bits set from some
place on, so each is taken by the bits that are not set in it. -/
def orBits : Int → Int → Int
  | .ofNat a, .ofNat b => .ofNat (a ||| b)
  | .negSucc a, .negSucc b => .negSucc (a &&& b)
  | .negSucc a, .ofNat b => .negSucc (a ^^^ (a &&& b))
  | .ofNat a, .negSucc b => .negSucc (b ^^^ (b &&& a))

/-- The levels of the three channels of a color. Those that can be written are bytes. -/
structure Levels where
  red : Int
  green : Int
  blue : Int
deriving DecidableEq

namespace Levels

/-- The three bytes of a number. -/
def ofNumber (n : Nat) : Levels :=
  ⟨(n / 0x10000 : Nat), (n / 0x100 % 0x100 : Nat), (n % 0x100 : Nat)⟩

/-- The levels that come nearest to the channels of a color. -/
def ofChannels (c : Channels) : Levels :=
  ⟨toByte c.red, toByte c.green, toByte c.blue⟩

/-- The three levels as one number, one byte for each. -/
def number (c : Levels) : Int :=
  orBits (orBits (c.red * 0x10000) (c.green * 0x100)) c.blue

end Levels

/-! ## Hexadecimal digits -/

/-- The text behind the sign for hexadecimal digits, if there is one. -/
def dropHexSign : List Char → List Char
  | '0' :: 'x' :: rest => rest
  | '0' :: 'X' :: rest => rest
  | '#' :: rest => rest
  | '$' :: rest => rest
  | cs => cs

/-- The number that three or six hexadecimal digits stand for; of three, each counts twice. -/
def ofHexDigits? (cs : List Char) : Option Nat :=
  if cs.length = 3 then Numeral.read? 16 (cs.flatMap fun c => [c, c])
  else if cs.length = 6 then Numeral.read? 16 cs
  else none

/-- The number behind a sign for hexadecimal digits, or of bare ones. -/
def ofHexText? (cs : List Char) : Option Nat :=
  ofHexDigits? (dropHexSign cs)

/-- The number of a style sheet's digits with transparency, which is dropped. -/
def ofHexWithAlpha? : List Char → Option Nat
  | '#' :: cs =>
    if (cs.all fun c => (Numeral.digitIn? 16 c).isSome) && (cs.length == 4 || cs.length == 8) then
      ofHexDigits? (cs.take (cs.length / 4 * 3))
    else none
  | _ => none

/-! ## Functions of style sheets -/

/-- A row of decimal digits as a number. -/
def readWhole? (cs : List Char) : Option Nat :=
  if !cs.isEmpty && cs.all Numeral.isDecimal then some (Numeral.ofDecimals cs) else none

/-- A row of decimal digits with a point behind them or among them as a number. -/
def readFraction? (cs : List Char) : Option Binary64 :=
  let front := cs.takeWhile Numeral.isDecimal
  let back := match cs.dropWhile Numeral.isDecimal with
    | [] => some []
    | '.' :: rest => if rest.all Numeral.isDecimal then some rest else none
    | _ => none
  match front, back with
  | [], _ => none
  | _, none => none
  | front, some back =>
    some (Binary64.ofDecimal ⟨false, Numeral.ofDecimals (front ++ back), -(back.length : Int)⟩)

/-- The text before a percent sign at the end. -/
def beforePercent? (cs : List Char) : Option (List Char) :=
  if cs.getLast? = some '%' then some cs.dropLast else none

/-- A number before a percent sign. -/
def readPercent? (cs : List Char) : Option Nat :=
  beforePercent? cs >>= readWhole?

/-- A fraction before a percent sign, divided by a hundred. -/
def readPercentFraction? (cs : List Char) : Option Binary64 := do
  let x ← beforePercent? cs >>= readFraction?
  pure (x / whole 100)

/-- The byte that a percentage stands for. -/
def percentByte (n : Nat) : Int :=
  (whole (n * 255) / whole 100 + half).truncate

/-- The name and the trimmed arguments of a function. -/
def splitCall? (cs : List Char) : Option (List Char × List (List Char)) :=
  match cs.dropWhile (· != '('), cs.getLast? with
  | _ :: rest, some ')' =>
    some (cs.takeWhile (· != '('), (rest.dropLast.splitOn ',').map Text.trim)
  | _, _ => none

/-- The levels of a color given by a function: red, green and blue, with transparency or in percent,
or a hue with saturation and lightness or value. -/
def ofCall? (name : String) (arguments : List (List Char)) : Option Levels :=
  match name, arguments with
  | "rgb", [r, g, b] =>
    match readWhole? r, readWhole? g, readWhole? b with
    | some r, some g, some b => some ⟨r, g, b⟩
    | _, _, _ =>
      match readPercent? r, readPercent? g, readPercent? b with
      | some r, some g, some b => some ⟨percentByte r, percentByte g, percentByte b⟩
      | _, _, _ => none
  | "rgba", [r, g, b, a] => do
    pure (← (fun r g b _ => ⟨r, g, b⟩) <$> readWhole? r <*> readWhole? g <*> readWhole? b <*>
      readWhole? a)
  | "hsl", [h, s, l] => do
    pure (.ofChannels (ofLightness ((← readFraction? h) / whole 360) (← readPercentFraction? l)
      (← readPercentFraction? s)))
  | "hsv", [h, s, v] => ofHueValue? h s v
  | "hsb", [h, s, v] => ofHueValue? h s v
  | _, _ => none
where
  /-- The levels of a color given by hue, saturation and value. -/
  ofHueValue? (h s v : List Char) : Option Levels := do
    pure (.ofChannels (ofValue ((← readFraction? h) / whole 360) (← readPercentFraction? s)
      (← readPercentFraction? v)))

/-! ## All forms -/

/-- The levels of a color as style sheets write it, of at most a hundred characters. -/
def ofStyle? (cs : List Char) : Option Levels :=
  if 100 < cs.length then none
  else
    let cs := Text.smallFrom [] cs
    match names.lookup (String.ofList cs) with
    | some n => some (.ofNumber n)
    | none =>
      match ofHexWithAlpha? cs with
      | some n => some (.ofNumber n)
      | none => (splitCall? cs).bind fun (name, arguments) => ofCall? (String.ofList name) arguments

/-- The number of a color given as text. Hexadecimal digits come first, as no name is made of
them. -/
def ofText? (s : String) : Option Int :=
  let cs := Text.trim s.toList
  match ofHexText? cs with
  | some n => some n
  | none => (ofStyle? cs).map Levels.number

/-- The error for a value that is no color. -/
def noColor (value : Value) : Error :=
  .mismatch .color value none

/-- The literal of a number of at most four bytes. -/
def ofInt (n : Int) : Outcome String :=
  if n < 0 ∨ 0xFFFFFFFF < n then .error (noColor (.int n)).raise else .ok (literal n)

/-- A number is a color if it has at most four bytes. -/
theorem ofInt_eq_ok_iff {n : Int} {s : String} :
    ofInt n = .ok s ↔ 0 ≤ n ∧ n ≤ 0xFFFFFFFF ∧ literal n = s := by
  unfold ofInt
  split
  · next out =>
    constructor
    · intro h
      simp at h
    · rintro ⟨h, h', -⟩
      omega
  · next fits =>
    rw [Except.ok.injEq]
    constructor
    · intro h
      exact ⟨by omega, by omega, h⟩
    · exact fun h => h.2.2

/-- The literal of a color: a whole number, whichever kind it is of, or a text. -/
def parse : Value → Outcome String
  | .int n => ofInt n
  | .float x =>
    match x.toInt? with
    | some n => ofInt n
    | none => .error (noColor (.float x)).raise
  | .text s =>
    match ofText? s with
    | some n => .ok (literal n)
    | none => .error (noColor (.text s)).raise
  | v => .error (noColor v).raise

end FilterScript.Color
