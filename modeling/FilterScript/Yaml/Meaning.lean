import FilterScript.Text.Casing
import FilterScript.Yaml.Node

/-!
# What nodes mean

The value of a node, by its tag. Lists and mappings are gone through level by level, so of several
faults the one nearest to the root counts, and of those on one level the first. The entries of
merged mappings come before those of the mapping itself, which then have the last word on a key.
-/

namespace FilterScript.Yaml

/-- A value, or a fault with the level it is found on. -/
abbrev Meaning (α : Type) := Except (Nat × Fault) α

/-! ## Whole numbers -/

/-- Reads a row of digits of a base, with a sign if there is one and blanks around it. The digits
may be those of any script. -/
def readRow (base : Nat) (cs : List Char) : Except Fault Int :=
  let (negative, row) := Numeral.splitSign (Numeral.withUsualDigits (Text.trim cs))
  let row := match base, row with
    | 8, '0' :: 'o' :: rest => rest
    | 8, '0' :: 'O' :: rest => rest
    | _, row => row
  if base = 10 ∧ Numeral.mostDigits < row.length then .error .badScalar
  else
    match Numeral.read? base row with
    | some n => .ok (Numeral.signed negative n)
    | none => .error .badScalar

/-- The number that parts in base sixty stand for. -/
def ofBaseSixty (parts : List Int) : Int :=
  parts.foldl (fun n part => n * 60 + part) 0

/-- Reads a whole number without sign and underscores. -/
def readUnsigned : List Char → Except Fault Int
  | ['0'] => .ok 0
  | '0' :: 'b' :: rest => readRow 2 rest
  | '0' :: 'x' :: rest => readRow 16 rest
  | cs =>
    if cs.head? = some '0' then readRow 8 cs
    else if cs.contains ':' then do
      let parts ← (cs.splitOn ':').mapM (readRow 10)
      pure (ofBaseSixty parts)
    else readRow 10 cs

/-- Reads a whole number. -/
def readInt (s : String) : Except Fault Value := do
  let cs := s.toList.filter (· != '_')
  if cs.isEmpty then throw .emptyScalar
  let (negative, unsigned) := Numeral.splitSign cs
  let n ← readUnsigned unsigned
  pure (.int (if negative then -n else n))

/-! ## Fractions -/

/-- Reads a fraction in decimal notation, with blanks around it. -/
def readPlainFloat (cs : List Char) : Except Fault Binary64 :=
  match Binary64.read? (Numeral.withUsualDigits (Text.trim cs)) with
  | some x => .ok x
  | none => .error .badScalar

/-- The sum of parts in base sixty, the last part first, each counted `unit` times. A unit must be
in the range of the format, and nothing is said about sums that leave it. -/
def sumBaseSixty : List Binary64 → Nat → Binary64 → Except Fault Binary64
  | [], _, sum => .ok sum
  | part :: rest, unit, sum =>
    match Binary64.ofRat? (unit : Rat) with
    | none => .error .tooLarge
    | some weight =>
      let sum := sum + part * weight
      if sum.isFinite then sumBaseSixty rest (unit * 60) sum else .error .outside

/-- Reads a fraction. -/
def readFloat (s : String) : Except Fault Value := do
  let cs := (s.toList.filter (· != '_')).map Char.toLower
  if cs.isEmpty then throw .emptyScalar
  let (negative, unsigned) := Numeral.splitSign cs
  let x ← match String.ofList unsigned with
    | ".inf" => pure (Binary64.infinite false)
    | ".nan" => pure Binary64.nan
    | _ =>
      if unsigned.contains ':' then do
        let parts ← (unsigned.splitOn ':').mapM readPlainFloat
        sumBaseSixty parts.reverse 1 (Binary64.zero false)
      else readPlainFloat unsigned
  pure (.float (if negative then -x else x))

/-! ## Times -/

/-- The number of days of a month. -/
def daysOf (year month : Nat) : Nat :=
  match month with
  | 2 => if year % 4 = 0 ∧ (year % 100 ≠ 0 ∨ year % 400 = 0) then 29 else 28
  | 4 => 30
  | 6 => 30
  | 9 => 30
  | 11 => 30
  | _ => 31

/-- Whether there is a day. -/
def isDay (year month day : Nat) : Bool :=
  1 ≤ year && 1 ≤ month && month ≤ 12 && 1 ≤ day && day ≤ daysOf year month

/-- A number in at least two digits. -/
def two (n : Nat) : String :=
  String.ofList (Numeral.padded 2 (Numeral.digits n))

/-- The text of a day. -/
def dayText (year month day : Nat) : String :=
  String.ofList (Numeral.padded 4 (Numeral.digits year)) ++ "-" ++ two month ++ "-" ++ two day

/-- Numbers with commas between. -/
def listed (ns : List Nat) : String :=
  ", ".intercalate (ns.map fun (n : Nat) => Numeral.integerText n)

/-- A day. -/
def dayValue (year month day : Nat) : Value :=
  .other "date" (dayText year month day) ("datetime.date(" ++ listed [year, month, day] ++ ")") none
    none

/-- The text of the distance from world time, in minutes. -/
def zoneText (minutes : Int) : String :=
  let size := minutes.natAbs
  (if minutes < 0 then "-" else "+") ++ two (size / 60) ++ ":" ++ two (size % 60)

/-- The quotation of the distance from world time, in minutes. -/
def zoneQuoted (minutes : Int) : String :=
  if minutes = 0 then "datetime.timezone.utc"
  else
    let seconds := minutes * 60
    let days := seconds.fdiv 86400
    let rest := seconds.fmod 86400
    let parts := (if days = 0 then [] else ["days=" ++ Numeral.integerText days]) ++
      if rest = 0 then [] else ["seconds=" ++ Numeral.integerText rest]
    "datetime.timezone(datetime.timedelta(" ++ ", ".intercalate parts ++ "))"

/-- A day with a time of day, down to a millionth of a second, and a distance from world time. -/
def timeValue (year month day hour minute second micro : Nat) (zone : Option Int) : Value :=
  let fraction := if micro = 0 then ""
    else "." ++ String.ofList (Numeral.padded 6 (Numeral.digits micro))
  let clock := two hour ++ ":" ++ two minute ++ ":" ++ two second
  let shown := dayText year month day ++ " " ++ clock ++ fraction ++ ((zone.map zoneText).getD "")
  let fields := [year, month, day, hour, minute] ++
    if micro ≠ 0 then [second, micro] else if second ≠ 0 then [second] else []
  let quoted := "datetime.datetime(" ++ listed fields ++
    ((zone.map fun z => ", tzinfo=" ++ zoneQuoted z).getD "") ++ ")"
  .other "datetime" shown quoted none none

/-- Reads a time. -/
def readTime (s : String) : Except Fault Value := do
  match Scalar.readTime? (Scalar.withoutFinalBreak s.toList) with
  | none => throw .notAToken
  | some t =>
    let number (cs : List Char) : Nat := Nat.ofDigitChars 10 cs 0
    let (year, month, day) := (number t.year, number t.month, number t.day)
    if !isDay year month day then throw .badScalar
    match t.clock with
    | none => pure (dayValue year month day)
    | some (hour, minute, second, fraction) =>
      let micro := number ((fraction ++ List.replicate 6 '0').take 6)
      let (hour, minute, second) := (number hour, number minute, number second)
      if 24 ≤ hour ∨ 60 ≤ minute ∨ 60 ≤ second then throw .badScalar
      let zone := t.zone.map fun (west, hours, minutes) =>
        Numeral.signed west (number hours * 60 + number minutes)
      if zone.any fun z => 1440 ≤ z.natAbs then throw .badScalar
      pure (timeValue year month day hour minute second micro zone)

/-! ## Bytes -/

/-- The value of a digit in base 64. -/
def base64Value? (c : Char) : Option Nat :=
  if 'A' ≤ c ∧ c ≤ 'Z' then some (c.toNat - 'A'.toNat)
  else if 'a' ≤ c ∧ c ≤ 'z' then some (c.toNat - 'a'.toNat + 26)
  else if '0' ≤ c ∧ c ≤ '9' then some (c.toNat - '0'.toNat + 52)
  else if c = '+' then some 62
  else if c = '/' then some 63
  else none

/-- The bytes of four digits, or of the digits of a last group. -/
def bytesOfGroup : List Nat → List UInt8
  | [a, b, c, d] => [UInt8.ofNat (a * 4 + b / 16), UInt8.ofNat (b * 16 + c / 4),
      UInt8.ofNat (c * 64 + d)]
  | [a, b, c] => [UInt8.ofNat (a * 4 + b / 16), UInt8.ofNat (b * 16 + c / 4)]
  | [a, b] => [UInt8.ofNat (a * 4 + b / 16)]
  | _ => []

/-- Reads digits in base 64; other characters are skipped. A last group that is not filled up ends
with equal signs. -/
def readBase64 : List Char → (group : List Nat) → Except Fault (List UInt8)
  | [], [] => .ok []
  | [], _ => .error .malformed
  | c :: rest, group =>
    match base64Value? c with
    | some n =>
      if group.length = 3 then do
        let more ← readBase64 rest []
        pure (bytesOfGroup (group ++ [n]) ++ more)
      else readBase64 rest (group ++ [n])
    | none =>
      if c = '=' ∧ group.length = 3 then .ok (bytesOfGroup group)
      else if c = '=' ∧ group.length = 2 ∧ rest.contains '=' then .ok (bytesOfGroup group)
      else readBase64 rest group

/-- Reads bytes. -/
def readBytes (s : String) : Except Fault Value := do
  if s.toList.all fun c => c.toNat < 0x80 then
    let bytes ← readBase64 s.toList []
    pure (.bytes bytes)
  else throw .malformed

/-! ## Scalars -/

/-- The text of a scalar. A mapping with a value mark stands for the value there. -/
def scalarText : Nat → Node → Except Fault String
  | _, .scalar _ text => .ok text
  | fuel + 1, .map _ entries =>
    match entries.find? fun (key, _) => match key with
      | .scalar .value _ => true
      | _ => false with
    | some (_, node) => scalarText fuel node
    | none => .error .malformed
  | _, _ => .error .malformed

/-- The truth value of a word. -/
def readBool (s : String) : Except Fault Value :=
  match Scalar.truthWords.lookup (Text.small s) with
  | some b => .ok (.bool b)
  | none => .error .unknownWord

/-- The value of a text with a tag for scalars. -/
def readScalar (tag : Tag) (s : String) : Except Fault Value :=
  match tag with
  | .null => .ok .null
  | .bool => readBool s
  | .int => readInt s
  | .float => readFloat s
  | .binary => readBytes s
  | .timestamp => readTime s
  | .text => .ok (.text s)
  | _ => .error .malformed

/-! ## Collections -/

/-- The first of several faults, counted from the root. -/
def nearest (a b : Nat × Fault) : Nat × Fault :=
  if b.1 < a.1 then b else a

/-- Two values, or the nearest fault. -/
def both {α β : Type} (a : Meaning α) (b : Meaning β) : Meaning (α × β) :=
  match a, b with
  | .ok a, .ok b => .ok (a, b)
  | .ok _, .error e => .error e
  | .error e, .ok _ => .error e
  | .error e, .error f => .error (nearest e f)

/-- All values of a list, or the nearest fault. -/
def all {α : Type} : List (Meaning α) → Meaning (List α)
  | [] => .ok []
  | a :: rest => (both a (all rest)).map fun (a, rest) => a :: rest

/-- A fault on a level. -/
def onLevel {α : Type} (level : Nat) : Except Fault α → Meaning α
  | .ok a => .ok a
  | .error f => .error (level, f)

/-- Whether a tag is one of collections. Those cannot be keys, whatever is in them. -/
def Tag.isCollection : Tag → Bool
  | .list => true
  | .map => true
  | .omap => true
  | .pairs => true
  | .set => true
  | _ => false

/-- The tag of a node. -/
def Node.tag : Node → Tag
  | .scalar tag _ => tag
  | .list tag _ => tag
  | .map tag _ => tag

/-- The entries of a mapping with those of merged mappings in front. A value mark as a key is text.
-/
def mergedEntries : Nat → List (Node × Node) → Except Fault (List (Node × Node))
  | 0, _ => .error .malformed
  | fuel + 1, entries => do
    let parts ← entries.mapM fun (key, value) => (match key with
      | .scalar .merge _ => match value with
        | .map _ inner => do
          let merged ← mergedEntries fuel inner
          pure (merged, [])
        | .list _ nodes => do
          let parts ← nodes.mapM fun
            | .map _ inner => mergedEntries fuel inner
            | _ => throw .malformed
          pure (parts.reverse.flatten, [])
        | _ => throw .malformed
      | .scalar .value text => pure ([], [(Node.scalar .text text, value)])
      | _ => pure ([], [(key, value)]) : Except Fault (List (Node × Node) × List (Node × Node)))
    pure (parts.flatMap Prod.fst ++ parts.flatMap Prod.snd)

/-- A pair of a list of pairs. -/
def pairValue (key value : Value) : Value :=
  .tuple [key, value]

/-- A set of values, which are its keys in order. -/
def setValue (keys : List Value) : Value :=
  let shown := if keys.isEmpty then "set()"
    else "\x7b" ++ ", ".intercalate (keys.map Value.quoted) ++ "\x7d"
  .other "set" shown shown none (some keys)

mutual

/-- The value of a node on a level. -/
def valueOf : Nat → Nat → Node → Meaning Value
  | 0, level, _ => .error (level, .malformed)
  | fuel + 1, level, node =>
    match node with
    | .list .list items => (all (items.map (valueOf fuel (level + 1)))).map Value.list
    | .list .omap items => (pairsOf fuel (level + 1) items).map Value.list
    | .list .pairs items => (pairsOf fuel (level + 1) items).map Value.list
    | .map .map entries => (entriesOf fuel (level + 1) entries).map fun es => Value.ofEntries es
    | .map .set entries =>
      (entriesOf fuel (level + 1) entries).map fun es =>
        match Value.ofEntries es with
        | .map done => setValue (done.map Prod.fst)
        | v => v
    | node =>
      onLevel (if node.tag.isCollection then level + 1 else level)
        (scalarText fuel node >>= readScalar node.tag)

/-- The pairs of a list of mappings with one entry each. -/
def pairsOf : Nat → Nat → List Node → Meaning (List Value)
  | 0, level, _ => .error (level, .malformed)
  | fuel + 1, level, items =>
    all (items.map fun
      | .map _ [(key, value)] =>
        (both (valueOf fuel level key) (valueOf fuel level value)).map fun (key, value) =>
          pairValue key value
      | _ => .error (level, .malformed))

/-- The entries of a mapping. -/
def entriesOf : Nat → Nat → List (Node × Node) → Meaning (List (Value × Value))
  | 0, level, _ => .error (level, .malformed)
  | fuel + 1, level, entries =>
    match mergedEntries fuel entries with
    | .error f => .error (level, f)
    | .ok entries =>
      all (entries.map fun (key, value) =>
        both (if key.tag.isCollection then .error (level, .malformed) else valueOf fuel level key)
          (valueOf fuel level value))

end

/-- The value of a node with at most so many levels. -/
def Node.value (node : Node) (levels : Nat) : Except Fault Value :=
  match valueOf (4 * levels + 4) 0 node with
  | .ok v => .ok v
  | .error (_, f) => .error f

/-- The value that a text means. A text without a document means no value. -/
def read (s : String) : Except Fault Value := do
  let cs := s.toList
  match ← Node.ofText cs with
  | some node => node.value (cs.length + 1)
  | none => pure .null

/-- The value that a text means as a scalar: the text itself if it means none. Nothing but a scalar
in the usual notations counts. -/
def readArgument (s : String) : Except Fault Value :=
  match read s with
  | .error .malformed => .ok (.text s)
  | .error f => .error f
  | .ok (.list _) => .ok (.text s)
  | .ok (.map _) => .ok (.text s)
  | .ok (.other ..) => .ok (.text s)
  | .ok v => .ok v

end FilterScript.Yaml
