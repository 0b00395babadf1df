import FilterScript.Number.Numeral

/-!
# Digests

The 128-bit digest that files of scripts are named by. A message is filled up to whole blocks of 64
bytes, the last eight of them its length in bits; each block turns four words through 64 rounds.
-/

namespace FilterScript.Digest

/-! ## Words -/

/-- A word of four bytes, the lowest first. -/
def wordOf (bytes : List UInt8) : UInt32 :=
  bytes.foldr (fun byte word => word * 256 + byte.toUInt32) 0

/-- The bytes of a number, the lowest first. -/
def bytesOf : Nat → Nat → List UInt8
  | 0, _ => []
  | count + 1, n => UInt8.ofNat (n % 256) :: bytesOf count (n / 256)

/-- A word turned left. -/
def turn (word : UInt32) (count : Nat) : UInt32 :=
  (word <<< UInt32.ofNat count) ||| (word >>> UInt32.ofNat (32 - count))

/-- Cuts a list into parts of one length. -/
def partsFrom {α : Type} (length : Nat) : Nat → List α → List (List α)
  | 0, _ => []
  | count + 1, xs => xs.take length :: partsFrom length count (xs.drop length)

/-! ## Rounds -/

/-- The state of four words. -/
structure State where
  a : UInt32 := 0x67452301
  b : UInt32 := 0xefcdab89
  c : UInt32 := 0x98badcfe
  d : UInt32 := 0x10325476
deriving DecidableEq

/-- How far each round turns, by its place in the four rows of sixteen rounds. -/
def turns : List (List Nat) := [[7, 12, 17, 22], [5, 9, 14, 20], [4, 11, 16, 23], [6, 10, 15, 21]]

/-- The constants of the rounds: the sines of 1, 2, … 64, their signs dropped, as 32-bit fractions.
-/
def sines : List UInt32 := [
  0xd76aa478, 0xe8c7b756, 0x242070db, 0xc1bdceee, 0xf57c0faf, 0x4787c62a, 0xa8304613, 0xfd469501,
  0x698098d8, 0x8b44f7af, 0xffff5bb1, 0x895cd7be, 0x6b901122, 0xfd987193, 0xa679438e, 0x49b40821,
  0xf61e2562, 0xc040b340, 0x265e5a51, 0xe9b6c7aa, 0xd62f105d, 0x02441453, 0xd8a1e681, 0xe7d3fbc8,
  0x21e1cde6, 0xc33707d6, 0xf4d50d87, 0x455a14ed, 0xa9e3e905, 0xfcefa3f8, 0x676f02d9, 0x8d2a4c8a,
  0xfffa3942, 0x8771f681, 0x6d9d6122, 0xfde5380c, 0xa4beea44, 0x4bdecfa9, 0xf6bb4b60, 0xbebfbc70,
  0x289b7ec6, 0xeaa127fa, 0xd4ef3085, 0x04881d05, 0xd9d4d039, 0xe6db99e5, 0x1fa27cf8, 0xc4ac5665,
  0xf4292244, 0x432aff97, 0xab9423a7, 0xfc93a039, 0x655b59c3, 0x8f0ccc92, 0xffeff47d, 0x85845dd1,
  0x6fa87e4f, 0xfe2ce6e0, 0xa3014314, 0x4e0811a1, 0xf7537e82, 0xbd3af235, 0x2ad7d2bb, 0xeb86d391]

/-- One round. `i` counts the rounds, and `sine` is its constant. -/
def round (block : List UInt32) (s : State) (i : Nat) (sine : UInt32) : State :=
  let (mixed, place) := match i / 16 with
    | 0 => ((s.b &&& s.c) ||| (~~~s.b &&& s.d), i)
    | 1 => ((s.d &&& s.b) ||| (~~~s.d &&& s.c), 5 * i + 1)
    | 2 => (s.b ^^^ s.c ^^^ s.d, 3 * i + 5)
    | _ => (s.c ^^^ (s.b ||| ~~~s.d), 7 * i)
  let sum := s.a + mixed + sine + block.getD (place % 16) 0
  ⟨s.d, s.b + turn sum ((turns.getD (i / 16) []).getD (i % 4) 0), s.b, s.c⟩

/-- The state after a block. -/
def takeBlock (s : State) (block : List UInt32) : State :=
  let t := (sines.zipIdx).foldl (fun t (sine, i) => round block t i sine) s
  ⟨s.a + t.a, s.b + t.b, s.c + t.c, s.d + t.d⟩

/-! ## Messages -/

/-- A message filled up to whole blocks. -/
def fill (message : List UInt8) : List UInt8 :=
  let zeros := (119 - message.length % 64) % 64
  message ++ 0x80 :: List.replicate zeros 0 ++ bytesOf 8 (8 * message.length)

/-- The words of a block. -/
def wordsOf (block : List UInt8) : List UInt32 :=
  (partsFrom 4 16 block).map wordOf

/-- The digest of a message. -/
def md5 (message : List UInt8) : List UInt8 :=
  let filled := fill message
  let blocks := (partsFrom 64 (filled.length / 64) filled).map wordsOf
  let s := blocks.foldl takeBlock ({} : State)
  [s.a, s.b, s.c, s.d].flatMap fun word => bytesOf 4 word.toNat

/-- The digest of a text, in hexadecimal. -/
def md5Text (s : String) : String :=
  String.ofList ((md5 s.toUTF8.toList).flatMap fun byte => Numeral.hexadecimal 2 byte.toNat)

end FilterScript.Digest
