import FilterScript.Proofs.Color.Ranges
import FilterScript.Proofs.Number.Reading

/-!
# Levels that are bytes

A text stands for three levels if it is a color. Those of hexadecimal digits and of a name are bytes. Those
of a function are the numbers that it is called with or come from percentages, and nothing keeps these in
their range.

* **Digits** (`ofHexDigits?_lt`) and **names** (`names_lt`) stand for three bytes.
* **Functions** (`areBytes_or_goesBeyond`): the levels are bytes, or an argument goes beyond its range.
* **Texts** (`areBytes_or_isCallBeyond`): the same of any text.
-/

namespace FilterScript.Color

/-! ## Bytes -/

namespace Levels

/-- Whether each level is a byte. -/
structure AreBytes (c : Levels) : Prop where
  red : 0 ≤ c.red ∧ c.red < 256
  green : 0 ≤ c.green ∧ c.green < 256
  blue : 0 ≤ c.blue ∧ c.blue < 256

/-- Levels that are bytes are three numbers below 256. -/
theorem areBytes_iff {c : Levels} :
    c.AreBytes ↔ ∃ r g b : Nat, r < 256 ∧ g < 256 ∧ b < 256 ∧ c = ⟨r, g, b⟩ := by
  constructor
  · rintro ⟨red, green, blue⟩
    refine ⟨c.red.toNat, c.green.toNat, c.blue.toNat, by omega, by omega, by omega, ?_⟩
    rw [Int.toNat_of_nonneg red.1, Int.toNat_of_nonneg green.1, Int.toNat_of_nonneg blue.1]
  · rintro ⟨r, g, b, red, green, blue, rfl⟩
    exact ⟨⟨Int.natCast_nonneg r, Int.ofNat_lt.2 red⟩, ⟨Int.natCast_nonneg g, Int.ofNat_lt.2 green⟩,
      ⟨Int.natCast_nonneg b, Int.ofNat_lt.2 blue⟩⟩

/-- The levels of a number of 24 bits are bytes. -/
theorem areBytes_ofNumber {n : Nat} (small : n < 0x1000000) : (ofNumber n).AreBytes :=
  areBytes_iff.2 ⟨n / 0x10000, n / 0x100 % 0x100, n % 0x100, by omega, by omega, by omega, rfl⟩

/-- Channels near the unit interval make bytes. -/
theorem areBytes_ofChannels {c : Channels} (shares : c.AreShares (1 / 1000)) :
    (ofChannels c).AreBytes :=
  ⟨toByte_of_isShare shares.red, toByte_of_isShare shares.green, toByte_of_isShare shares.blue⟩

end Levels

/-! ## Digits and names -/

/-- Hexadecimal digits give 24 bits. -/
theorem ofHexDigits?_lt {cs : List Char} {n : Nat} (is : ofHexDigits? cs = some n) :
    n < 0x1000000 := by
  unfold ofHexDigits? at is
  split at is
  · next three =>
    have small := Numeral.read?_lt is
    have six : (cs.flatMap fun c => [c, c]).length = 6 := by
      simp [List.length_flatMap, three]
    rwa [six] at small
  · split at is
    · next six =>
      have small := Numeral.read?_lt is
      rwa [six] at small
    · cases is

/-- The alpha digits are dropped, so 24 bits are left. -/
theorem ofHexWithAlpha?_lt {cs : List Char} {n : Nat} (is : ofHexWithAlpha? cs = some n) :
    n < 0x1000000 := by
  unfold ofHexWithAlpha? at is
  split at is
  · split at is
    · exact ofHexDigits?_lt is
    · cases is
  · cases is

/-- Every named color has 24 bits. -/
theorem names_lt : ∀ entry ∈ names, entry.2 < 0x1000000 := by
  decide +kernel

/-- The same for a name that is looked up. -/
theorem lookup_names_lt {name : String} {n : Nat} (is : names.lookup name = some n) :
    n < 0x1000000 := by
  obtain ⟨front, back, whole, -⟩ := List.lookup_eq_some_iff.1 is
  exact names_lt (name, n) (whole ▸ List.mem_append_right front List.mem_cons_self)

/-! ## Functions -/

/-- Fractions are read without a sign. -/
theorem nonneg_of_readFraction? {cs : List Char} {x : Binary64} (read : readFraction? cs = some x)
    {p : Rat} (is : x.toRat? = some p) : 0 ≤ p := by
  unfold readFraction? at read
  dsimp only at read
  split at read
  · cases read
  · cases read
  · obtain rfl := Option.some.inj read
    exact Binary64.nonneg_of_ofDecimal is

/-- Whether an argument of a function goes beyond its range: a number that is no byte, or a
percentage of more than a hundred. -/
inductive GoesBeyond (name : String) (arguments : List (List Char)) : Prop where
  | number {cs : List Char} {n : Nat} (call : name = "rgb" ∨ name = "rgba")
      (among : cs ∈ arguments.take 3) (read : readWhole? cs = some n) (beyond : 255 < n)
  | percentage {cs : List Char} {n : Nat} (call : name = "rgb") (among : cs ∈ arguments)
      (read : readPercent? cs = some n) (beyond : 100 < n)
  | share {cs : List Char} {x : Binary64} (call : name = "hsl" ∨ name = "hsv" ∨ name = "hsb")
      (among : cs ∈ arguments) (read : beforePercent? cs >>= readFraction? = some x)
      (beyond : (whole 100).isLess x = true)

/-- A percentage is read as a share, or is more than a hundred. -/
theorem isShare_of_readPercentFraction? {cs : List Char} {x : Binary64}
    (read : readPercentFraction? cs = some x) :
    IsShare slip x ∨ ∃ y, beforePercent? cs >>= readFraction? = some y ∧
      (whole 100).isLess y = true := by
  obtain ⟨y, number, is⟩ := Option.bind_eq_some_iff.1 read
  obtain rfl := Option.some.inj is
  obtain ⟨digits, -, fraction⟩ := Option.bind_eq_some_iff.1 number
  by_cases beyond : (whole 100).isLess y = true
  · exact .inr ⟨y, number, beyond⟩
  left
  intro r is
  obtain ⟨p, h, percentIs, isHundred, quotient⟩ := Binary64.toRat?_div is
  obtain rfl : h = 100 := by exact_mod_cast eq_of_whole isHundred (by decide)
  have nonneg := nonneg_of_readFraction? fraction percentIs
  have le : p ≤ 100 := not_lt.1 fun less =>
    beyond (Binary64.isLess_eq_true_iff.2 ⟨100, p, isHundred, percentIs, less⟩)
  have near := abs_le.1 (abs_sub_le_slip quotient (abs_lt.2 ⟨by linarith, by linarith⟩))
  constructor <;> linarith

/-- Numbers are bytes, or one of them is not. -/
theorem areBytes_or_number {name : String} {arguments : List (List Char)} {r g b : List Char}
    {m n k : Nat} (call : name = "rgb" ∨ name = "rgba") (front : arguments.take 3 = [r, g, b])
    (red : readWhole? r = some m) (green : readWhole? g = some n) (blue : readWhole? b = some k) :
    (⟨m, n, k⟩ : Levels).AreBytes ∨ GoesBeyond name arguments := by
  have beyond : ∀ {cs : List Char} {i : Nat}, cs ∈ [r, g, b] → readWhole? cs = some i → 255 < i →
      GoesBeyond name arguments := fun among => .number call (front ▸ among)
  rcases Nat.lt_or_ge 255 m with large | m_le
  · exact .inr (beyond (by simp) red large)
  rcases Nat.lt_or_ge 255 n with large | n_le
  · exact .inr (beyond (by simp) green large)
  rcases Nat.lt_or_ge 255 k with large | k_le
  · exact .inr (beyond (by simp) blue large)
  exact .inl (Levels.areBytes_iff.2 ⟨m, n, k, by omega, by omega, by omega, rfl⟩)

/-- Two percentages are shares, or one of them is more than a hundred. -/
theorem areShares_or_share {name : String} {arguments : List (List Char)} {s l : List Char}
    {x y : Binary64} (call : name = "hsl" ∨ name = "hsv" ∨ name = "hsb") (first : s ∈ arguments)
    (second : l ∈ arguments) (readFirst : readPercentFraction? s = some x)
    (readSecond : readPercentFraction? l = some y) :
    IsShare slip x ∧ IsShare slip y ∨ GoesBeyond name arguments := by
  rcases isShare_of_readPercentFraction? readFirst with left | ⟨z, read, beyond⟩
  · rcases isShare_of_readPercentFraction? readSecond with right | ⟨z, read, beyond⟩
    · exact .inl ⟨left, right⟩
    · exact .inr (.share call second read beyond)
  · exact .inr (.share call first read beyond)

/-- The levels of a color given by hue, saturation and value. -/
theorem areBytes_or_goesBeyond_ofHueValue {name : String} {h s v : List Char} {c : Levels}
    (call : name = "hsv" ∨ name = "hsb") (is : ofCall?.ofHueValue? h s v = some c) :
    c.AreBytes ∨ GoesBeyond name [h, s, v] := by
  obtain ⟨x, hue, is⟩ := Option.bind_eq_some_iff.1 is
  obtain ⟨y, saturation, is⟩ := Option.bind_eq_some_iff.1 is
  obtain ⟨z, value, is⟩ := Option.bind_eq_some_iff.1 is
  obtain rfl := Option.some.inj is
  have nonneg : ∀ p, (x / whole 360).toRat? = some p → 0 ≤ p := by
    intro p is
    obtain ⟨q, d, hueIs, isTurn, quotient⟩ := Binary64.toRat?_div is
    obtain rfl : d = 360 := by exact_mod_cast eq_of_whole isTurn (by decide)
    have := nonneg_of_readFraction? hue hueIs
    exact Binary64.nonneg_of_ofRat quotient (by positivity)
  refine (areShares_or_share (.inr call) (by simp) (by simp) saturation value).imp_left ?_
  rintro ⟨isSaturation, isValue⟩
  exact Levels.areBytes_ofChannels (areShares_ofValue nonneg isSaturation isValue)

/-- **Functions**: the levels are bytes, or an argument goes beyond its range. -/
theorem areBytes_or_goesBeyond {name : String} {arguments : List (List Char)} {c : Levels}
    (is : ofCall? name arguments = some c) : c.AreBytes ∨ GoesBeyond name arguments := by
  unfold ofCall? at is
  split at is
  · next r g b =>
    split at is
    · next red green blue =>
      obtain rfl := Option.some.inj is
      exact areBytes_or_number (.inl rfl) rfl red green blue
    · split at is
      · next m n k red green blue =>
        obtain rfl := Option.some.inj is
        rcases Nat.lt_or_ge 100 m with large | m_le
        · exact .inr (.percentage rfl (by simp) red large)
        rcases Nat.lt_or_ge 100 n with large | n_le
        · exact .inr (.percentage rfl (by simp) green large)
        rcases Nat.lt_or_ge 100 k with large | k_le
        · exact .inr (.percentage rfl (by simp) blue large)
        exact .inl ⟨percentByte_of_le m_le, percentByte_of_le n_le, percentByte_of_le k_le⟩
      · cases is
  · next r g b a =>
    simp only [seq_eq_bind_map, Option.bind_eq_bind, Option.bind_eq_some_iff, Option.map_eq_map,
      Option.map_eq_some_iff] at is
    obtain ⟨_, ⟨_, ⟨_, ⟨m, red, rfl⟩, n, green, rfl⟩, k, blue, rfl⟩, _, -, rfl⟩ := is
    exact areBytes_or_number (.inr rfl) rfl red green blue
  · next h s l =>
    obtain ⟨x, hue, is⟩ := Option.bind_eq_some_iff.1 is
    obtain ⟨y, lightness, is⟩ := Option.bind_eq_some_iff.1 is
    obtain ⟨z, saturation, is⟩ := Option.bind_eq_some_iff.1 is
    obtain rfl := Option.some.inj is
    refine (areShares_or_share (.inl rfl) (by simp) (by simp) lightness saturation).imp_left ?_
    rintro ⟨isLightness, isSaturation⟩
    exact Levels.areBytes_ofChannels (areShares_ofLightness isLightness isSaturation _)
  · exact areBytes_or_goesBeyond_ofHueValue (.inl rfl) is
  · exact areBytes_or_goesBeyond_ofHueValue (.inr rfl) is
  · cases is

/-! ## Texts -/

/-- The levels of a color given as text. -/
def levels? (s : String) : Option Levels :=
  match ofHexText? (Text.trim s.toList) with
  | some n => some (.ofNumber n)
  | none => ofStyle? (Text.trim s.toList)

/-- Whether a text is a call of a function with an argument beyond its range, in any capitals and
with blanks around it. -/
def IsCallBeyond (s : String) : Prop :=
  ∃ name arguments, splitCall? (Text.smallFrom [] (Text.trim s.toList)) = some (name, arguments) ∧
    GoesBeyond (String.ofList name) arguments

/-- **Texts**: the levels are bytes, or the text calls a function with an argument beyond its range.
-/
theorem areBytes_or_isCallBeyond {s : String} {c : Levels} (is : levels? s = some c) :
    c.AreBytes ∨ IsCallBeyond s := by
  unfold levels? at is
  split at is
  · next n digits =>
    obtain rfl := Option.some.inj is
    exact .inl (Levels.areBytes_ofNumber (ofHexDigits?_lt digits))
  · unfold ofStyle? at is
    split at is
    · cases is
    · dsimp only at is
      split at is
      · next n name =>
        obtain rfl := Option.some.inj is
        exact .inl (Levels.areBytes_ofNumber (lookup_names_lt name))
      · split at is
        · next n digits =>
          obtain rfl := Option.some.inj is
          exact .inl (Levels.areBytes_ofNumber (ofHexWithAlpha?_lt digits))
        · obtain ⟨⟨name, arguments⟩, call, is⟩ := Option.bind_eq_some_iff.1 is
          exact (areBytes_or_goesBeyond is).imp_right fun beyond => ⟨name, arguments, call, beyond⟩

end FilterScript.Color
