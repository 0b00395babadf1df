import FilterScript.Proofs.Color.Levels
import FilterScript.Proofs.Number.Hexadecimal

/-!
# Literals and the colors that they show

A literal shows bytes, two capital digits for each. A whole number of at most four bytes is written as its
bytes. A text stands for three levels, and these are packed into one number whether they are bytes or not,
so the literal shows the levels only if they are.

* **Numbers** (`literal_three`, `literal_four`): the literal of a number of three or four bytes shows the bytes.
* **Levels** (`Levels.number_natCast`): levels that are bytes are packed into the number of these.
* **Colors** (`parse_outcome`): what is read as a color, what its literal shows, and what is rejected.
* **Levels beyond a byte** (`parse_rgb_beyond_byte`): a level that is no byte is not rejected.
-/

namespace FilterScript.Color

open Numeral (ofValues bytePair)

/-! ## Numbers -/

/-- The literal that shows some bytes. -/
def literalOf (bytes : List Nat) : String :=
  String.ofList ('$' :: bytes.flatMap bytePair)

/-- The literal of a natural number. -/
theorem literal_natCast (n : Nat) :
    literal n =
      String.ofList ('$' :: Numeral.hexadecimalCapital (if 0xFFFFFF < n then 8 else 6) n) := by
  have width : (if (0xFFFFFF : Int) < (n : Int) then 8 else 6) = if 0xFFFFFF < n then 8 else 6 := by
    by_cases large : 0xFFFFFF < n
    · rw [if_pos large, if_pos (by omega)]
    · rw [if_neg large, if_neg (by omega)]
  rw [literal, hexadecimal, if_neg (by omega), width, Int.natAbs_natCast]

/-- Three digits in base 256. -/
theorem ofValues_three (r g b : Nat) : ofValues 256 [r, g, b] = r * 0x10000 + g * 0x100 + b := by
  simp [ofValues]
  omega

/-- Four digits in base 256. -/
theorem ofValues_four (a r g b : Nat) :
    ofValues 256 [a, r, g, b] = a * 0x1000000 + r * 0x10000 + g * 0x100 + b := by
  simp [ofValues]
  omega

/-- **Numbers** of three bytes are written with six digits. -/
theorem literal_three {r g b : Nat} (red : r < 256) (green : g < 256) (blue : b < 256) :
    literal (ofValues 256 [r, g, b]) = literalOf [r, g, b] := by
  have small : ¬0xFFFFFF < ofValues 256 [r, g, b] := by
    rw [ofValues_three]
    omega
  rw [literal_natCast, if_neg small, literalOf]
  have digits := Numeral.hexadecimalCapital_ofValues (List.cons_ne_nil r [g, b])
    (by simp [red, green, blue])
  rw [← digits]
  rfl

/-- **Numbers** of four bytes are written with eight. -/
theorem literal_four {a r g b : Nat} (some : a ≠ 0) (alpha : a < 256) (red : r < 256)
    (green : g < 256) (blue : b < 256) :
    literal (ofValues 256 [a, r, g, b]) = literalOf [a, r, g, b] := by
  have large : 0xFFFFFF < ofValues 256 [a, r, g, b] := by
    rw [ofValues_four]
    omega
  rw [literal_natCast, if_pos large, literalOf]
  have digits := Numeral.hexadecimalCapital_ofValues (List.cons_ne_nil a [r, g, b])
    (by simp [alpha, red, green, blue])
  rw [← digits]
  rfl

/-! ## Levels -/

namespace Levels

/-- Bytes behind each other do not overlap, so their bits add up. -/
theorem number_natCast (r : Nat) {g b : Nat} (green : g < 256) (blue : b < 256) :
    number ⟨r, g, b⟩ = (ofValues 256 [r, g, b] : Nat) := by
  have first : r * 0x10000 ||| g * 0x100 = r * 0x10000 + g * 0x100 := by
    have below : g * 0x100 < 0x10000 := by omega
    rw [Nat.mul_comm r]
    exact (Nat.two_pow_add_eq_or_of_lt (i := 16) below r).symm
  have second : (r * 0x10000 + g * 0x100) ||| b = r * 0x10000 + g * 0x100 + b := by
    have shifted : r * 0x10000 + g * 0x100 = 0x100 * (r * 0x100 + g) := by omega
    rw [shifted]
    exact (Nat.two_pow_add_eq_or_of_lt (i := 8) blue (r * 0x100 + g)).symm
  calc number ⟨r, g, b⟩
      = orBits (orBits (r * 0x10000 : Nat) (g * 0x100 : Nat)) b := rfl
    _ = (((r * 0x10000 ||| g * 0x100) ||| b : Nat) : Int) := rfl
    _ = (ofValues 256 [r, g, b] : Nat) := by rw [first, second, ofValues_three]

/-- Splitting a number into levels loses nothing. -/
theorem number_ofNumber (n : Nat) : (ofNumber n).number = n := by
  have whole := number_natCast (n / 0x10000) (Nat.mod_lt (n / 0x100) (by decide : 0 < 0x100))
    (Nat.mod_lt n (by decide : 0 < 0x100))
  rw [ofNumber, whole, ofValues_three]
  omega

end Levels

/-! ## Texts -/

/-- The number of a color text is that of its levels. -/
theorem ofText?_eq (s : String) : ofText? s = (levels? s).map Levels.number := by
  unfold ofText? levels?
  dsimp only
  cases ofHexText? (Text.trim s.toList) with
  | some n => exact congrArg some (Levels.number_ofNumber n).symm
  | none => rfl

/-! ## Colors -/

/-- The whole number that a value is. -/
def whole? : Value → Option Int
  | .int n => some n
  | .float x => x.toInt?
  | _ => none

/-- Whether a value is the color with the given bytes: a whole number of three bytes, or of four, or
a text that stands for three levels. -/
inductive IsColor : Value → List Nat → Prop where
  | solid {v : Value} {r g b : Nat} (red : r < 256) (green : g < 256) (blue : b < 256)
      (is : whole? v = some (ofValues 256 [r, g, b] : Nat)) : IsColor v [r, g, b]
  | transparent {v : Value} {a r g b : Nat} (some : a ≠ 0) (alpha : a < 256) (red : r < 256)
      (green : g < 256) (blue : b < 256)
      (is : whole? v = .some (ofValues 256 [a, r, g, b] : Nat)) : IsColor v [a, r, g, b]
  | text {s : String} {r g b : Nat} (red : r < 256) (green : g < 256) (blue : b < 256)
      (is : levels? s = some ⟨r, g, b⟩) : IsColor (.text s) [r, g, b]

/-- A whole number is written if it has at most four bytes. -/
theorem parse_of_whole? {v : Value} {n : Int} (is : whole? v = some n) : parse v = ofInt n := by
  cases v with
  | int m =>
    obtain rfl := Option.some.inj is
    rfl
  | float x =>
    have given : x.toInt? = some n := is
    simp only [parse, given]
  | _ => cases is

/-- A text is written if it stands for levels, whatever they are. -/
theorem parse_text (s : String) :
    parse (.text s) = match levels? s with
      | some c => .ok (literal c.number)
      | none => .error (.error (noColor (.text s))) := by
  rw [parse, ofText?_eq]
  cases levels? s <;> rfl

/-- The bytes of a number. -/
theorem exists_isColor_of_whole? {v : Value} {n : Int} (is : whole? v = some n) (low : 0 ≤ n)
    (high : n ≤ 0xFFFFFFFF) : ∃ bytes, IsColor v bytes := by
  obtain ⟨m, rfl⟩ := Int.eq_ofNat_of_zero_le low
  by_cases short : m / 0x1000000 = 0
  · refine ⟨[m / 0x10000, m / 0x100 % 0x100, m % 0x100], .solid (by omega) (by omega) (by omega) ?_⟩
    rw [is, ofValues_three]
    congr 2
    omega
  · refine ⟨[m / 0x1000000, m / 0x10000 % 0x100, m / 0x100 % 0x100, m % 0x100],
      .transparent short (by omega) (by omega) (by omega) (by omega) ?_⟩
    rw [is, ofValues_four]
    congr 2
    omega

/-- What is no color is rejected if it can be shown, whichever number stands for it in the message.
-/
theorem rejected_of_eq_raise {v w : Value} (failed : parse v = .error (noColor w).raise) :
    (w.isShowable = true → parse v = .error (.error (noColor w))) ∧
      (w.isShowable = false → parse v = .error (.fault .tooManyDigits)) := by
  have shown : Value.areShowable (noColor w).shownValues = w.isShowable := Bool.and_true _
  refine ⟨fun fits => ?_, fun long => ?_⟩
  · rw [failed, Error.raise_of_areShowable (shown.trans fits)]
  · rw [failed, Error.raise_of_not_areShowable (shown.trans long)]

/-- **Colors**: what is a color is written as a literal that shows its bytes. The rest is rejected,
but for values with a whole number of too many digits, which no message can name, and for texts of a
color with a level that is no byte, and these call a function with an argument beyond its range. -/
theorem parse_outcome (v : Value) :
    (∀ bytes, IsColor v bytes → parse v = .ok (literalOf bytes)) ∧
      ((¬∃ bytes, IsColor v bytes) →
        (v.isShowable = true →
          (∃ w, parse v = .error (.error (noColor w))) ∨
            ∃ s c, v = .text s ∧ levels? s = some c ∧ ¬c.AreBytes ∧ IsCallBeyond s ∧
              parse v = .ok (literal c.number)) ∧
        (v.isShowable = false → parse v = .error (.fault .tooManyDigits))) := by
  constructor
  · rintro bytes (⟨red, green, blue, is⟩ | ⟨some, alpha, red, green, blue, is⟩ | ⟨red, green, blue, is⟩)
    · rw [parse_of_whole? is, ofInt_eq_ok_iff]
      refine ⟨Int.natCast_nonneg _, ?_, literal_three red green blue⟩
      rw [ofValues_three]
      omega
    · rw [parse_of_whole? is, ofInt_eq_ok_iff]
      refine ⟨Int.natCast_nonneg _, ?_, literal_four some alpha red green blue⟩
      rw [ofValues_four]
      omega
    · rw [parse_text, is]
      show Except.ok (literal (Levels.number _)) = _
      rw [Levels.number_natCast _ green blue, literal_three red green blue]
  · intro other
    cases number : whole? v with
    | some n =>
      have out : n < 0 ∨ 0xFFFFFFFF < n := by
        refine Classical.byContradiction fun inside => ?_
        rw [not_or, Int.not_lt, Int.not_lt] at inside
        exact other (exists_isColor_of_whole? number inside.1 inside.2)
      have failed : parse v = .error (noColor (.int n)).raise := by
        rw [parse_of_whole? number, ofInt, if_pos out]
      obtain ⟨rejected, long⟩ := rejected_of_eq_raise failed
      cases v with
      | int m =>
        obtain rfl := Option.some.inj number
        exact ⟨fun fits => .inl ⟨_, rejected fits⟩, long⟩
      | float x =>
        -- the message names the whole number, and it is one of the format
        have fits : (Value.int n).isShowable = true := Binary64.isWritable_of_toInt? number
        exact ⟨fun _ => .inl ⟨_, rejected fits⟩, fun absent => nomatch absent⟩
      | _ => cases number
    | none =>
      cases v with
      | int n => cases number
      | float x =>
        have fractional : x.toInt? = none := number
        have failed : parse (.float x) = .error (noColor (.float x)).raise := by
          simp only [parse, fractional]
        exact ⟨fun _ => .inl ⟨_, failed⟩, fun absent => nomatch absent⟩
      | text s =>
        refine ⟨fun _ => ?_, fun absent => nomatch absent⟩
        rw [parse_text]
        cases given : levels? s with
        | none => exact .inl ⟨.text s, rfl⟩
        | some c =>
          have notBytes : ¬c.AreBytes := by
            intro bytes
            obtain ⟨r, g, b, red, green, blue, rfl⟩ := Levels.areBytes_iff.1 bytes
            exact other ⟨_, .text red green blue given⟩
          have beyond := (areBytes_or_isCallBeyond given).resolve_left notBytes
          exact .inr ⟨s, c, rfl, given, notBytes, beyond, rfl⟩
      | _ =>
        exact ⟨fun fits => .inl ⟨_, (rejected_of_eq_raise rfl).1 fits⟩, (rejected_of_eq_raise rfl).2⟩

/-- **Levels beyond a byte**: a level that is no byte is written into the place of a fourth byte. -/
theorem parse_rgb_beyond_byte :
    levels? "rgb(300,0,0)" = some ⟨300, 0, 0⟩ ∧ parse (.text "rgb(300,0,0)") = .ok "$012C0000" ∧
      ¬∀ v t, parse v = .ok t → ∃ bytes, IsColor v bytes ∧ t = literalOf bytes := by
  have given : levels? "rgb(300,0,0)" = some ⟨300, 0, 0⟩ := by decide +kernel
  have written : parse (.text "rgb(300,0,0)") = .ok "$012C0000" := by
    rw [parse_text, given]
    exact congrArg Except.ok (show literal (Levels.number ⟨300, 0, 0⟩) = "$012C0000" by decide +kernel)
  refine ⟨given, written, fun all => ?_⟩
  obtain ⟨bytes, color, -⟩ := all _ _ written
  cases color with
  | solid _ _ _ is => cases is
  | transparent _ _ _ _ _ is => cases is
  | text red _ _ is =>
    rw [given, Option.some.injEq, Levels.mk.injEq] at is
    omega

end FilterScript.Color
