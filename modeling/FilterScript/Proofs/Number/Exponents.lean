import FilterScript.Arg
import FilterScript.Proofs.Number.ReadBack
import FilterScript.Proofs.Number.Reading

/-!
# Exponents written out

The short notation of a number takes an exponent where the number is very large or very small, and scripts know
no exponents. There the digits stay as they are, and zeros are put around them until the point is where the
exponent says. Both notations are read as decimal numbers, and what is shown is that they are read as the same.

* **Positional notation** (`Decimal.read?_of_isNumeral`): a numeral is read as the number that it is a numeral of.
* **Exponents** (`Decimal.read?_scientific`): digits with a point behind the first one and an exponent are read as
  the number.
* **Zeros** (`Decimal.toRat_append_zeros`, `Decimal.exists_filter_isDigit_positional`): zeros around the digits
  change nothing, and nothing but zeros is put around them.
* **Exponents written out** (`Decimal.exists_isWrittenOut`): the notation for scripts is the short one without its
  exponent.
* **Numbers** (`Arg.scriptText?_number`): what numbers are written as in scripts, beside what they are written as
  otherwise.
-/

namespace FilterScript

namespace Numeral

/-! ## Rows of digits -/

/-- The value of a decimal digit. -/
theorem digitIn?_of_isDigit {c : Char} (digit : c.isDigit = true) :
    digitIn? 10 c = some (c.toNat - '0'.toNat) := by
  rw [Char.isDigit, Bool.and_eq_true, decide_eq_true_eq, decide_eq_true_eq] at digit
  have low : 48 ≤ c.toNat := UInt32.le_iff_toNat_le.1 digit.1
  have high : c.toNat ≤ 57 := UInt32.le_iff_toNat_le.1 digit.2
  have value : digitValue? c = some (c.toNat - '0'.toNat) := if_pos digit
  rw [digitIn?, value, Option.filter_some, if_pos]
  have zero : '0'.toNat = 48 := rfl
  exact decide_eq_true (by omega)

/-- A row of decimal digits is read as the number that it stands for. -/
theorem read?_of_isRow {cs : List Char} (row : IsRow cs) : read? 10 cs = some (rowValue cs) := by
  have values : ∀ n, ∃ values, cs.mapM (digitIn? 10) = some values ∧
      values.foldl (fun n value => n * 10 + value) n = Nat.ofDigitChars 10 cs n := by
    have digits := row.2
    clear row
    induction cs with
    | nil => exact fun n => ⟨[], rfl, rfl⟩
    | cons c cs ih =>
      intro n
      rw [List.forall_mem_cons] at digits
      obtain ⟨values, read, same⟩ := ih digits.2 (10 * n + (c.toNat - '0'.toNat))
      refine ⟨(c.toNat - '0'.toNat) :: values, ?_, ?_⟩
      · simp [digitIn?_of_isDigit digits.1, read]
      · rw [List.foldl_cons, Nat.mul_comm n, same]
        rfl
  exact read?_eq_some_iff.2 ⟨row.1, values 0⟩

/-- An integer from its sign and its magnitude. -/
theorem signed_natAbs (n : Int) : signed (n < 0) n.natAbs = n := by
  unfold signed
  split
  · next negative =>
    have := of_decide_eq_true negative
    omega
  · next other =>
    have : ¬n < 0 := fun negative => other (decide_eq_true negative)
    omega

/-- A sign in front of a row is told from the row. -/
theorem splitSign_append {cs : List Char} (negative : Bool) (row : IsRow cs) (rest : List Char) :
    splitSign (signOf negative ++ (cs ++ rest)) = (negative, cs ++ rest) := by
  cases negative with
  | true => rfl
  | false =>
    obtain ⟨some, digits⟩ := row
    obtain ⟨c, more, rfl⟩ := List.exists_cons_of_ne_nil some
    have digit := digits c List.mem_cons_self
    show splitSign (c :: (more ++ rest)) = _
    unfold splitSign
    split
    · next h =>
      obtain ⟨rfl, -⟩ := List.cons.inj h
      cases digit
    · next h =>
      obtain ⟨rfl, -⟩ := List.cons.inj h
      cases digit
    · rfl

/-- A row of digits ends where none stands behind it. -/
theorem span_isDigit {cs : List Char} (digits : ∀ c ∈ cs, c.isDigit = true) (rest : List Char)
    (ends : ∀ c ∈ rest.head?, c.isDigit = false) :
    (cs ++ rest).takeWhile Char.isDigit = cs ∧ (cs ++ rest).dropWhile Char.isDigit = rest := by
  rw [List.takeWhile_append_of_pos digits, List.dropWhile_append_of_pos digits]
  cases rest with
  | nil => exact ⟨List.append_nil cs, rfl⟩
  | cons c rest =>
    have other : ¬c.isDigit = true := by simp [ends c rfl]
    rw [List.takeWhile_cons_of_neg other, List.dropWhile_cons_of_neg other, List.append_nil]
    exact ⟨rfl, rfl⟩

end Numeral

namespace Decimal

open Numeral (IsRow rowValue signOf)

/-! ## Reading -/

section Reading

variable {negative : Bool} {front back rest : List Char} {n : Nat} {e : Int}

/-- What is read of digits without a point, with an exponent behind them or not. -/
theorem read?_whole (row : IsRow front) (ends : ∀ c ∈ rest.head?, c.isDigit = false ∧ c ≠ '.')
    (number : Numeral.read? 10 front = some n) (power : readExponent? rest = some e) :
    read? (signOf negative ++ (front ++ rest)) = some ⟨negative, n, e⟩ := by
  obtain ⟨whole, behind⟩ := Numeral.span_isDigit row.2 rest fun c first => (ends c first).1
  unfold read?
  rw [Numeral.splitSign_append negative row]
  dsimp only
  rw [whole, behind]
  -- what stands behind the digits does not begin with a point
  cases rest with
  | nil => simp [number, power]
  | cons c rest =>
    have noPoint : c ≠ '.' := (ends c rfl).2
    simp [noPoint, number, power]

/-- What is read of digits with a point among them, with an exponent behind them or not. -/
theorem read?_fraction (left : IsRow front) (right : ∀ c ∈ back, c.isDigit = true)
    (ends : ∀ c ∈ rest.head?, c.isDigit = false)
    (number : Numeral.read? 10 (front ++ back) = some n) (power : readExponent? rest = some e) :
    read? (signOf negative ++ (front ++ '.' :: (back ++ rest))) =
      some ⟨negative, n, e - back.length⟩ := by
  obtain ⟨whole, behind⟩ := Numeral.span_isDigit left.2 ('.' :: (back ++ rest)) (by simp)
  obtain ⟨fraction, more⟩ := Numeral.span_isDigit right rest ends
  unfold read?
  rw [Numeral.splitSign_append negative left]
  dsimp only
  rw [whole, behind]
  simp only [fraction, more, number, power]

end Reading

/-- **Positional notation**: a numeral is read as the number that it is a numeral of. -/
theorem read?_of_isNumeral {d : Decimal} {cs : List Char} (numeral : d.IsNumeral cs) :
    read? cs = some d := by
  cases numeral with
  | @whole negative row digits =>
    have read : read? (signOf negative ++ (row ++ [])) = some ⟨negative, rowValue row, 0⟩ :=
      read?_whole digits (by simp) (Numeral.read?_of_isRow digits) rfl
    rwa [List.append_nil] at read
  | @fraction negative front back left right =>
    have both : IsRow (front ++ back) :=
      ⟨by simp [left.1], List.forall_mem_append.2 ⟨left.2, right.2⟩⟩
    have read : read? (signOf negative ++ (front ++ '.' :: (back ++ []))) =
        some ⟨negative, rowValue (front ++ back), 0 - back.length⟩ :=
      read?_fraction left right.2 (by simp) (Numeral.read?_of_isRow both) rfl
    rw [List.append_nil] at read
    rw [List.append_assoc, read, Int.zero_sub]

/-- An exponent is read as the power that it is written for. -/
theorem readExponent?_written (power : Int) :
    readExponent? ('e' :: (if power < 0 then '-' else '+') ::
      Numeral.padded 2 (Numeral.digits power.natAbs)) = some power := by
  have row : Numeral.read? 10 (Numeral.padded 2 (Nat.toDigits 10 power.natAbs)) = some power.natAbs :=
    Numeral.read?_padded (by decide) (by decide) 2 power.natAbs
  have sign := Numeral.signed_natAbs power
  by_cases negative : power < 0
  · rw [decide_eq_true negative] at sign
    simp [readExponent?, negative, Numeral.splitSign, Numeral.digits, row, sign]
  · rw [decide_eq_false negative] at sign
    simp [readExponent?, negative, Numeral.splitSign, Numeral.digits, row, sign]

/-- What stands in front of the exponent: the one digit, or all digits with a point behind the first
one. -/
theorem exists_scientific_eq (d : Decimal) :
    ∃ power, readExponent? ('e' :: power) = some d.leadingExponent ∧
      ((∃ c, d.digits = [c] ∧ d.scientific = c :: 'e' :: power) ∨
        ∃ c back, d.digits = c :: back ∧ d.scientific = c :: '.' :: (back ++ 'e' :: power)) := by
  refine ⟨_, readExponent?_written d.leadingExponent, ?_⟩
  have row : IsRow d.digits := Numeral.isRow_digits d.coefficient
  unfold scientific
  match d.digits, row with
  | [], row => exact absurd rfl row.1
  | [c], _ => exact .inl ⟨c, rfl, rfl⟩
  | c :: next :: more, _ => exact .inr ⟨c, next :: more, rfl, rfl⟩

/-- **Exponents**: digits with a point behind the first one and an exponent are read as the number.
-/
theorem read?_scientific (d : Decimal) : read? (d.sign ++ d.scientific) = some d := by
  have row : IsRow d.digits := Numeral.isRow_digits d.coefficient
  have number : Numeral.read? 10 d.digits = some d.coefficient :=
    Numeral.read?_toDigits (by decide) (by decide) d.coefficient
  have leading : d.leadingExponent = d.exponent + d.digits.length - 1 := rfl
  have letter : ∀ tail : List Char, ∀ c ∈ ('e' :: tail).head?, c.isDigit = false ∧ c ≠ '.' := by
    intro tail c first
    obtain rfl := Option.some.inj first
    decide
  obtain ⟨power, exponent, ⟨c, digits, written⟩ | ⟨c, back, digits, written⟩⟩ := exists_scientific_eq d
  · rw [digits] at row number leading
    rw [written]
    refine (read?_whole row (letter power) number exponent).trans ?_
    rw [leading]
    simp
  · rw [digits] at row number leading
    obtain ⟨digit, behind⟩ := List.forall_mem_cons.1 row.2
    have first : IsRow [c] := ⟨List.cons_ne_nil c [], by simpa using digit⟩
    rw [written]
    refine (read?_fraction first behind (fun c here => (letter power c here).1) number exponent).trans ?_
    have place : d.exponent + (c :: back).length - 1 - back.length = d.exponent := by
      rw [List.length_cons]
      omega
    rw [leading, place]

/-! ## Zeros -/

/-- **Zeros**: as many zeros behind the digits as the exponent is less make the same number. -/
theorem toRat_append_zeros (negative : Bool) (c k : Nat) (e : Int) :
    toRat ⟨negative, c * 10 ^ k, e - k⟩ = toRat ⟨negative, c, e⟩ := by
  have size : magnitude ⟨negative, c * 10 ^ k, e - k⟩ = magnitude ⟨negative, c, e⟩ := by
    rw [Binary64.magnitude_eq, Binary64.magnitude_eq]
    calc ((c * 10 ^ k : Nat) : Rat) * 10 ^ (e - k) = c * (10 ^ (k : Int) * 10 ^ (e - k)) := by
          push_cast
          rw [mul_assoc, zpow_natCast]
      _ = c * 10 ^ e := by
          rw [← zpow_add₀ (by norm_num), add_sub_cancel]
  rw [toRat, toRat, size]

/-- The digits of a notation, without those of an exponent. -/
def figures (cs : List Char) : List Char :=
  (cs.takeWhile (· ≠ 'e')).filter Char.isDigit

/-- An exponent ends the digits. -/
theorem figures_append_exponent {cs : List Char} (none : 'e' ∉ cs) (power : List Char) :
    figures (cs ++ 'e' :: power) = cs.filter Char.isDigit := by
  have before : ∀ c ∈ cs, decide (c ≠ 'e') = true := fun c inside =>
    decide_eq_true fun letter => none (letter ▸ inside)
  rw [figures, List.takeWhile_append_of_pos before, List.takeWhile_cons_of_neg (by decide),
    List.append_nil]

/-- Without an exponent all digits are figures. -/
theorem figures_eq_filter {cs : List Char} (none : 'e' ∉ cs) : figures cs = cs.filter Char.isDigit := by
  have all : ∀ c ∈ cs, decide (c ≠ 'e') = true := fun c inside =>
    decide_eq_true fun letter => none (letter ▸ inside)
  have whole : (cs ++ []).takeWhile (· ≠ 'e') = cs ++ [].takeWhile _ := List.takeWhile_append_of_pos all
  rw [List.append_nil, List.takeWhile_nil, List.append_nil] at whole
  rw [figures, whole]

/-- Numerals of this form have no exponent. -/
theorem IsNumeral.noLetter {d : Decimal} {cs : List Char} (numeral : d.IsNumeral cs) :
    'e' ∉ cs ∧ 'E' ∉ cs := by
  constructor
  · intro letter
    exact absurd (numeral.isDigit_or_mem _ letter) (by decide)
  · intro letter
    exact absurd (numeral.isDigit_or_mem _ letter) (by decide)

/-- A row is nothing but digits. -/
theorem filter_isDigit_of_isRow {cs : List Char} (row : IsRow cs) : cs.filter Char.isDigit = cs :=
  List.filter_eq_self.2 row.2

/-- A sign has no digits. -/
theorem filter_isDigit_sign (d : Decimal) : d.sign.filter Char.isDigit = [] := by
  unfold sign
  split <;> rfl

/-- The figures of a signed number are the digits in front of its exponent. -/
theorem figures_sign_append_exponent (d : Decimal) {cs : List Char}
    (plain : ∀ c ∈ cs, c.isDigit = true ∨ c = '.') (power : List Char) :
    figures (d.sign ++ (cs ++ 'e' :: power)) = cs.filter Char.isDigit := by
  have noLetter : 'e' ∉ d.sign ++ cs := by
    intro letter
    rcases List.mem_append.1 letter with front | inside
    · unfold sign at front
      split at front
      · exact absurd front (by decide)
      · exact absurd front List.not_mem_nil
    · exact absurd (plain _ inside) (by decide)
  rw [← List.append_assoc, figures_append_exponent noLetter, List.filter_append, filter_isDigit_sign,
    List.nil_append]

/-- The digits in front of an exponent are those of the number. -/
theorem figures_scientific (d : Decimal) : figures (d.sign ++ d.scientific) = d.digits := by
  have row : IsRow d.digits := Numeral.isRow_digits d.coefficient
  obtain ⟨power, -, ⟨c, digits, written⟩ | ⟨c, back, digits, written⟩⟩ := exists_scientific_eq d
  · rw [digits] at row
    have plain : ∀ x ∈ [c], x.isDigit = true ∨ x = '.' := fun x inside => .inl (row.2 x inside)
    rw [written, digits]
    exact (figures_sign_append_exponent d plain power).trans (filter_isDigit_of_isRow row)
  · rw [digits] at row
    obtain ⟨digit, behind⟩ := List.forall_mem_cons.1 row.2
    have plain : ∀ x ∈ c :: '.' :: back, x.isDigit = true ∨ x = '.' := by
      intro x inside
      rcases List.mem_cons.1 inside with rfl | inside
      · exact .inl digit
      · exact (List.mem_cons.1 inside).symm.imp_left (behind x)
    have point : ¬Char.isDigit '.' = true := by decide
    rw [written, digits]
    refine (figures_sign_append_exponent d plain power).trans ?_
    rw [List.filter_cons_of_pos digit, List.filter_cons_of_neg point, List.filter_eq_self.2 behind]

/-- The digits in positional notation are those of the number with zeros on one side or the other.
-/
theorem exists_filter_isDigit_positional (d : Decimal) :
    ∃ i j, (d.sign ++ d.positional).filter Char.isDigit =
      List.replicate i '0' ++ d.digits ++ List.replicate j '0' := by
  have row : IsRow d.digits := Numeral.isRow_digits d.coefficient
  rw [List.filter_append, filter_isDigit_sign, List.nil_append]
  unfold positional
  split
  · next k _ =>
    exact ⟨0, k, filter_isDigit_of_isRow (row.append_zeros k)⟩
  · next k _ =>
    refine ⟨k + 1 + 1 - d.digits.length, 0, ?_⟩
    unfold withPoint
    dsimp only
    rw [List.replicate_zero, List.append_nil]
    generalize filled : List.replicate (k + 1 + 1 - d.digits.length) '0' ++ d.digits = all
    have digit : ∀ c ∈ all, c.isDigit = true := by
      intro c inside
      rw [← filled] at inside
      rcases List.mem_append.1 inside with zero | inside
      · exact Numeral.isDigit_of_mem_replicate zero
      · exact row.2 c inside
    -- the point is no digit, and both sides of it together are the row
    rw [List.filter_append, List.filter_cons_of_neg (by decide), ← List.filter_append,
      List.take_append_drop, List.filter_eq_self.2 digit]

/-- A number `d` in any notation, and a numeral that is the same with the exponent written out: it
has no letter and is read as the same number, and the digits are the same, with nothing but zeros
around them. -/
structure IsWrittenOut (d : Decimal) (short plain : List Char) : Prop where
  /-- The number is in the first notation. -/
  read : read? short = some d
  /-- The numeral has digits, a sign and a point, and is read as the number. -/
  same : ∃ q : Decimal, q.IsNumeral plain ∧ read? plain = some q ∧ q.toRat = d.toRat
  /-- The numeral has no exponent. -/
  noLetter : 'e' ∉ plain ∧ 'E' ∉ plain
  /-- The digits are those of the first notation. -/
  zeros : ∃ i j, figures plain = List.replicate i '0' ++ figures short ++ List.replicate j '0'

/-- **Exponents written out**: a number is written for scripts as it is in the short notation, with
the exponent written out. Where there is none, both are the same. -/
theorem exists_isWrittenOut (d : Decimal) :
    ∃ k : Nat, IsWrittenOut ⟨d.negative, d.coefficient * 10 ^ k, d.exponent - k⟩ d.short.toList
      d.plain.toList := by
  obtain ⟨k, numeral⟩ := exists_isNumeral_plain d
  have read := read?_of_isNumeral numeral
  have zeros := toRat_append_zeros d.negative d.coefficient k d.exponent
  by_cases exponent : d.takesExponent = true
  · refine ⟨0, ?_, ⟨_, numeral, read, ?_⟩, numeral.noLetter, ?_⟩
    · rw [short, String.toList_ofList, if_pos exponent, read?_scientific]
      simp
    · rw [zeros]
      simp
    · rw [figures_eq_filter numeral.noLetter.1, plain, short, String.toList_ofList, String.toList_ofList,
        if_pos exponent, if_pos exponent, figures_scientific]
      exact exists_filter_isDigit_positional d
  · have same := plain_eq_short (Bool.not_eq_true _ ▸ exponent)
    refine ⟨k, same ▸ read, ⟨_, numeral, read, rfl⟩, numeral.noLetter, 0, 0, ?_⟩
    rw [same, List.replicate_zero, List.nil_append, List.append_nil]

end Decimal

namespace Arg

/-- **Numbers**: a whole number is its sign and its digits in scripts, without a zero in front, just
if it has at most `Numeral.mostDigits` digits; one with more is not written at all. Fractional numbers
that are finite are written as they are otherwise, with an exponent written out: a sign, digits and a
point with digits behind it, which are read as the same number, with no digit changed. -/
theorem scriptText?_number (n : Int) (x : Binary64) :
    ((∃ s, (int n).scriptText? = some s ∧ Numeral.IsCanonical n s.toList) ↔
      n.natAbs < Nat.pow 10 Numeral.mostDigits) ∧
    ((int n).scriptText? = none ↔ Nat.pow 10 Numeral.mostDigits ≤ n.natAbs) ∧
    (x.isFinite = true →
      ∃ s d, (float x).scriptText? = some s ∧ Binary64.ofDecimal d = x ∧
        d.IsWrittenOut x.shortText.toList s.toList) := by
  have unwritten : (int n).scriptText? = none ↔ Nat.pow 10 Numeral.mostDigits ≤ n.natAbs := by
    rw [scriptText?_eq_none, isWritable, Bool.eq_false_iff, ne_eq, Numeral.isWritable_iff, Nat.not_lt]
    exact or_iff_right (by rintro ⟨⟩)
  refine ⟨⟨?_, fun few => ?_⟩, unwritten, fun finite => ?_⟩
  · rintro ⟨s, written, -⟩
    by_contra many
    cases written.symm.trans (unwritten.2 (Nat.not_lt.1 many))
  · refine ⟨_, scriptText?_int_eq_some_iff.2 ⟨Numeral.isWritable_iff.2 few, rfl⟩, ?_⟩
    rw [Numeral.integerText, String.toList_ofList]
    exact Numeral.isCanonical_integer n
  · cases x with
    | nan => cases finite
    | infinite negative => cases finite
    | finite negative m e canonical =>
      obtain ⟨k, written⟩ := Decimal.exists_isWrittenOut (Binary64.shortest negative m e canonical)
      refine ⟨_, _, rfl, ?_, written⟩
      rw [Binary64.ofDecimal_append_zeros]
      exact Binary64.ofDecimal_shortest negative canonical

/-- A number that takes an exponent, with a digit behind the point and a sign, and whole numbers on
either side of the limit. -/
theorem scriptText?_number_large :
    (∃ x : Binary64, x.isFinite = true ∧ x.shortText = "-1.5e+20" ∧
      ∃ s d, (float x).scriptText? = some s ∧ s = "-150000000000000000000" ∧ Binary64.ofDecimal d = x ∧
        d.IsWrittenOut x.shortText.toList s.toList) ∧
    (∃ s, (int (-Int.ofNat (Nat.pow 10 25))).scriptText? = some s ∧
      Numeral.IsCanonical (-Int.ofNat (Nat.pow 10 25)) s.toList) ∧
    (int (-Int.ofNat (Nat.pow 10 (Numeral.mostDigits + 1)))).scriptText? = none := by
  let x := Binary64.finite true 4577636718750000 15 (by decide)
  obtain ⟨few, -, fractional⟩ := scriptText?_number (-Int.ofNat (Nat.pow 10 25)) x
  obtain ⟨-, many, -⟩ := scriptText?_number (-Int.ofNat (Nat.pow 10 (Numeral.mostDigits + 1))) x
  have size : ∀ n : Nat, (-Int.ofNat n).natAbs = n := fun n => Int.natAbs_neg (Int.ofNat n)
  have below : ∀ {j k : Nat}, j < k → Nat.pow 10 j < Nat.pow 10 k :=
    Nat.pow_lt_pow_right (by decide)
  refine ⟨?_, few.2 ?_, many.2 ?_⟩
  · obtain ⟨s, d, written, same, out⟩ := fractional rfl
    refine ⟨x, rfl, by decide +kernel, s, d, written, ?_, same, out⟩
    have plain : x.plainText = "-150000000000000000000" := by decide +kernel
    rw [← plain]
    exact (Option.some.inj written).symm
  · rw [size]
    exact below (by decide)
  · rw [size]
    exact Nat.le_of_lt (below (Nat.lt_succ_self _))

/-- A whole number of one digit too many has no text. -/
theorem scriptText?_power_of_ten :
    ∃ n : Int, ¬∃ s, (int n).scriptText? = some s ∧ Numeral.IsCanonical n s.toList := by
  refine ⟨Int.ofNat (Nat.pow 10 Numeral.mostDigits), ?_⟩
  rintro ⟨s, written, -⟩
  cases written.symm.trans (scriptText?_eq_none.2 (.inr Numeral.isWritable_power_of_ten))

end Arg

end FilterScript
