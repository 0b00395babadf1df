import FilterScript.Number.Numeral
import FilterScript.Proofs.Text.Casing

/-!
# Numerals that are read

A row of digits is read digit by digit, so it is read as one number whatever zeros are put around it and
whatever the case of its letters is, and the numeral of a number is read as the number.

* **Size** (`read?_lt`): a row of digits stands for a number below the power of the base that has its length.
* **Zeros** (`read?_zeros_append`): in front of a row they do not count.
* **Numerals** (`read?_toDigits`): the numeral of a number is read as the number.
* **Case** (`read?_map_toLower`): digits that are letters may be of either case.
-/

namespace FilterScript.Numeral

section Reading

variable {base n d : Nat} {c : Char} {cs : List Char} {values : List Nat}

/-! ## Size -/

/-- A digit's value is below the base. -/
theorem digitIn?_lt (is : digitIn? base c = some d) : d < base := by
  rw [digitIn?, Option.filter_eq_some_iff] at is
  exact of_decide_eq_true is.2

/-- The number of the digits so far is below the power of the base with as many places. -/
theorem foldl_lt {places : Nat} (digits : ∀ d ∈ values, d < base) (small : n < Nat.pow base places) :
    values.foldl (fun n value => n * base + value) n < Nat.pow base (places + values.length) := by
  induction values generalizing n places with
  | nil => exact small
  | cons d rest ih =>
    rw [List.forall_mem_cons] at digits
    have next : n * base + d < Nat.pow base (places + 1) := by
      calc n * base + d < (n + 1) * base := by rw [Nat.add_mul]; omega
        _ ≤ Nat.pow base places * base := Nat.mul_le_mul_right base small
        _ = Nat.pow base (places + 1) := rfl
    rw [List.length_cons, Nat.add_comm rest.length, ← Nat.add_assoc]
    exact ih digits.2 next

/-- The values of a row of digits: one for each, all below the base. -/
theorem digits_of_mapM (read : cs.mapM (digitIn? base) = some values) :
    values.length = cs.length ∧ ∀ d ∈ values, d < base := by
  induction cs generalizing values with
  | nil =>
    obtain rfl := Option.some.inj read
    exact ⟨rfl, fun d h => absurd h List.not_mem_nil⟩
  | cons c cs ih =>
    simp only [List.mapM_cons, Option.bind_eq_bind, Option.bind_eq_some_iff, Option.pure_def,
      Option.some.injEq] at read
    obtain ⟨d, digit, rest, read, rfl⟩ := read
    obtain ⟨length, digits⟩ := ih read
    exact ⟨congrArg Nat.succ length, List.forall_mem_cons.2 ⟨digitIn?_lt digit, digits⟩⟩

/-- A row is read if it has a digit and all that it has are digits. -/
theorem read?_eq_some_iff :
    read? base cs = some n ↔
      cs ≠ [] ∧ ∃ values, cs.mapM (digitIn? base) = some values ∧ ofValues base values = n := by
  unfold read?
  split
  · next empty => simp [List.isEmpty_iff.1 empty]
  · next some =>
    rw [Option.map_eq_some_iff]
    exact (and_iff_right fun empty => some (List.isEmpty_iff.2 empty)).symm

/-- **Size**: as many digits stand for a number below the power of the base. -/
theorem read?_lt (is : read? base cs = some n) : n < Nat.pow base cs.length := by
  obtain ⟨-, values, read, rfl⟩ := read?_eq_some_iff.1 is
  obtain ⟨length, digits⟩ := digits_of_mapM read
  rw [← length, ← Nat.zero_add values.length]
  exact foldl_lt digits Nat.one_pos

/-! ## Zeros -/

/-- A digit behind a row makes the last place. -/
theorem read?_concat (front : read? base cs = some n) (last : digitIn? base c = some d) :
    read? base (cs ++ [c]) = some (n * base + d) := by
  obtain ⟨-, values, read, rfl⟩ := read?_eq_some_iff.1 front
  refine read?_eq_some_iff.2 ⟨by simp, values ++ [d], ?_, ?_⟩
  · simp [List.mapM_append, read, last]
  · rw [ofValues, List.foldl_append]
    rfl

/-- Zero is a digit in every base. -/
theorem digitIn?_zero (positive : 0 < base) : digitIn? base '0' = some 0 := by
  rw [digitIn?, Option.filter_eq_some_iff]
  exact ⟨rfl, decide_eq_true positive⟩

/-- **Zeros** in front of a row do not count. -/
theorem read?_zeros_append (positive : 0 < base) (row : read? base cs = some n) (k : Nat) :
    read? base (List.replicate k '0' ++ cs) = some n := by
  obtain ⟨some, values, read, rfl⟩ := read?_eq_some_iff.1 row
  induction k with
  | zero => exact row
  | succ k ih =>
    obtain ⟨-, more, readMore, same⟩ := read?_eq_some_iff.1 ih
    refine read?_eq_some_iff.2 ⟨by simp, 0 :: more, ?_, ?_⟩
    · simp [List.replicate_succ, digitIn?_zero positive, readMore]
    · rw [← same, ofValues, List.foldl_cons, Nat.zero_mul]
      rfl

/-! ## Numerals -/

/-- The value of a written digit is the digit. -/
theorem digitValue?_digitChar : ∀ d < 16, digitValue? (Nat.digitChar d) = some d := by
  decide

/-- The same in a base that has the digit. -/
theorem digitIn?_digitChar (small : d < base) (most : base ≤ 16) :
    digitIn? base (Nat.digitChar d) = some d := by
  rw [digitIn?, digitValue?_digitChar d (by omega), Option.filter_some, if_pos (decide_eq_true small)]

/-- **Numerals** are read as the numbers that they are numerals of. -/
theorem read?_toDigits (positional : 1 < base) (most : base ≤ 16) (n : Nat) :
    read? base (Nat.toDigits base n) = some n := by
  induction n using Nat.strongRecOn with
  | ind n ih =>
    rw [Nat.toDigits_eq_if positional]
    split
    · next small =>
      refine read?_eq_some_iff.2 ⟨by simp, [n], ?_, ?_⟩
      · simp [digitIn?_digitChar small most]
      · simp [ofValues]
    · next large =>
      have last := digitIn?_digitChar (Nat.mod_lt n (by omega)) most
      rw [read?_concat (ih (n / base) (Nat.div_lt_self (by omega) positional)) last,
        Nat.div_add_mod']

/-- A numeral that is filled up with zeros is read as its number. -/
theorem read?_padded (positional : 1 < base) (most : base ≤ 16) (width n : Nat) :
    read? base (padded width (Nat.toDigits base n)) = some n :=
  read?_zeros_append (by omega) (read?_toDigits positional most n) _

/-! ## Case -/

/-- The case of a digit does not matter. -/
theorem digitIn?_toLower (base : Nat) (c : Char) : digitIn? base c.toLower = digitIn? base c := by
  have value : digitValue? c.toLower = digitValue? c := Text.comp_toLower (by decide) c
  rw [digitIn?, value, digitIn?]

/-- **Case**: digits that are letters may be of either case. -/
theorem read?_map_toLower (base : Nat) (cs : List Char) :
    read? base (cs.map Char.toLower) = read? base cs := by
  have digits : digitIn? base ∘ Char.toLower = digitIn? base := funext (digitIn?_toLower base)
  rw [read?, read?, List.isEmpty_map, List.mapM_map, digits]

end Reading

end FilterScript.Numeral
