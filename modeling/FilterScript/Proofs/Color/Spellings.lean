import FilterScript.Proofs.Color.Literals

/-!
# Spellings of colors

A color can be given in many ways. Its number may be written with a sign for hexadecimal digits or none, of two
equal digits one may be left out, and the case of letters and blanks around the text are for the writer to
choose.

* **Literals** (`exists_digits_of_ofInt`): the digits of a literal are read as the number that it is for.
* **Case and blanks** (`levels?_of_isRespelled`): neither the case of ASCII letters nor blanks around a text have
  to do with the color that it stands for, whether it is written in digits, by name or as in style sheets.
* **Signs** (`levels?_of_isDigitsOf`): six digits stand for their number behind each sign, and so do three that
  count twice.
* **Spellings** (`parse_spellings`): all ways to give a color lead to one literal.
-/

namespace FilterScript

/-! ## Digits -/

namespace Numeral

/-- A padded hexadecimal form has nothing but digits. -/
theorem exists_digitChar_of_mem_hexadecimal {width n : Nat} {c : Char} (h : c ∈ hexadecimal width n) :
    ∃ d < 16, c = Nat.digitChar d := by
  rcases List.mem_append.1 h with zero | digit
  · exact ⟨0, by decide, List.eq_of_mem_replicate zero⟩
  · exact exists_digitChar_of_mem_toDigits (by decide) digit

/-- What leaves the sixteen digits as they are leaves numerals as they are. -/
theorem map_hexadecimal {f : Char → Char} (same : ∀ d < 16, f (Nat.digitChar d) = Nat.digitChar d)
    (width n : Nat) : (hexadecimal width n).map f = hexadecimal width n := by
  have digit : ∀ c ∈ hexadecimal width n, f c = c := by
    intro c inside
    obtain ⟨d, small, rfl⟩ := exists_digitChar_of_mem_hexadecimal inside
    exact same d small
  rw [List.map_congr_left digit]
  exact List.map_id _

/-- The digits of a numeral in capital letters are the same in small ones. -/
theorem map_toLower_hexadecimalCapital (width n : Nat) :
    (hexadecimalCapital width n).map Char.toLower = hexadecimal width n := by
  rw [hexadecimalCapital, List.map_map, map_hexadecimal (by decide)]

/-- A numeral that is filled up to a width has this width. -/
theorem length_hexadecimal {width n : Nat} (some : 0 < width) (small : n < 16 ^ width) :
    (hexadecimal width n).length = width := by
  have short := (Nat.length_toDigits_le_iff (b := 16) (by decide) some).2 small
  rw [hexadecimal, padded, List.length_append, List.length_replicate]
  omega

/-- The padded form reads back as the number. -/
theorem read?_hexadecimal (width n : Nat) : read? 16 (hexadecimal width n) = some n :=
  read?_padded (by decide) (by decide) width n

end Numeral

namespace Color

/-- **Literals** are digits that are read as the number, as many as three bytes take, or four. -/
theorem exists_digits_of_ofInt {n : Nat} (fits : n ≤ 0xFFFFFFFF) :
    ∃ digits : List Char, ofInt n = .ok (String.ofList ('$' :: digits)) ∧
      digits.length = (if 0xFFFFFF < n then 8 else 6) ∧ Numeral.read? 16 digits = some n := by
  refine ⟨_, ofInt_eq_ok_iff.2 ⟨by omega, by omega, literal_natCast n⟩, ?_, ?_⟩
  · rw [Numeral.hexadecimalCapital, List.length_map]
    split
    · exact Numeral.length_hexadecimal (by decide) (by omega)
    · exact Numeral.length_hexadecimal (by decide) (by omega)
  · rw [← Numeral.read?_map_toLower, Numeral.map_toLower_hexadecimalCapital, Numeral.read?_hexadecimal]

/-! ## Case and blanks -/

/-- The letter of the prefix in either case. -/
theorem toLower_eq_x_iff {c : Char} : (c.toLower = 'x' ∨ c.toLower = 'X') ↔ (c = 'x' ∨ c = 'X') :=
  decide_eq_decide.1 (Text.comp_toLower (f := fun c => decide (c = 'x' ∨ c = 'X')) (by decide) c)

/-- Text without a prefix stays whole. -/
theorem dropHexSign_eq_self {cs : List Char}
    (letters : ∀ c rest, cs = '0' :: c :: rest → c ≠ 'x' ∧ c ≠ 'X')
    (first : ∀ c ∈ cs.head?, c ≠ '#' ∧ c ≠ '$') : dropHexSign cs = cs := by
  unfold dropHexSign
  split
  · next rest => exact absurd rfl (letters 'x' rest rfl).1
  · next rest => exact absurd rfl (letters 'X' rest rfl).2
  · exact absurd rfl (first '#' rfl).1
  · exact absurd rfl (first '$' rfl).2
  · rfl

/-- The sign for hexadecimal digits may hold a capital. -/
theorem dropHexSign_map_toLower (cs : List Char) :
    dropHexSign (cs.map Char.toLower) = (dropHexSign cs).map Char.toLower := by
  rw [dropHexSign.eq_def cs]
  split
  · rfl
  · rfl
  · rfl
  · rfl
  · next small capital number dollar =>
    -- where there is no sign, there is none in small letters either
    apply dropHexSign_eq_self
    · intro x rest split
      obtain ⟨c, _, rfl, zero, split⟩ := List.map_eq_cons_iff.1 split
      obtain ⟨d, more, rfl, rfl, -⟩ := List.map_eq_cons_iff.1 split
      obtain rfl := (Text.toLower_eq_iff (by decide)).1 zero
      rw [← not_or, toLower_eq_x_iff]
      rintro (rfl | rfl)
      · exact small more rfl
      · exact capital more rfl
    · intro c here
      obtain ⟨d, there, rfl⟩ := Option.mem_map.1 (List.head?_map ▸ here)
      obtain ⟨rest, rfl⟩ := List.head?_eq_some_iff.1 there
      constructor
      · intro sign
        obtain rfl := (Text.toLower_eq_iff (by decide)).1 sign
        exact number rest rfl
      · intro sign
        obtain rfl := (Text.toLower_eq_iff (by decide)).1 sign
        exact dollar rest rfl

/-- Hexadecimal colors may be written in either case. -/
theorem ofHexText?_map_toLower (cs : List Char) : ofHexText? (cs.map Char.toLower) = ofHexText? cs := by
  have twice (cs : List Char) : (cs.map Char.toLower).flatMap (fun c => [c, c]) =
      (cs.flatMap fun c => [c, c]).map Char.toLower := by
    rw [List.flatMap_map, List.map_flatMap]
    rfl
  rw [ofHexText?, dropHexSign_map_toLower, ofHexDigits?, List.length_map, twice, Numeral.read?_map_toLower,
    Numeral.read?_map_toLower]
  rfl

/-- So may all color texts. -/
theorem ofStyle?_map_toLower (cs : List Char) : ofStyle? (cs.map Char.toLower) = ofStyle? cs := by
  have small := Text.smallFrom_map_toLower [] cs
  rw [List.map_nil] at small
  rw [ofStyle?, List.length_map, small]
  rfl

/-- Whether a text is written with some characters, ASCII letters in either case and blanks around
them. -/
def IsRespelled (cs : List Char) (s : String) : Prop :=
  ∃ front middle back : List Char, front.all Text.isBlank = true ∧ back.all Text.isBlank = true ∧
    middle.map Char.toLower = cs.map Char.toLower ∧ s.toList = front ++ middle ++ back

/-- A respelling is the same text once trimmed and written small. -/
theorem IsRespelled.map_toLower_trim {cs : List Char} {s : String} (respelled : IsRespelled cs s) :
    (Text.trim s.toList).map Char.toLower = (Text.trim cs).map Char.toLower := by
  obtain ⟨front, middle, back, before, behind, same, whole⟩ := respelled
  rw [whole, Text.trim_append_blank (List.all_eq_true.1 behind),
    Text.trim_append_of_blank (List.all_eq_true.1 before), ← Text.trim_map_toLower, same,
    Text.trim_map_toLower]

/-- **Case and blanks** do not change the color. -/
theorem levels?_of_isRespelled {s t : String} (respelled : IsRespelled s.toList t) :
    levels? t = levels? s := by
  have same := respelled.map_toLower_trim
  unfold levels?
  rw [← ofHexText?_map_toLower, same, ofHexText?_map_toLower, ← ofStyle?_map_toLower, same,
    ofStyle?_map_toLower]

/-! ## Signs -/

/-- The signs for hexadecimal digits, and none. -/
def hexSigns : List (List Char) :=
  [[], ['0', 'x'], ['#'], ['$']]

/-- Whether characters are the digits of a number of three bytes: all six, or one of each two that
are equal. -/
inductive IsDigitsOf (n : Nat) : List Char → Prop
  | six : IsDigitsOf n (Numeral.hexadecimal 6 n)
  | three {cs : List Char} (twice : (cs.flatMap fun c => [c, c]) = Numeral.hexadecimal 6 n) : IsDigitsOf n cs

/-- Digits in either case are digits once written small. -/
theorem IsDigitsOf.exists_digitChar {n : Nat} {cs : List Char} (digits : IsDigitsOf n cs) :
    ∀ c ∈ cs, ∃ d < 16, c = Nat.digitChar d := by
  intro c inside
  cases digits with
  | six => exact Numeral.exists_digitChar_of_mem_hexadecimal inside
  | three twice =>
    have double : c ∈ cs.flatMap fun c => [c, c] := List.mem_flatMap.2 ⟨c, inside, List.mem_cons_self⟩
    exact Numeral.exists_digitChar_of_mem_hexadecimal (twice ▸ double)

/-- The digits of a number of 24 bits give that number. -/
theorem ofHexDigits?_of_isDigitsOf {n : Nat} (fits : n ≤ 0xFFFFFF) {cs : List Char}
    (digits : IsDigitsOf n cs) : ofHexDigits? cs = some n := by
  have length : (Numeral.hexadecimal 6 n).length = 6 :=
    Numeral.length_hexadecimal (by decide) (by omega)
  cases digits with
  | six => rw [ofHexDigits?, length, if_neg (by decide), if_pos rfl, Numeral.read?_hexadecimal]
  | three twice =>
    have three : cs.length = 3 := by
      rw [← twice, List.length_flatMap] at length
      simp at length
      omega
    rw [ofHexDigits?, if_pos three, twice, Numeral.read?_hexadecimal]

/-- No digit is blank or part of a prefix. -/
theorem digitChar_ne_sign : ∀ d < 16, Text.isBlank (Nat.digitChar d) = false ∧
    (Nat.digitChar d ≠ 'x' ∧ Nat.digitChar d ≠ 'X') ∧ Nat.digitChar d ≠ '#' ∧ Nat.digitChar d ≠ '$' := by
  decide

/-- A sign in front of digits is told from them. -/
theorem dropHexSign_append {sign cs : List Char} (isSign : sign ∈ hexSigns)
    (digits : ∀ c ∈ cs, ∃ d < 16, c = Nat.digitChar d) : dropHexSign (sign ++ cs) = cs := by
  have noSign : ∀ c ∈ cs, (c ≠ 'x' ∧ c ≠ 'X') ∧ c ≠ '#' ∧ c ≠ '$' := by
    intro c inside
    obtain ⟨d, small, rfl⟩ := digits c inside
    exact (digitChar_ne_sign d small).2
  simp only [hexSigns, List.mem_cons, List.not_mem_nil, or_false] at isSign
  rcases isSign with rfl | rfl | rfl | rfl
  · rw [List.nil_append]
    apply dropHexSign_eq_self
    · rintro c rest rfl
      exact (noSign c (List.mem_cons_of_mem '0' List.mem_cons_self)).1
    · exact fun c first => (noSign c (List.mem_of_mem_head? first)).2
  · rfl
  · rfl
  · rfl

/-- **Signs**: digits stand for their number behind each sign. -/
theorem levels?_of_isDigitsOf {n : Nat} (fits : n ≤ 0xFFFFFF) {sign cs : List Char}
    (isSign : sign ∈ hexSigns) (digits : IsDigitsOf n cs) :
    levels? (String.ofList (sign ++ cs)) = some (.ofNumber n) := by
  have noBlank : ∀ c ∈ sign ++ cs, Text.isBlank c = false := by
    intro c inside
    rcases List.mem_append.1 inside with front | digit
    · have none : hexSigns.flatten.all (fun c => !Text.isBlank c) = true := rfl
      simpa using List.all_eq_true.1 none c (List.mem_flatten_of_mem isSign front)
    · obtain ⟨d, small, rfl⟩ := digits.exists_digitChar c digit
      exact (digitChar_ne_sign d small).1
  have trimmed : Text.trim (sign ++ cs) = sign ++ cs :=
    Text.trim_of_isTrimmed ⟨fun c first => noBlank c (List.mem_of_mem_head? first),
      fun c last => noBlank c (List.mem_of_getLast? last)⟩
  rw [levels?, String.toList_ofList, trimmed, ofHexText?, dropHexSign_append isSign digits.exists_digitChar,
    ofHexDigits?_of_isDigitsOf fits digits]

/-! ## Spellings -/

/-- A color is written in the same way however it is spelled. -/
theorem parse_of_isRespelled {s t : String} (respelled : IsRespelled s.toList t) :
    (parse (.text t)).toOption = (parse (.text s)).toOption := by
  rw [parse_text, parse_text, levels?_of_isRespelled respelled]
  cases levels? s <;> rfl

/-- A prefix and the digits of a number, in any spelling, are read as that number. -/
theorem parse_of_isDigitsOf {n : Nat} (fits : n ≤ 0xFFFFFF) {sign digits : List Char}
    (isSign : sign ∈ hexSigns) (isDigits : IsDigitsOf n digits) {s : String}
    (respelled : IsRespelled (sign ++ digits) s) : parse (.text s) = .ok (literal n) := by
  have given := levels?_of_isDigitsOf fits isSign isDigits
  rw [← String.toList_ofList (l := sign ++ digits)] at respelled
  rw [parse_text, levels?_of_isRespelled respelled, given, ← Levels.number_ofNumber n]

/-- **Spellings**: the literal of a number has its digits, so no two numbers have one literal. Up to
three bytes the literal is also that of its digits as text, all six or one of each two that are
equal, behind any sign for them, in any case and with any blanks around them, and the literal of
itself. As regards all other texts, neither case nor blanks make a difference to whether they are
colors and to their literals. -/
theorem parse_spellings :
    (∀ n : Nat, n ≤ 0xFFFFFFFF → ∃ digits : List Char,
      parse (.int n) = .ok (String.ofList ('$' :: digits)) ∧
        digits.length = (if 0xFFFFFF < n then 8 else 6) ∧ Numeral.read? 16 digits = some n) ∧
    (∀ m n : Nat, m ≤ 0xFFFFFFFF → n ≤ 0xFFFFFFFF → parse (.int m) = parse (.int n) → m = n) ∧
    (∀ n : Nat, n ≤ 0xFFFFFF → ∃ literal, parse (.int n) = .ok literal ∧
      parse (.text literal) = .ok literal ∧
      ∀ sign ∈ hexSigns, ∀ digits s, IsDigitsOf n digits → IsRespelled (sign ++ digits) s →
        parse (.text s) = .ok literal) ∧
    ∀ s t, IsRespelled s.toList t → (parse (.text t)).toOption = (parse (.text s)).toOption := by
  refine ⟨fun n fits => exists_digits_of_ofInt fits, ?_, ?_, fun s t => parse_of_isRespelled⟩
  · intro m n m_fits n_fits same
    obtain ⟨digits, written, -, read⟩ := exists_digits_of_ofInt m_fits
    obtain ⟨others, writtenToo, -, readToo⟩ := exists_digits_of_ofInt n_fits
    have texts : String.ofList ('$' :: digits) = String.ofList ('$' :: others) :=
      Except.ok.inj (written.symm.trans (same.trans writtenToo))
    obtain rfl : digits = others := List.tail_eq_of_cons_eq (String.ofList_injective texts)
    exact Option.some.inj (read.symm.trans readToo)
  · intro n fits
    refine ⟨literal n, ofInt_eq_ok_iff.2 ⟨by omega, by omega, rfl⟩, ?_, ?_⟩
    · have isSign : ['$'] ∈ hexSigns := by decide
      refine parse_of_isDigitsOf fits isSign .six ⟨[], (literal n).toList, [], ?_⟩
      have small := Numeral.map_hexadecimal (f := Char.toLower) (by decide) 6 n
      rw [literal_natCast, if_neg (by omega), String.toList_ofList, List.append_nil]
      simp [small, Numeral.map_toLower_hexadecimalCapital]
    · intro sign isSign digits s isDigits respelled
      exact parse_of_isDigitsOf fits isSign isDigits respelled

/-- Three digits behind a sign, with capitals and blanks, and a name. -/
theorem parse_spellings_yellow :
    parse (.int 0xFFFF00) = .ok "$FFFF00" ∧ parse (.text "\t0XfF0 ") = .ok "$FFFF00" ∧
      (parse (.text " YelLow")).toOption = (parse (.text "yellow")).toOption := by
  obtain ⟨-, -, numbers, texts⟩ := parse_spellings
  obtain ⟨literal, written, -, digits⟩ := numbers 0xFFFF00 (by decide)
  have yellow : parse (.int 0xFFFF00) = .ok "$FFFF00" :=
    ofInt_eq_ok_iff.2 ⟨by decide, by decide, by decide +kernel⟩
  obtain rfl := Except.ok.inj (written.symm.trans yellow)
  refine ⟨yellow, digits ['0', 'x'] (by decide) ['f', 'f', '0'] _ (.three rfl) ?_, texts _ _ ?_⟩
  · exact ⟨['\t'], ['0', 'X', 'f', 'F', '0'], [' '], rfl, rfl, rfl, rfl⟩
  · exact ⟨[' '], ['Y', 'e', 'l', 'L', 'o', 'w'], [], rfl, rfl, rfl, rfl⟩

end Color

end FilterScript
