import FilterScript.Color.Literal
import FilterScript.Path

/-!
# Texts on one line

A text is on one line if it holds no line feed. What the library writes by itself is: numbers in
every notation and literals of colors. A resolved path is on one line if the path and the working
directory are.

* **Resolved paths** (`isOneLine_resolve`): resolving brings in no character that neither path
  has, slashes apart.
* **Colors** (`isOneLine_of_parse_eq_ok`): whatever a color is read from, its literal is on one
  line.
-/

namespace FilterScript

namespace Text

/-- Whether a text holds no line feed. -/
def IsOneLine (s : String) : Prop :=
  '\n' ∉ s.toList

instance (s : String) : Decidable (IsOneLine s) :=
  inferInstanceAs (Decidable ('\n' ∉ s.toList))

/-- Two texts together are on one line when both are. -/
theorem isOneLine_append {s t : String} :
    IsOneLine (s ++ t) ↔ IsOneLine s ∧ IsOneLine t := by
  rw [IsOneLine, String.toList_append, List.mem_append, not_or]
  rfl

/-- The condition on the characters. -/
theorem isOneLine_ofList {cs : List Char} : IsOneLine (String.ofList cs) ↔ '\n' ∉ cs := by
  rw [IsOneLine, String.toList_ofList]

/-- What is split at a character does not hold it. -/
theorem not_mem_of_mem_splitOn {cs piece : List Char} {separator : Char}
    (h : piece ∈ cs.splitOn separator) : separator ∉ piece := by
  induction cs generalizing piece with
  | nil =>
    rw [List.splitOn_nil, List.mem_singleton] at h
    rw [h]
    exact List.not_mem_nil
  | cons c rest ih =>
    rw [List.splitOn_cons_eq_if_modifyHead] at h
    split at h
    · rcases List.mem_cons.1 h with rfl | behind
      · exact List.not_mem_nil
      · exact ih behind
    · next other =>
      obtain ⟨head, pieces, split⟩ := List.exists_cons_of_ne_nil (List.splitOn_ne_nil separator rest)
      rw [split, List.modifyHead_cons] at h
      rw [split] at ih
      rcases List.mem_cons.1 h with rfl | behind
      · rw [List.mem_cons, not_or]
        exact ⟨fun same => other (beq_iff_eq.2 same.symm), ih List.mem_cons_self⟩
      · exact ih (List.mem_cons_of_mem _ behind)

/-- What is not in a separator is between separators. -/
theorem mem_intercalate_iff {separator : List Char} {c : Char} (between : c ∉ separator)
    {pieces : List (List Char)} :
    c ∈ separator.intercalate pieces ↔ ∃ piece ∈ pieces, c ∈ piece := by
  induction pieces with
  | nil => simp
  | cons piece pieces ih =>
    cases pieces with
    | nil => simp
    | cons next pieces =>
      rw [List.intercalate_cons_cons, List.mem_append, List.mem_append, ih, or_iff_left between]
      simp only [List.mem_cons, exists_eq_or_imp]

/-- Texts with a separator between them are on one line if each of them is. -/
theorem isOneLine_intercalate {separator : String} (between : IsOneLine separator)
    {texts : List String} :
    IsOneLine (separator.intercalate texts) ↔ ∀ t ∈ texts, IsOneLine t := by
  rw [IsOneLine, String.toList_intercalate, mem_intercalate_iff between]
  simp [IsOneLine]

end Text

/-! ## Numbers -/

namespace Numeral

/-- No digit is a line feed, in small letters or in capital ones. -/
theorem digitChar_ne_lineFeed : ∀ d < 16,
    Nat.digitChar d ≠ '\n' ∧ (Nat.digitChar d).toUpper ≠ '\n' := by
  decide

/-- Digits hold no line feed. -/
theorem lineFeed_not_mem_digits (n : Nat) : '\n' ∉ digits n := by
  intro h
  obtain ⟨d, small, lineFeed⟩ := exists_digitChar_of_mem_toDigits (by decide) h
  exact (digitChar_ne_lineFeed d (by omega)).1 lineFeed.symm

/-- The decimal numeral of a whole number is on one line. -/
theorem isOneLine_integerText (n : Int) : Text.IsOneLine (integerText n) := by
  rw [integerText, Text.isOneLine_ofList]
  cases n with
  | ofNat n => exact lineFeed_not_mem_digits n
  | negSucc n =>
    rw [integer, List.mem_cons, not_or]
    exact ⟨by decide, lineFeed_not_mem_digits (n + 1)⟩

/-- Hexadecimal digits hold no line feed. -/
theorem lineFeed_not_mem_hexadecimalCapital (width n : Nat) :
    '\n' ∉ hexadecimalCapital width n := by
  intro h
  obtain ⟨c, filled, upper⟩ := List.mem_map.1 h
  rcases List.mem_append.1 filled with zero | digit
  · rw [List.eq_of_mem_replicate zero] at upper
    exact absurd upper (by decide)
  · obtain ⟨d, small, rfl⟩ := exists_digitChar_of_mem_toDigits (by decide) digit
    exact (digitChar_ne_lineFeed d small).2 upper

end Numeral

namespace Decimal

/-- A point adds no line feed. -/
theorem lineFeed_not_mem_withPoint {digits : List Char} (h : '\n' ∉ digits) (places : Nat) :
    '\n' ∉ withPoint digits places := by
  have row : '\n' ∉ List.replicate (places + 1 - digits.length) '0' ++ digits := by
    rw [List.mem_append, not_or]
    exact ⟨fun zero => absurd (List.eq_of_mem_replicate zero) (by decide), h⟩
  intro lineFeed
  rcases List.mem_append.1 lineFeed with front | back
  · exact row (List.mem_of_mem_take front)
  · rcases List.mem_cons.1 back with point | behind
    · exact absurd point (by decide)
    · exact row (List.mem_of_mem_drop behind)

/-- A printed decimal holds no line feed. -/
theorem lineFeed_not_mem_positional (d : Decimal) : '\n' ∉ d.positional := by
  have digits : '\n' ∉ d.digits := Numeral.lineFeed_not_mem_digits d.coefficient
  unfold positional
  split
  · rw [List.mem_append, not_or]
    exact ⟨digits, fun zero => absurd (List.eq_of_mem_replicate zero) (by decide)⟩
  · exact lineFeed_not_mem_withPoint digits _

/-- The notation for scripts is on one line. -/
theorem isOneLine_plain (d : Decimal) : Text.IsOneLine d.plain := by
  have sign : '\n' ∉ d.sign := by
    unfold sign
    split <;> decide
  have withPoint : '\n' ∉ d.positionalWithPoint := by
    unfold positionalWithPoint
    split
    · exact lineFeed_not_mem_positional d
    · rw [List.mem_append, not_or]
      exact ⟨lineFeed_not_mem_positional d, by decide⟩
  rw [plain, Text.isOneLine_ofList, List.mem_append, not_or]
  refine ⟨sign, ?_⟩
  split
  · exact lineFeed_not_mem_positional d
  · exact withPoint

end Decimal

/-- A fractional number is written on one line. -/
theorem Binary64.isOneLine_plainText (x : Binary64) : Text.IsOneLine x.plainText := by
  cases x with
  | nan => decide
  | infinite negative => cases negative <;> decide
  | finite negative mantissa exponent canonical => exact Decimal.isOneLine_plain _

/-- Every value but a text is written on one line. -/
theorem Arg.isOneLine_scriptText {a : Arg} (noText : a.isText = false) {s : String}
    (written : a.scriptText? = some s) : Text.IsOneLine s := by
  cases a with
  | bool b =>
    cases b
    · obtain rfl := Option.some.inj written
      decide
    · obtain rfl := Option.some.inj written
      decide
  | int n =>
    obtain ⟨-, rfl⟩ := scriptText?_int_eq_some_iff.1 written
    exact Numeral.isOneLine_integerText n
  | float x =>
    obtain rfl := Option.some.inj written
    exact Binary64.isOneLine_plainText x
  | text t => cases noText
  | omitted => cases written

/-! ## Colors -/

namespace Color

/-- A color literal is on one line. -/
theorem isOneLine_literal (n : Int) : Text.IsOneLine (literal n) := by
  rw [literal, Text.isOneLine_ofList, List.mem_cons, not_or]
  refine ⟨by decide, ?_⟩
  unfold hexadecimal
  split
  · rw [List.mem_cons, not_or]
    exact ⟨by decide, Numeral.lineFeed_not_mem_hexadecimalCapital _ _⟩
  · exact Numeral.lineFeed_not_mem_hexadecimalCapital _ _

/-- What a value is read as is the literal of some number. -/
theorem exists_literal_of_parse_eq_ok {value : Value} {s : String}
    (h : parse value = .ok s) : ∃ n, s = literal n := by
  have ofInt {n : Int} (read : ofInt n = .ok s) : ∃ n, s = literal n :=
    ⟨n, (ofInt_eq_ok_iff.1 read).2.2.symm⟩
  unfold parse at h
  split at h
  · exact ofInt h
  · split at h
    · exact ofInt h
    · cases h
  · split at h
    · next n _ => exact ⟨n, (Except.ok.inj h).symm⟩
    · cases h
  · cases h

/-- **Colors**: the literal of a color is on one line. -/
theorem isOneLine_of_parse_eq_ok {value : Value} {s : String} (h : parse value = .ok s) :
    Text.IsOneLine s := by
  obtain ⟨n, rfl⟩ := exists_literal_of_parse_eq_ok h
  exact isOneLine_literal n

end Color

/-! ## Paths -/

namespace Path

/-- Normalization makes up no segments. -/
theorem mem_of_mem_foldl_push {segments done : List (List Char)} {s : List Char}
    (h : s ∈ segments.foldl push done) : s ∈ segments ∨ s ∈ done := by
  induction segments generalizing done with
  | nil => exact .inr h
  | cons segment rest ih =>
    rcases ih h with behind | before
    · exact .inl (List.mem_cons_of_mem _ behind)
    · unfold push at before
      split at before
      · exact .inr before
      · split at before
        · exact .inr (List.mem_of_mem_drop before)
        · rcases List.mem_cons.1 before with rfl | before
          · exact .inl List.mem_cons_self
          · exact .inr before

/-- A path leads through pieces of it. -/
theorem mem_splitOn_of_mem_segmentsOf {cs s : List Char} (h : s ∈ segmentsOf cs) :
    s ∈ cs.splitOn '/' :=
  (mem_of_mem_foldl_push (List.mem_reverse.1 h)).resolve_right List.not_mem_nil

/-- A normal form has no character that the path does not have, slashes apart. -/
theorem mem_of_mem_normalize {cs : List Char} {c : Char} (slash : c ≠ '/')
    (h : c ∈ normalize cs) : c ∈ cs := by
  have between : c ∉ ['/'] := fun e => slash (List.mem_singleton.1 e)
  rcases List.mem_append.1 h with front | segments
  · unfold leadingSlashes at front
    split at front <;> simp [slash] at front
  · obtain ⟨segment, leads, inside⟩ := (Text.mem_intercalate_iff between).1 segments
    have whole : ['/'].intercalate (cs.splitOn '/') = cs := List.intercalate_splitOn '/'
    rw [← whole, Text.mem_intercalate_iff between]
    exact ⟨segment, mem_splitOn_of_mem_segmentsOf leads, inside⟩

/-- A joined path has only the characters of its two parts. -/
theorem mem_of_mem_join {directory path : List Char} {c : Char} (slash : c ≠ '/')
    (h : c ∈ join directory path) : c ∈ directory ∨ c ∈ path := by
  unfold join at h
  split at h
  · exact .inr h
  · split at h
    · exact List.mem_append.1 h
    · rcases List.mem_append.1 h with front | behind
      · exact .inl front
      · exact .inr ((List.mem_cons.1 behind).resolve_left slash)

/-- **Resolved paths**: a resolved path is on one line if the path and the directory that it is
relative to are. -/
theorem isOneLine_resolve {directory path : String} (here : Text.IsOneLine directory)
    (there : Text.IsOneLine path) : Text.IsOneLine (resolve directory path) := by
  rw [resolve, Text.isOneLine_ofList]
  intro lineFeed
  rcases mem_of_mem_join (by decide) (mem_of_mem_normalize (by decide) lineFeed) with h | h
  · exact here h
  · exact there h

end Path

end FilterScript
