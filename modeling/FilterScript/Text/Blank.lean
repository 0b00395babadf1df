/-!
# White space and trimming

White space is the Unicode class, the separators of files, groups, records and units among it; zero
width spaces and the byte order mark are not in it. The main statements say that trimming leaves no
blank at either end and does nothing to a text that has none there.
-/

namespace FilterScript.Text

/-! ## The class -/

/-- Whether a character is white space. -/
def isBlank (c : Char) : Bool :=
  let n := c.toNat
  (0x09 ≤ n && n ≤ 0x0D) || (0x1C ≤ n && n ≤ 0x20) || n == 0x85 || n == 0xA0 || n == 0x1680 ||
    (0x2000 ≤ n && n ≤ 0x200A) || n == 0x2028 || n == 0x2029 || n == 0x202F || n == 0x205F ||
    n == 0x3000

/-- Whether a text holds nothing but white space. -/
def isBlankText (s : String) : Bool :=
  s.toList.all isBlank

/-! ## Trimming -/

/-- Drops the blanks in front. -/
def trimStart (cs : List Char) : List Char :=
  cs.dropWhile isBlank

/-- Drops the blanks at the end. -/
def trimEnd (cs : List Char) : List Char :=
  (cs.reverse.dropWhile isBlank).reverse

/-- Drops the blanks at both ends. -/
def trim (cs : List Char) : List Char :=
  trimEnd (trimStart cs)

/-- The text without the blanks at its ends. -/
def trimmed (s : String) : String :=
  String.ofList (trim s.toList)

/-- Trimming a text trims its characters. -/
theorem toList_trimmed (s : String) : (trimmed s).toList = trim s.toList := by
  simp [trimmed]

/-- Whether neither end of a text is blank. -/
def IsTrimmed (cs : List Char) : Prop :=
  (∀ c, cs.head? = some c → isBlank c = false) ∧ (∀ c, cs.getLast? = some c → isBlank c = false)

instance (cs : List Char) : Decidable (IsTrimmed cs) :=
  decidable_of_iff
    ((cs.head?.all fun c => !isBlank c) = true ∧ (cs.getLast?.all fun c => !isBlank c) = true)
    (by simp [IsTrimmed, Option.all_eq_true])

/-- Nothing has no blanks at its ends. -/
theorem isTrimmed_nil : IsTrimmed [] :=
  ⟨fun _ absent => (nomatch absent), fun _ absent => nomatch absent⟩

/-- Nothing is left of nothing. -/
theorem trim_nil : trim [] = [] := rfl

/-- Trimming the end leaves a beginning. -/
theorem trimEnd_prefix (cs : List Char) : trimEnd cs <+: cs := by
  have h := List.reverse_prefix.2 (List.dropWhile_suffix isBlank (l := cs.reverse))
  rwa [List.reverse_reverse] at h

/-- Trimming only takes characters away. -/
theorem mem_of_mem_trim {cs : List Char} {c : Char} (h : c ∈ trim cs) : c ∈ cs := by
  have kept := trimEnd_prefix (trimStart cs)
  exact (List.dropWhile_sublist isBlank).mem (kept.mem h)

/-- Dropping blanks in front drops no other character. -/
theorem count_dropWhile_isBlank {c : Char} (h : isBlank c = false) (cs : List Char) :
    (cs.dropWhile isBlank).count c = cs.count c := by
  induction cs with
  | nil => rfl
  | cons d rest ih =>
    by_cases blank : isBlank d = true
    · have other : d ≠ c := fun same => Bool.noConfusion (h.symm.trans (same ▸ blank))
      rw [List.dropWhile_cons_of_pos blank, ih, List.count_cons_of_ne other]
    · rw [List.dropWhile_cons_of_neg blank]

/-- Trimming takes only blanks away. -/
theorem count_trim {c : Char} (h : isBlank c = false) (cs : List Char) :
    (trim cs).count c = cs.count c := by
  rw [trim, trimEnd, List.count_reverse, count_dropWhile_isBlank h, List.count_reverse, trimStart,
    count_dropWhile_isBlank h]

/-- Trimming makes nothing longer. -/
theorem length_trim_le (cs : List Char) : (trim cs).length ≤ cs.length := by
  have kept := trimEnd_prefix (trimStart cs)
  exact Nat.le_trans kept.length_le (List.dropWhile_sublist isBlank).length_le

/-- Blanks in front do not count. -/
theorem trim_append_of_blank {blanks : List Char} (h : ∀ c ∈ blanks, isBlank c = true)
    (cs : List Char) : trim (blanks ++ cs) = trim cs := by
  rw [trim, trimStart, List.dropWhile_append_of_pos h, trim, trimStart]

/-- Blanks at the end do not count. -/
theorem trim_append_blank {blanks : List Char} (h : ∀ c ∈ blanks, isBlank c = true)
    (cs : List Char) : trim (cs ++ blanks) = trim cs := by
  have ends (cs : List Char) : trimEnd (cs ++ blanks) = trimEnd cs := by
    have reversed : ∀ c ∈ blanks.reverse, isBlank c = true := fun c hc => h c (List.mem_reverse.1 hc)
    rw [trimEnd, List.reverse_append, List.dropWhile_append_of_pos reversed, trimEnd]
  rw [trim, trim, trimStart, trimStart, List.dropWhile_append]
  split
  · next none =>
    have all : blanks.dropWhile isBlank = [] := by
      rw [← List.append_nil blanks, List.dropWhile_append_of_pos h, List.dropWhile_nil]
    rw [all, List.isEmpty_iff.1 none]
  · exact ends _

/-- Trimming leaves no blank at either end. -/
theorem isTrimmed_trim (cs : List Char) : IsTrimmed (trim cs) := by
  constructor
  · intro c hc
    obtain ⟨back, hback⟩ := trimEnd_prefix (trimStart cs)
    have front : (trimStart cs).head? = some c := by
      rw [← hback, List.head?_append, show (trimEnd (trimStart cs)).head? = some c from hc]
      rfl
    have head := List.head?_dropWhile_not isBlank cs
    rw [show (cs.dropWhile isBlank).head? = some c from front] at head
    simpa using head
  · intro c hc
    have last := List.head?_dropWhile_not isBlank (trimStart cs).reverse
    rw [trim, trimEnd, List.getLast?_reverse] at hc
    rw [hc] at last
    simpa using last

/-- Without a blank in front nothing is trimmed there. -/
theorem trimStart_of_head? {cs : List Char} (h : ∀ c, cs.head? = some c → isBlank c = false) :
    trimStart cs = cs := by
  cases cs with
  | nil => rfl
  | cons c r => simp [trimStart, h c rfl]

/-- Trimming does nothing where there is nothing to trim. -/
theorem trim_of_isTrimmed {cs : List Char} (h : IsTrimmed cs) : trim cs = cs := by
  rw [trim, trimStart_of_head? h.1, trimEnd]
  cases hr : cs.reverse with
  | nil => simp_all
  | cons c r =>
    have last : cs.getLast? = some c := by
      rw [List.getLast?_eq_head?_reverse, hr]; rfl
    rw [List.dropWhile_cons_of_neg (by simp [h.2 c last]), ← hr, List.reverse_reverse]

/-- Trimming twice is trimming once. -/
theorem trimmed_trimmed (s : String) : trimmed (trimmed s) = trimmed s := by
  rw [trimmed, toList_trimmed, trim_of_isTrimmed (isTrimmed_trim s.toList)]
  rfl

end FilterScript.Text
