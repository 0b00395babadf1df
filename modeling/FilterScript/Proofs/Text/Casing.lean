import FilterScript.Text.Blank
import FilterScript.Text.Casing

/-!
# Small letters

The small form of a text is looked up where the text itself does not have to agree.

* **Underscores** (`head?_small_eq_underscore_iff`): whether a name is looked up at all is a matter of its first
  character as it stands, and the small form agrees with it. The underscore is the small form of itself, of no
  other character, and the small form of a character is never empty.
* **Case** (`smallFrom_map_toLower`, `trim_map_toLower`): neither the small form of a text nor its blanks depend
  on the case of its ASCII letters.
* **ASCII** (`small_eq_iff`): a text of ASCII letters is the small form of texts of ASCII letters only, if it has
  no k in it, which is the small form of a letter of its own.
-/

namespace FilterScript.Text

/-! ## One letter -/

/-- The capitals above ASCII have no small letter as low as the underscore. -/
theorem underscore_lt_of_mem_capitalRuns :
    ∀ run ∈ capitalRuns, 95 < (run.first : Int) + run.distance := by
  decide +kernel

/-- A code point that gives a character other than the first one of all is that of the character. -/
theorem eq_toNat_of_ofNat_eq {n : Nat} {c : Char} (h : Char.ofNat n = c) (positive : c.toNat ≠ 0) :
    n = c.toNat := by
  subst h
  by_cases valid : n.isValidChar
  · rw [Char.ofNat, dif_pos valid]
    rfl
  · rw [Char.ofNat, dif_neg valid] at positive
    exact absurd rfl positive

/-- The capitals, counted. -/
theorem exists_eq_ofNat_of_capital {c : Char} (capital : 'A'.val ≤ c.val ∧ c.val ≤ 'Z'.val) :
    ∃ k < 26, c = Char.ofNat (65 + k) := by
  have low : 65 ≤ c.toNat := UInt32.le_iff_toNat_le.1 capital.1
  have high : c.toNat ≤ 90 := UInt32.le_iff_toNat_le.1 capital.2
  exact ⟨c.toNat - 65, by omega, by rw [Nat.add_sub_cancel' low, Char.ofNat_toNat]⟩

/-- Only the 26 capitals of ASCII have another small letter of one character, so what does not tell
them from their small letters does not tell any character from its small letter. -/
theorem comp_toLower {α : Type} {f : Char → α}
    (capitals : ∀ k < 26, f (Char.ofNat (65 + k)).toLower = f (Char.ofNat (65 + k))) (c : Char) :
    f c.toLower = f c := by
  by_cases capital : 'A'.val ≤ c.val ∧ c.val ≤ 'Z'.val
  · obtain ⟨k, small, rfl⟩ := exists_eq_ofNat_of_capital capital
    exact capitals k small
  · unfold Char.toLower
    rw [dif_neg capital]

/-- A character that is no ASCII letter is the small letter of itself only. -/
theorem toLower_eq_iff {c d : Char}
    (noLetter : ∀ k < 26, (Char.ofNat (65 + k)).toLower ≠ d ∧ Char.ofNat (65 + k) ≠ d) :
    c.toLower = d ↔ c = d := by
  have same := comp_toLower (f := fun c => decide (c = d)) (fun k small => by
    rw [decide_eq_false (noLetter k small).1, decide_eq_false (noLetter k small).2]) c
  exact decide_eq_decide.1 same

/-- No letter becomes an underscore. -/
theorem toLower_eq_underscore_iff {c : Char} : c.toLower = '_' ↔ c = '_' :=
  toLower_eq_iff (by decide)

/-- The small form of a letter begins with an underscore only if the letter is one. -/
theorem exists_smallLetter_eq_cons (c : Char) :
    ∃ d rest, smallLetter c = d :: rest ∧ (d = '_' ↔ c = '_') := by
  unfold smallLetter
  split
  · exact ⟨c.toLower, [], rfl, toLower_eq_underscore_iff⟩
  · next high =>
    have other : c ≠ '_' := by
      rintro rfl
      exact high (by decide)
    split
    · exact ⟨'i', ['\u0307'], rfl, by simp [other]⟩
    · split
      · next run found =>
        refine ⟨_, [], rfl, ?_⟩
        simp only [other, iff_false]
        intro h
        have above := underscore_lt_of_mem_capitalRuns run (List.mem_of_find?_eq_some found)
        have inside := List.find?_some found
        have value := eq_toNat_of_ofNat_eq h (by decide)
        simp only [CapitalRun.contains, Bool.and_eq_true, decide_eq_true_eq] at inside
        have underscore : '_'.toNat = 95 := rfl
        omega
      · exact ⟨c, [], rfl, Iff.rfl⟩

/-! ## Case -/

/-- The case of a letter does not make it blank. -/
theorem isBlank_toLower (c : Char) : isBlank c.toLower = isBlank c :=
  comp_toLower (by decide) c

/-- Trimming and writing small can be exchanged. -/
theorem trim_map_toLower (cs : List Char) : trim (cs.map Char.toLower) = (trim cs).map Char.toLower := by
  have blank : isBlank ∘ Char.toLower = isBlank := funext isBlank_toLower
  rw [trim, trimEnd, trimStart, List.dropWhile_map, blank, ← List.map_reverse, List.dropWhile_map, blank,
    ← List.map_reverse]
  rfl

/-- Both cases of a letter are cased. -/
theorem inRanges_cased_toLower (c : Char) : inRanges casedRanges c.toLower = inRanges casedRanges c :=
  comp_toLower (by decide +kernel) c

/-- The ranges to pass over hold no letter of the basic alphabet. -/
theorem noLetter_of_mem_caseIgnorableRanges : ∀ range ∈ caseIgnorableRanges,
    (range.2 < 65 ∨ 90 < range.1) ∧ (range.2 < 97 ∨ 122 < range.1) := by
  decide +kernel

/-- So such a letter is in none of them. -/
theorem inRanges_caseIgnorable_letter {c : Char}
    (letter : 65 ≤ c.toNat ∧ c.toNat ≤ 90 ∨ 97 ≤ c.toNat ∧ c.toNat ≤ 122) :
    inRanges caseIgnorableRanges c = false := by
  rw [inRanges, List.any_eq_false]
  intro range inside
  have outside := noLetter_of_mem_caseIgnorableRanges range inside
  simp only [Bool.and_eq_true, decide_eq_true_eq]
  omega

/-- A letter and its small form are passed over together. -/
theorem inRanges_caseIgnorable_toLower (c : Char) :
    inRanges caseIgnorableRanges c.toLower = inRanges caseIgnorableRanges c := by
  have letters : ∀ k < 26, (Char.ofNat (65 + k)).toLower.toNat = 97 + k ∧
      (Char.ofNat (65 + k)).toNat = 65 + k := by decide
  refine comp_toLower (fun k small => ?_) c
  obtain ⟨lower, capital⟩ := letters k small
  rw [inRanges_caseIgnorable_letter (.inr (by omega)), inRanges_caseIgnorable_letter (.inl (by omega))]

/-- What is met from a place on does not depend on the case. -/
theorem meetsCased_map_toLower (cs : List Char) : meetsCased (cs.map Char.toLower) = meetsCased cs := by
  induction cs with
  | nil => rfl
  | cons c rest ih =>
    rw [List.map_cons, meetsCased, inRanges_caseIgnorable_toLower, inRanges_cased_toLower, ih, meetsCased]

/-- Both cases of a letter of the basic alphabet have one small form. -/
theorem smallLetter_toLower (c : Char) : smallLetter c.toLower = smallLetter c :=
  comp_toLower (by decide) c

/-- **Case**: the small form of a text is that of the text with other ASCII letters in place of
theirs. -/
theorem smallFrom_map_toLower (before cs : List Char) :
    smallFrom (before.map Char.toLower) (cs.map Char.toLower) = smallFrom before cs := by
  induction cs generalizing before with
  | nil => rfl
  | cons c rest ih =>
    have sigma : (c.toLower = 'Σ') = (c = 'Σ') := propext (toLower_eq_iff (by decide))
    have more := ih (c :: before)
    rw [List.map_cons] at more
    rw [List.map_cons, smallFrom, smallFrom, more, meetsCased_map_toLower, meetsCased_map_toLower,
      smallLetter_toLower]
    simp only [sigma]

/-! ## ASCII -/

/-- The Kelvin sign is the one capital above ASCII with a small letter in ASCII. -/
theorem ascii_lt_of_mem_capitalRuns : ∀ run ∈ capitalRuns,
    0x80 ≤ (run.first : Int) + run.distance ∨
      run.first = run.last ∧ (run.first : Int) + run.distance = 'k'.toNat := by
  decide +kernel

/-- Whether characters are ASCII and none of them is a k. -/
def IsAsciiNoK (cs : List Char) : Prop :=
  ∀ c ∈ cs, 0 < c.toNat ∧ c.toNat < 0x80 ∧ c ≠ 'k'

instance (cs : List Char) : Decidable (IsAsciiNoK cs) :=
  decidable_of_iff ((cs.all fun c => 0 < c.toNat ∧ c.toNat < 0x80 ∧ c ≠ 'k') = true)
    (by simp [IsAsciiNoK])

/-- A character above ASCII has something else in its small form. -/
theorem toNat_lt_of_smallLetter {c : Char} (plain : IsAsciiNoK (smallLetter c)) : c.toNat < 0x80 := by
  refine Decidable.byContradiction fun high => ?_
  rw [smallLetter, if_neg high] at plain
  split at plain
  · exact absurd (plain '\u0307' (by simp)).2.1 (by decide)
  · split at plain
    · next run found =>
      obtain ⟨positive, low, notK⟩ := plain _ List.mem_cons_self
      have value := eq_toNat_of_ofNat_eq rfl (Nat.ne_of_gt positive)
      have inside := List.find?_some found
      simp only [CapitalRun.contains, Bool.and_eq_true, decide_eq_true_eq] at inside
      rcases ascii_lt_of_mem_capitalRuns run (List.mem_of_find?_eq_some found) with above | ⟨single, k⟩
      · omega
      · have same : ((c.toNat : Int) + run.distance).toNat = 'k'.toNat := by omega
        exact notK (by rw [same]; rfl)
    · exact high (plain c (by simp)).2.1

/-- A small form in the basic alphabet without `k` comes from text in the basic alphabet: the one
capital from outside it that would give such a form is the sign for kelvin. -/
theorem isAscii_of_smallFrom {before cs : List Char} (plain : IsAsciiNoK (smallFrom before cs)) :
    IsAscii cs := by
  induction cs generalizing before with
  | nil => exact fun c absent => nomatch absent
  | cons c rest ih =>
    rw [IsAsciiNoK, smallFrom, List.forall_mem_append] at plain
    obtain ⟨first, others⟩ := plain
    refine List.forall_mem_cons.2 ⟨?_, ih others⟩
    split at first
    · split at first
      · exact absurd (first 'ς' (by simp)).2.1 (by decide)
      · exact absurd (first 'σ' (by simp)).2.1 (by decide)
    · exact toNat_lt_of_smallLetter first

/-- **ASCII**: a text without a k in it is the small form of those texts that differ from it in the
case of ASCII letters, and of no other. -/
theorem small_eq_iff {s t : String} (plain : IsAsciiNoK t.toList) :
    small s = t ↔ s.toList.map Char.toLower = t.toList := by
  constructor
  · rintro rfl
    have ascii : IsAscii s.toList := by
      rw [small, String.toList_ofList] at plain
      exact isAscii_of_smallFrom plain
    exact (toList_small_of_ascii ascii).symm
  · intro same
    have ascii : IsAscii s.toList := by
      intro c inside
      have low := (plain c.toLower (same ▸ List.mem_map_of_mem inside)).2.1
      have kept := comp_toLower (f := fun c => decide (c.toNat < 0x80)) (by decide) c
      exact (decide_eq_decide.1 kept).1 low
    rw [← String.toList_inj, toList_small_of_ascii ascii, same]

/-! ## Texts -/

/-- A text begins with an underscore in small letters if it does as it stands. -/
theorem head?_small_eq_underscore_iff {s : String} :
    (small s).toList.head? = some '_' ↔ s.toList.head? = some '_' := by
  rw [small, String.toList_ofList]
  cases s.toList with
  | nil => simp [smallFrom]
  | cons c rest =>
    rw [smallFrom]
    by_cases sigma : c = 'Σ'
    · subst sigma
      simp
      split <;> decide
    · obtain ⟨d, more, letter, same⟩ := exists_smallLetter_eq_cons c
      simp [sigma, letter, same]

end FilterScript.Text
