import FilterScript.Parameter

/-!
# Where a token is split

A token is split at the last unescaped colon of the first line that has one. Whether a colon counts is
said by the character in front of it alone, so what a text does to the colon behind it is the one thing
to know about the text (`escapesNext`).

* **On a line** (`colonOnLine_eq_true_iff`): a colon counts for the line if no line feed is in front of it
  and nothing escapes it.
* **Nowhere** (`splitAtColon_eq_none_iff`): a text without a separator is one where all colons are escaped.
* **The separator** (`splitAtColon_eq_some_iff`): it is an unescaped colon with no other behind it on its
  line, and on no line before.
-/

namespace FilterScript.Parameter

/-! ## Escaped places -/

/-- Whether the character behind a text is escaped. `escaped` says whether the first one of the text
is. -/
def escapesNext (escaped : Bool) : List Char → Bool
  | [] => escaped
  | c :: rest => escapesNext (c == '\\') rest

/-- A text escapes what stands behind it if its last character is a backslash. -/
theorem escapesNext_false_eq_false_iff {cs : List Char} :
    escapesNext false cs = false ↔ cs.getLast? ≠ some '\\' := by
  have key : ∀ (escaped : Bool) (c : Char) (rest : List Char),
      escapesNext escaped (c :: rest) = ((c :: rest).getLast? == some '\\') := by
    intro escaped c rest
    induction rest generalizing escaped c with
    | nil => simp [escapesNext]
    | cons d rest ih => rw [escapesNext, ih, List.getLast?_cons_cons]
  cases cs with
  | nil => simp [escapesNext]
  | cons c rest => rw [key, beq_eq_false_iff_ne]

/-! ## Colons on a line -/

section Colons

variable {escaped : Bool} {cs front back : List Char}

/-- **On a line**: an unescaped colon comes before the end of the line. -/
theorem colonOnLine_eq_true_iff :
    colonOnLine escaped cs = true ↔
      ∃ front back, cs = front ++ ':' :: back ∧ '\n' ∉ front ∧ escapesNext escaped front = false := by
  induction cs generalizing escaped with
  | nil => simp [colonOnLine]
  | cons c rest ih =>
    unfold colonOnLine
    constructor
    · intro found
      split at found
      · cases found
      · next onLine =>
        rcases Bool.or_eq_true_iff.1 found with here | behind
        · obtain ⟨rfl, rfl⟩ : c = ':' ∧ escaped = false := by simpa using here
          exact ⟨[], rest, rfl, List.not_mem_nil, rfl⟩
        · obtain ⟨front, back, rfl, noFeed, counts⟩ := ih.1 behind
          refine ⟨c :: front, back, rfl, ?_, counts⟩
          rw [List.mem_cons, not_or]
          exact ⟨Ne.symm onLine, noFeed⟩
    · rintro ⟨front, back, whole, noFeed, counts⟩
      cases front with
      | nil =>
        obtain ⟨rfl, rfl⟩ := List.cons.inj whole
        obtain rfl : escaped = false := counts
        rfl
      | cons d front =>
        rw [List.cons_append, List.cons.injEq] at whole
        obtain ⟨rfl, rfl⟩ := whole
        rw [List.mem_cons, not_or] at noFeed
        rw [if_neg (Ne.symm noFeed.1), ih.2 ⟨front, back, rfl, noFeed.2, counts⟩, Bool.or_true]

/-- A colon on the same line that no backslash escapes is seen. -/
theorem colonOnLine_append_colon (noFeed : '\n' ∉ front) (counts : escapesNext escaped front = false)
    (back : List Char) : colonOnLine escaped (front ++ ':' :: back) = true :=
  colonOnLine_eq_true_iff.2 ⟨front, back, rfl, noFeed, counts⟩

/-- What stands behind a line feed is not on the line. -/
theorem colonOnLine_append_lineFeed (escaped : Bool) (front back : List Char) :
    colonOnLine escaped (front ++ '\n' :: back) = colonOnLine escaped front := by
  induction front generalizing escaped with
  | nil => rfl
  | cons c front ih => rw [List.cons_append, colonOnLine, colonOnLine, ih]

/-! ## The separator -/

section Cons

variable {c : Char} {rest : List Char}

/-- A colon is split at if it is the last one on its line. -/
theorem splitAtColon_cons_of_last (last : colonOnLine false rest = false) :
    splitAtColon false (':' :: rest) = some ([], rest) :=
  if_pos ⟨rfl, rfl, last⟩

/-- Any other character is kept in front of the split. -/
theorem splitAtColon_cons_of_not
    (other : ¬(c = ':' ∧ escaped = false ∧ colonOnLine false rest = false)) :
    splitAtColon escaped (c :: rest) =
      (splitAtColon (c == '\\') rest).map fun (front, back) => (c :: front, back) :=
  if_neg other

/-- What is split behind a character is split with it in front. -/
theorem splitAtColon_cons_eq_some_iff
    (other : ¬(c = ':' ∧ escaped = false ∧ colonOnLine false rest = false)) :
    splitAtColon escaped (c :: rest) = some (front, back) ↔
      ∃ inside, front = c :: inside ∧ splitAtColon (c == '\\') rest = some (inside, back) := by
  rw [splitAtColon_cons_of_not other, Option.map_eq_some_iff]
  constructor
  · rintro ⟨⟨inside, behind⟩, split, same⟩
    cases same
    exact ⟨inside, rfl, split⟩
  · rintro ⟨inside, rfl, split⟩
    exact ⟨(inside, back), split, rfl⟩

end Cons

/-- A text with a colon on its line is split. -/
theorem splitAtColon_ne_none (h : colonOnLine escaped cs = true) : splitAtColon escaped cs ≠ none := by
  induction cs generalizing escaped with
  | nil => cases h
  | cons c rest ih =>
    by_cases here : c = ':' ∧ escaped = false ∧ colonOnLine false rest = false
    · obtain ⟨rfl, rfl, last⟩ := here
      rw [splitAtColon_cons_of_last last]
      exact Option.some_ne_none _
    · rw [splitAtColon_cons_of_not here, Ne, Option.map_eq_none_iff]
      unfold colonOnLine at h
      split at h
      · cases h
      · rcases Bool.or_eq_true_iff.1 h with colon | behind
        · -- this colon is not the last one of its line
          obtain ⟨rfl, rfl⟩ : c = ':' ∧ escaped = false := by simpa using colon
          exact ih (Bool.of_not_eq_false fun last => here ⟨rfl, rfl, last⟩)
        · exact ih behind

/-- What is not split has no colon to split at. -/
theorem colonOnLine_of_splitAtColon_eq_none (h : splitAtColon escaped cs = none) :
    colonOnLine escaped cs = false :=
  Bool.of_not_eq_true fun found => splitAtColon_ne_none found h

/-- Nothing is split where neither the first character nor the rest can be. -/
theorem splitAtColon_cons_eq_none_iff {c : Char} {rest : List Char} :
    splitAtColon escaped (c :: rest) = none ↔
      ¬(c = ':' ∧ escaped = false) ∧ splitAtColon (c == '\\') rest = none := by
  by_cases colon : c = ':' ∧ escaped = false
  · obtain ⟨rfl, rfl⟩ := colon
    exact iff_of_false (splitAtColon_ne_none rfl) fun h => h.1 ⟨rfl, rfl⟩
  · have other : ¬(c = ':' ∧ escaped = false ∧ colonOnLine false rest = false) :=
      fun here => colon ⟨here.1, here.2.1⟩
    rw [splitAtColon_cons_of_not other, Option.map_eq_none_iff, and_iff_right colon]

/-- **Nowhere**: a text that is not split has no colon but escaped ones. -/
theorem splitAtColon_eq_none_iff :
    splitAtColon escaped cs = none ↔
      ∀ front back, cs = front ++ ':' :: back → escapesNext escaped front = true := by
  induction cs generalizing escaped with
  | nil => simp [splitAtColon]
  | cons c rest ih =>
    rw [splitAtColon_cons_eq_none_iff, ih]
    constructor
    · rintro ⟨colon, behind⟩ front back whole
      cases front with
      | nil => exact Bool.of_not_eq_false fun counts => colon ⟨(List.cons.inj whole).1, counts⟩
      | cons d front =>
        rw [List.cons_append, List.cons.injEq] at whole
        obtain ⟨rfl, rfl⟩ := whole
        exact behind front back rfl
    · intro all
      refine ⟨?_, fun front back whole => all (c :: front) back (congrArg (c :: ·) whole)⟩
      rintro ⟨rfl, rfl⟩
      cases all [] rest rfl

/-- **The separator**: nothing escapes it, no other unescaped colon stands behind it on its line,
and the lines in front of its own have none. -/
theorem splitAtColon_eq_some_iff :
    splitAtColon escaped cs = some (front, back) ↔
      cs = front ++ ':' :: back ∧ escapesNext escaped front = false ∧
        colonOnLine false back = false ∧
        ∀ lines line, front = lines ++ '\n' :: line → splitAtColon escaped lines = none := by
  induction cs generalizing escaped front with
  | nil => simp [splitAtColon]
  | cons c rest ih =>
    by_cases here : c = ':' ∧ escaped = false ∧ colonOnLine false rest = false
    · obtain ⟨rfl, rfl, last⟩ := here
      rw [splitAtColon_cons_of_last last, Option.some.injEq, Prod.mk.injEq]
      constructor
      · rintro ⟨rfl, rfl⟩
        exact ⟨rfl, rfl, last, fun lines line whole => absurd whole (by simp)⟩
      · rintro ⟨whole, counts, -, before⟩
        cases front with
        | nil => exact ⟨rfl, (List.cons.inj whole).2⟩
        | cons d front =>
          rw [List.cons_append, List.cons.injEq] at whole
          obtain ⟨rfl, rfl⟩ := whole
          -- the colon behind is on another line, and then this one is on a line in front of it
          by_cases feed : '\n' ∈ front
          · obtain ⟨lines, line, rfl⟩ := List.append_of_mem feed
            exact absurd (before (':' :: lines) line rfl) (splitAtColon_ne_none rfl)
          · have behind : escapesNext false front = false := counts
            rw [colonOnLine_append_colon feed behind] at last
            cases last
    · rw [splitAtColon_cons_eq_some_iff here]
      constructor
      · rintro ⟨inside, rfl, split⟩
        obtain ⟨rfl, counts, last, before⟩ := ih.1 split
        refine ⟨rfl, counts, last, fun lines line whole => ?_⟩
        cases lines with
        | nil => rfl
        | cons d lines =>
          rw [List.cons_append, List.cons.injEq] at whole
          obtain ⟨rfl, rfl⟩ := whole
          have none := before lines line rfl
          refine splitAtColon_cons_eq_none_iff.2 ⟨?_, none⟩
          rintro ⟨rfl, rfl⟩
          refine here ⟨rfl, rfl, ?_⟩
          rw [List.append_assoc, List.cons_append, colonOnLine_append_lineFeed]
          exact colonOnLine_of_splitAtColon_eq_none none
      · rintro ⟨whole, counts, last, before⟩
        cases front with
        | nil =>
          obtain ⟨rfl, rfl⟩ := List.cons.inj whole
          exact absurd ⟨rfl, counts, last⟩ here
        | cons d front =>
          rw [List.cons_append, List.cons.injEq] at whole
          obtain ⟨rfl, rfl⟩ := whole
          refine ⟨front, rfl, ih.2 ⟨rfl, counts, last, fun lines line split => ?_⟩⟩
          exact (splitAtColon_cons_eq_none_iff.1 (before (c :: lines) line (split ▸ rfl))).2

/-- In a text without colons there is no separator. -/
theorem splitAtColon_of_not_mem (h : ':' ∉ cs) (escaped : Bool) : splitAtColon escaped cs = none := by
  refine splitAtColon_eq_none_iff.2 fun front back whole => absurd ?_ h
  rw [whole]
  exact List.mem_append_right front List.mem_cons_self

/-- On one line the separator is the last unescaped colon. -/
theorem splitAtColon_append_colon (noFeed : '\n' ∉ front) (counts : escapesNext escaped front = false)
    (last : colonOnLine false back = false) :
    splitAtColon escaped (front ++ ':' :: back) = some (front, back) := by
  refine splitAtColon_eq_some_iff.2 ⟨rfl, counts, last, fun lines line whole => absurd ?_ noFeed⟩
  rw [whole]
  exact List.mem_append_right lines List.mem_cons_self

end Colons

end FilterScript.Parameter
