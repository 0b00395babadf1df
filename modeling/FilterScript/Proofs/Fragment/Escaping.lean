import FilterScript.Fragment

/-!
# Escaped texts are read back

Escaping doubles the backslashes first and spells the line feeds after that. The second step writes
backslashes too, and neither finds anything in what the other one writes, so both together spell each
character by itself. In the other order the backslashes of spelled line feeds would be doubled.

* **One character** (`escapeChars_cons`): both steps together spell the characters one by one.
* **Reading** (`readEscapes?_eq_some_iff`): what is written without a line feed is read as a text
  exactly if it is the spelling of that text.
* **Texts** (`escape_reads_back`): the form of an escaped text, and that nothing is lost in it.
-/

namespace FilterScript.Fragment

/-! ## One character -/

/-- How a character is spelled in an escaped text. -/
def escapedChar (c : Char) : List Char :=
  if c = '\\' then ['\\', '\\'] else if c = '\n' then ['\\', 'n'] else [c]

/-- A single character goes through both steps. A backslash comes out of the first one as two, and
the second one passes over them. -/
theorem escapeChars_singleton (c : Char) : escapeChars [c] = escapedChar c := by
  unfold escapedChar
  split
  · next backslash =>
    subst backslash
    rfl
  · next notBackslash =>
    have kept : replaceEach '\\' ['\\', '\\'] [c] = [c] := by
      simp [replaceEach, notBackslash]
    rw [escapeChars, kept]
    split
    · next lineFeed =>
      subst lineFeed
      rfl
    · next notLineFeed => simp [replaceEach, notLineFeed]

/-- **One character** after the other is spelled. -/
theorem escapeChars_cons (c : Char) (rest : List Char) :
    escapeChars (c :: rest) = escapedChar c ++ escapeChars rest := by
  rw [← List.singleton_append, escapeChars_append, escapeChars_singleton]

/-- The two steps in a row are one. -/
theorem escapeChars_eq_flatMap (cs : List Char) : escapeChars cs = cs.flatMap escapedChar := by
  induction cs with
  | nil => rfl
  | cons c rest ih => rw [escapeChars_cons, ih, List.flatMap_cons]

/-! ## Reading -/

/-- Reads escapes from left to right. A backslash is followed by another one, which stands for a
backslash, or by an n, which stands for a line feed. Everything else stands for itself. -/
def readEscapes? : List Char → Option (List Char)
  | [] => some []
  | '\\' :: '\\' :: rest => (readEscapes? rest).map ('\\' :: ·)
  | '\\' :: 'n' :: rest => (readEscapes? rest).map ('\n' :: ·)
  | '\\' :: _ => none
  | c :: rest => (readEscapes? rest).map (c :: ·)

/-- Reading passes over every character but the backslash. -/
theorem readEscapes?_cons_of_ne {c : Char} (other : c ≠ '\\') (rest : List Char) :
    readEscapes? (c :: rest) = (readEscapes? rest).map (c :: ·) := by
  rw [readEscapes?]
  all_goals
    intros
    exact other ‹_›

/-- The spelling of a character is read as the character, whatever stands behind it. -/
theorem readEscapes?_escapedChar_append (c : Char) (rest : List Char) :
    readEscapes? (escapedChar c ++ rest) = (readEscapes? rest).map (c :: ·) := by
  unfold escapedChar
  split
  · next backslash =>
    subst backslash
    rfl
  · next notBackslash =>
    split
    · next lineFeed =>
      subst lineFeed
      rfl
    · exact readEscapes?_cons_of_ne notBackslash rest

/-- Reading back undoes the escaping. -/
theorem readEscapes?_escapeChars (cs : List Char) : readEscapes? (escapeChars cs) = some cs := by
  induction cs with
  | nil => rfl
  | cons c rest ih => rw [escapeChars_cons, readEscapes?_escapedChar_append, ih, Option.map_some]

/-- What is read as a text is the spelling of that text, if there is no line feed in it. -/
theorem eq_escapeChars_of_readEscapes? {body cs : List Char} (flat : '\n' ∉ body)
    (read : readEscapes? body = some cs) : body = escapeChars cs := by
  fun_induction readEscapes? body generalizing cs with
  | case1 =>
    cases read
    rfl
  | case2 rest ih =>
    obtain ⟨ds, inner, rfl⟩ := Option.map_eq_some_iff.1 read
    have tail : '\n' ∉ rest := fun inside => flat (by simp [inside])
    rw [escapeChars_cons, ← ih tail inner]
    rfl
  | case3 rest ih =>
    obtain ⟨ds, inner, rfl⟩ := Option.map_eq_some_iff.1 read
    have tail : '\n' ∉ rest := fun inside => flat (by simp [inside])
    rw [escapeChars_cons, ← ih tail inner]
    rfl
  | case4 => cases read
  | case5 c rest _ _ notBackslash ih =>
    obtain ⟨ds, inner, rfl⟩ := Option.map_eq_some_iff.1 read
    obtain ⟨notLineFeed, tail⟩ := not_or.1 (mt List.mem_cons.2 flat)
    have plain : escapedChar c = [c] := by
      rw [escapedChar, if_neg notBackslash, if_neg (Ne.symm notLineFeed)]
    rw [escapeChars_cons, ← ih tail inner, plain]
    rfl

/-- **Reading**: among the texts without a line feed, only the spelling of a text is read as that
text. -/
theorem readEscapes?_eq_some_iff {body cs : List Char} (flat : '\n' ∉ body) :
    readEscapes? body = some cs ↔ body = escapeChars cs := by
  constructor
  · exact eq_escapeChars_of_readEscapes? flat
  · rintro rfl
    exact readEscapes?_escapeChars cs

/-- Texts that differ are escaped differently. -/
theorem escapeChars_injective : Function.Injective escapeChars := by
  intro xs ys same
  have read := readEscapes?_escapeChars xs
  rw [same, readEscapes?_escapeChars] at read
  exact (Option.some.inj read).symm

/-! ## Texts -/

/-- What an escaped text begins and ends with. -/
def tripleQuotes : List Char :=
  ['"', '"', '"']

/-- An escaped text is its body between triple quotes. -/
theorem toList_escape (s : String) :
    (escape s).toList = tripleQuotes ++ escapeChars s.toList ++ tripleQuotes := by
  simp [escape, tripleQuotes]

/-- **Texts**: an escaped text is what is between its triple quotes, on one line: the text with its
backslashes and line feeds spelled, all else as it was. It is read as the text without meeting a
backslash in front of anything else, and no other line is. So different texts are different when
they are escaped. -/
theorem escape_reads_back (s : String) :
    let body := s.toList.flatMap escapedChar
    (escape s).toList = tripleQuotes ++ body ++ tripleQuotes ∧
    '\n' ∉ body ∧
    readEscapes? body = some s.toList ∧
    (∀ other, '\n' ∉ other → readEscapes? other = some s.toList → other = body) ∧
    ∀ t, escape t = escape s → t = s := by
  intro body
  have spelled : escapeChars s.toList = body := escapeChars_eq_flatMap s.toList
  rw [toList_escape, spelled]
  refine ⟨rfl, ?_, ?_, ?_, ?_⟩
  · exact spelled ▸ lineFeed_not_mem_escapeChars s.toList
  · exact spelled ▸ readEscapes?_escapeChars s.toList
  · intro other flat read
    exact ((readEscapes?_eq_some_iff flat).1 read).trans spelled
  · intro t same
    have whole := congrArg String.toList same
    rw [toList_escape, toList_escape] at whole
    have bodies := List.append_cancel_left (List.append_cancel_right whole)
    exact String.toList_inj.1 (escapeChars_injective bodies)

/-- A backslash in front of an n, and a line feed. -/
example : escape "\\n" = "\"\"\"\\\\n\"\"\"" ∧ escape "\n" = "\"\"\"\\n\"\"\"" := by
  decide

end FilterScript.Fragment
