import FilterScript.Proofs.Signature.Separator

/-!
# Tokens with escapes

A colon in an identifier is written with a backslash in front, and reading takes the backslash off. A
parameter that was read is printed without escapes, so the colons of an identifier may be taken for the
separator when the token is read again.

* **Escaping** (`parse_escaped`): a token written with escapes stands for the parts that it was written
  from, in each of its three forms.
* **Printing** (`parse_text_eq_iff`): a parameter is found again in the token that it is printed as exactly
  if nothing in that token is taken for what it is not (`IsReadable`).
* **Escapes lost** (`parse_text_escaped`): a token with an escaped colon that is printed as another one.
-/

namespace FilterScript

namespace Text

/-- Two trimmed texts with a colon between them are trimmed. -/
theorem isTrimmed_append_colon {front back : List Char} (first : IsTrimmed front)
    (second : IsTrimmed back) : IsTrimmed (front ++ ':' :: back) := by
  refine ⟨fun c head => ?_, fun c last => ?_⟩
  · cases front with
    | nil =>
      obtain rfl := Option.some.inj head
      decide
    | cons d rest => exact first.1 c head
  · cases back with
    | nil =>
      rw [List.getLast?_append, List.getLast?_singleton] at last
      obtain rfl := Option.some.inj last
      decide
    | cons d rest =>
      rw [List.getLast?_append, List.getLast?_cons_cons] at last
      cases found : (d :: rest).getLast? with
      | none => cases List.getLast?_eq_none_iff.1 found
      | some e =>
        rw [found] at last
        obtain rfl := Option.some.inj last
        exact second.2 e found

/-- A text that is trimmed to what stands in front of one of its colons ends there. -/
theorem eq_of_trim_eq {front back first behind : List Char}
    (whole : front ++ ':' :: back = first ++ ':' :: behind) (trimmed : trim front = first) :
    front = first ∧ back = behind := by
  have short : first.length ≤ front.length := trimmed ▸ length_trim_le front
  rcases List.append_eq_append_iff.1 whole with ⟨more, rfl, rest⟩ | ⟨more, rfl, rest⟩
  · obtain rfl : more = [] := List.eq_nil_of_length_eq_zero (by rw [List.length_append] at short; omega)
    rw [List.nil_append, List.cons.injEq] at rest
    exact ⟨(List.append_nil front).symm, rest.2⟩
  · cases more with
    | nil =>
      rw [List.nil_append, List.cons.injEq] at rest
      exact ⟨List.append_nil first, rest.2.symm⟩
    | cons c more =>
      -- the colon is no blank, so it would be in what is left of the text
      rw [List.cons_append, List.cons.injEq] at rest
      obtain ⟨rfl, -⟩ := rest
      have count := count_trim (show isBlank ':' = false by decide) (first ++ ':' :: more)
      rw [trimmed, List.count_append, List.count_cons_self] at count
      omega

end Text

namespace Parameter

/-! ## Escaped colons -/

section Escapes

variable {cs rest : List Char} {c : Char}

/-- A colon gets a backslash in front. -/
theorem escapeColons_colon (rest : List Char) :
    escapeColons (':' :: rest) = '\\' :: ':' :: escapeColons rest :=
  rfl

/-- Any other character stands as it is. -/
theorem escapeColons_cons_of_ne (h : c ≠ ':') (rest : List Char) :
    escapeColons (c :: rest) = c :: escapeColons rest :=
  if_neg h

/-- In a text written with escapes there is no separator. -/
theorem splitAtColon_escapeColons (escaped : Bool) (cs : List Char) :
    splitAtColon escaped (escapeColons cs) = none := by
  induction cs generalizing escaped with
  | nil => rfl
  | cons c rest ih =>
    by_cases colon : c = ':'
    · subst colon
      rw [escapeColons_colon, splitAtColon_cons_eq_none_iff, splitAtColon_cons_eq_none_iff]
      exact ⟨fun here => absurd here.1 (by decide), by decide, ih _⟩
    · rw [escapeColons_cons_of_ne colon, splitAtColon_cons_eq_none_iff]
      exact ⟨fun here => colon here.1, ih _⟩

/-- Escaping keeps the last character. -/
theorem getLast?_escapeColons (cs : List Char) : (escapeColons cs).getLast? = cs.getLast? := by
  induction cs with
  | nil => rfl
  | cons c rest ih =>
    by_cases colon : c = ':'
    · subst colon
      rw [escapeColons_colon, List.getLast?_cons_cons, List.getLast?_cons, ih, List.getLast?_cons]
    · rw [escapeColons_cons_of_ne colon, List.getLast?_cons, ih, List.getLast?_cons]

/-- Escapes leave no blank at the ends of a trimmed text. -/
theorem isTrimmed_escapeColons (h : Text.IsTrimmed cs) : Text.IsTrimmed (escapeColons cs) := by
  refine ⟨fun c head => ?_, fun c last => h.2 c (getLast?_escapeColons cs ▸ last)⟩
  cases cs with
  | nil => cases head
  | cons d rest =>
    by_cases colon : d = ':'
    · subst colon
      obtain rfl := Option.some.inj head
      decide
    · rw [escapeColons_cons_of_ne colon] at head
      exact h.1 c head

/-- Undoing the escapes keeps the last character. -/
theorem getLast?_unescapeColons (cs : List Char) : (unescapeColons cs).getLast? = cs.getLast? := by
  induction cs using unescapeColons.induct with
  | case1 rest ih => rw [unescapeColons, List.getLast?_cons_cons, List.getLast?_cons, ih,
      List.getLast?_cons]
  | case2 c rest other ih => rw [unescapeColons.eq_2 c rest other, List.getLast?_cons, ih,
      List.getLast?_cons]
  | case3 => rfl

/-- Without its escapes a trimmed text is trimmed. -/
theorem isTrimmed_unescapeColons (h : Text.IsTrimmed cs) : Text.IsTrimmed (unescapeColons cs) := by
  refine ⟨fun c head => ?_, fun c last => h.2 c (getLast?_unescapeColons cs ▸ last)⟩
  unfold unescapeColons at head
  split at head
  · obtain rfl := Option.some.inj head
    decide
  · exact h.1 c head
  · cases head

/-- Only nothing is nothing without its escapes. -/
theorem unescapeColons_eq_nil_iff : unescapeColons cs = [] ↔ cs = [] := by
  rw [← List.getLast?_eq_none_iff, getLast?_unescapeColons, List.getLast?_eq_none_iff]

/-- Reading leaves a text as it is if no backslash stands in front of a colon. -/
theorem unescapeColons_eq_self_iff : unescapeColons cs = cs ↔ ¬['\\', ':'] <:+: cs := by
  induction cs using unescapeColons.induct with
  | case1 rest ih =>
    refine iff_of_false (fun same => ?_) fun none => none ⟨[], rest, rfl⟩
    rw [unescapeColons, List.cons.injEq] at same
    exact absurd same.1 (by decide)
  | case2 c rest other ih =>
    have notHere : ¬['\\', ':'] <+: c :: rest := by
      rintro ⟨more, whole⟩
      obtain ⟨rfl, rfl⟩ := List.cons.inj whole
      exact other more rfl rfl
    rw [unescapeColons.eq_2 c rest other, List.cons.injEq, and_iff_right rfl, ih, List.infix_cons_iff,
      not_or, and_iff_right notHere]
  | case3 => exact iff_of_true rfl (by decide)

end Escapes

/-! ## The parameter of a token -/

section Reading

variable {cs front back : List Char}

/-- Nothing is no identifier. -/
theorem identifierOf_nil : identifierOf [] = none :=
  rfl

/-- The identifier of a text is the text without its escapes. -/
theorem identifierOf_eq_some_iff {i : String} :
    identifierOf cs = some i ↔ cs ≠ [] ∧ unescapeColons cs = i.toList := by
  have name : (unescapeColons cs).isEmpty = true ↔ cs = [] := by
    rw [List.isEmpty_iff, unescapeColons_eq_nil_iff]
  unfold identifierOf
  by_cases empty : cs = []
  · rw [if_pos (name.2 empty)]
    exact iff_of_false nofun fun h => h.1 empty
  · rw [if_neg (mt name.1 empty), Option.some.injEq, and_iff_right empty]
    exact ⟨fun same => same ▸ String.toList_ofList.symm, fun same => same ▸ String.ofList_toList⟩

/-- All but nothing is an identifier. -/
theorem identifierOf_eq_none_iff : identifierOf cs = none ↔ cs = [] := by
  constructor
  · intro none
    refine Classical.byContradiction fun given => ?_
    cases none.symm.trans (identifierOf_eq_some_iff.2 ⟨given, String.toList_ofList.symm⟩)
  · rintro rfl
    exact identifierOf_nil

/-- An identifier that is given is found if it is what the text is without escapes. -/
theorem identifierOf_eq_iff {identifier : Option String} (given : identifier ≠ some "") :
    identifierOf cs = identifier ↔ unescapeColons cs = (identifier.getD "").toList := by
  cases identifier with
  | none => rw [identifierOf_eq_none_iff, ← unescapeColons_eq_nil_iff]; rfl
  | some i =>
    rw [identifierOf_eq_some_iff, Option.getD_some]
    refine and_iff_right_of_imp ?_
    rintro same rfl
    exact given (congrArg some (String.toList_eq_nil_iff.1 same.symm))

/-- An identifier with its colons escaped is read as it is. -/
theorem identifierOf_escapeColons {x : String} (given : x ≠ "") :
    identifierOf (escapeColons x.toList) = some x := by
  refine identifierOf_eq_some_iff.2 ⟨fun empty => ?_, unescapeColons_escapeColons x.toList⟩
  have back := unescapeColons_escapeColons x.toList
  rw [empty] at back
  exact given (String.toList_eq_nil_iff.1 back.symm)

/-- A token with a colon is read as the two parts beside it. -/
theorem ofTrimmed_of_split (h : splitAtColon false cs = some (front, back)) :
    ofTrimmed cs = ⟨String.ofList (Text.trim front), identifierOf (Text.trim back),
      (identifierOf (Text.trim back)).isSome⟩ := by
  rw [ofTrimmed, h]

/-- A token without a colon is read as an identifier alone. -/
theorem ofTrimmed_of_none (h : splitAtColon false cs = none) :
    ofTrimmed cs = ⟨"", identifierOf cs, false⟩ := by
  rw [ofTrimmed, h]

end Reading

/-! ## Writing with escapes -/

/-- A text with a backslash in front of every colon. -/
def escaped (s : String) : String :=
  String.ofList (escapeColons s.toList)

/-- **Escaping**: a modifier without line feeds that does not end in a backslash, and any identifier
written with escapes, are found again, whichever of the two is there. -/
theorem parse_escaped {modifier identifier : String} (front : Text.IsTrimmed modifier.toList)
    (oneLine : '\n' ∉ modifier.toList) (ended : modifier.toList.getLast? ≠ some '\\')
    (given : identifier ≠ "") (back : Text.IsTrimmed identifier.toList) :
    parse (modifier ++ ":" ++ escaped identifier) = ⟨modifier, some identifier, true⟩ ∧
      parse (modifier ++ ":") = ⟨modifier, none, false⟩ ∧
      parse (escaped identifier) = ⟨"", some identifier, false⟩ := by
  have counts : escapesNext false modifier.toList = false := escapesNext_false_eq_false_iff.2 ended
  have written : Text.IsTrimmed (escapeColons identifier.toList) := isTrimmed_escapeColons back
  have none := splitAtColon_escapeColons false identifier.toList
  refine ⟨?_, ?_, ?_⟩
  · have split := splitAtColon_append_colon oneLine counts (colonOnLine_of_splitAtColon_eq_none none)
    have whole : (modifier ++ ":" ++ escaped identifier).toList =
        modifier.toList ++ ':' :: escapeColons identifier.toList := by
      simp [escaped]
    rw [parse, whole, Text.trim_of_isTrimmed (Text.isTrimmed_append_colon front written),
      ofTrimmed_of_split split, Text.trim_of_isTrimmed front, Text.trim_of_isTrimmed written,
      identifierOf_escapeColons given, String.ofList_toList]
    rfl
  · have split := splitAtColon_append_colon oneLine counts (show colonOnLine false [] = false from rfl)
    have whole : (modifier ++ ":").toList = modifier.toList ++ [':'] := String.toList_append
    rw [parse, whole, Text.trim_of_isTrimmed (Text.isTrimmed_append_colon front Text.isTrimmed_nil),
      ofTrimmed_of_split split, Text.trim_of_isTrimmed front, Text.trim_nil, identifierOf_nil,
      String.ofList_toList]
    rfl
  · rw [parse, escaped, String.toList_ofList, Text.trim_of_isTrimmed written, ofTrimmed_of_none none,
      identifierOf_escapeColons given]

/-- A modifier with colons, one of them escaped, and an identifier on two lines with backslashes in
front of colons and at its end. -/
theorem parse_escaped_backslashes :
    Text.IsTrimmed "q:a\\:".toList ∧ Text.IsTrimmed "\\:b\n:c\\".toList ∧
      parse "q:a\\::\\\\:b\n\\:c\\" = ⟨"q:a\\:", some "\\:b\n:c\\", true⟩ ∧
      parse "q:a\\::" = ⟨"q:a\\:", none, false⟩ ∧
      parse "\\\\:b\n\\:c\\" = ⟨"", some "\\:b\n:c\\", false⟩ := by
  have front : Text.IsTrimmed "q:a\\:".toList := by decide
  have back : Text.IsTrimmed "\\:b\n:c\\".toList := by decide
  have written : escaped "\\:b\n:c\\" = "\\\\:b\n\\:c\\" := by decide
  have found := parse_escaped front (by decide) (by decide) (by decide) back
  rw [written] at found
  exact ⟨front, back, found⟩

/-! ## Parameters that were read -/

/-- What holds of every parameter that a token stands for. -/
structure IsRead (p : Parameter) : Prop where
  /-- Neither end of the modifier is blank. -/
  modifier : Text.IsTrimmed p.modifier.toList
  /-- The separator was on the first line with an unescaped colon. -/
  lines : ∀ lines line, p.modifier.toList = lines ++ '\n' :: line → splitAtColon false lines = none
  /-- An identifier is not empty, and neither end is blank. -/
  identifier : ∀ i, p.identifier = some i → i ≠ "" ∧ Text.IsTrimmed i.toList
  /-- Values have a name only where there is an identifier. -/
  named : p.named = true → p.identifier ≠ none
  /-- A bare identifier has no modifier. -/
  unnamed : p.named = false → p.identifier = none ∨ p.modifier = ""

/-- An identifier that is read has no blanks around it. -/
theorem isTrimmed_of_identifierOf {cs : List Char} (trimmed : Text.IsTrimmed cs) {i : String}
    (h : identifierOf cs = some i) : i ≠ "" ∧ Text.IsTrimmed i.toList := by
  obtain ⟨given, name⟩ := identifierOf_eq_some_iff.1 h
  refine ⟨?_, name ▸ isTrimmed_unescapeColons trimmed⟩
  rintro rfl
  exact given (unescapeColons_eq_nil_iff.1 name)

/-- Every token stands for such a parameter. -/
theorem isRead_parse (token : String) : (parse token).IsRead := by
  have whole : Text.IsTrimmed (Text.trim token.toList) := Text.isTrimmed_trim token.toList
  rw [parse]
  generalize Text.trim token.toList = cs at whole
  cases split : splitAtColon false cs with
  | none =>
    rw [ofTrimmed_of_none split]
    refine ⟨Text.isTrimmed_nil, fun lines line absent => absurd absent.symm (by simp),
      fun i given => isTrimmed_of_identifierOf whole given, nofun, fun _ => .inr rfl⟩
  | some parts =>
    obtain ⟨front, back⟩ := parts
    obtain ⟨rfl, -, -, before⟩ := splitAtColon_eq_some_iff.1 split
    rw [ofTrimmed_of_split split]
    refine ⟨?_, fun lines line inside => ?_,
      fun i given => isTrimmed_of_identifierOf (Text.isTrimmed_trim back) given,
      Option.isSome_iff_ne_none.1, fun unnamed => .inl ?_⟩
    · rw [String.toList_ofList]
      exact Text.isTrimmed_trim front
    · rw [String.toList_ofList] at inside
      -- blanks in front would have been blanks in front of the token
      have start : Text.trimStart front = front := by
        refine Text.trimStart_of_head? fun c head => whole.1 c ?_
        rw [List.head?_append, head]
        rfl
      obtain ⟨blanks, rest⟩ := Text.trimEnd_prefix front
      rw [Text.trim, start] at inside
      refine before lines (line ++ blanks) ?_
      rw [← rest, inside, List.append_assoc, List.cons_append]
    · exact Option.isNone_iff_eq_none.1 (Option.isSome_eq_false_iff.1 unnamed)

/-! ## Printing -/

/-- Whether nothing in the token of a parameter is taken for what it is not. -/
structure IsReadable (p : Parameter) : Prop where
  /-- The modifier does not escape the separator. -/
  modifier : p.modifier.toList.getLast? ≠ some '\\'
  /-- A name has no colon on its first line, which would be the separator, and none that looks escaped. -/
  named : p.named = true → ∀ i, p.identifier = some i →
    ':' ∉ i.toList.takeWhile (· != '\n') ∧ ¬['\\', ':'] <:+: i.toList
  /-- A bare identifier has no colon. -/
  bare : p.named = false → ∀ i, p.identifier = some i → ':' ∉ i.toList

/-- Of colons that do not look escaped, none counts for the line if there is none on the line. -/
theorem colonOnLine_eq_false_iff {cs : List Char} (plain : ¬['\\', ':'] <:+: cs) :
    colonOnLine false cs = false ↔ ':' ∉ cs.takeWhile (· != '\n') := by
  rw [← Bool.not_eq_true, colonOnLine_eq_true_iff]
  refine not_congr ⟨?_, ?_⟩
  · rintro ⟨front, back, rfl, noFeed, -⟩
    have line : ∀ c ∈ front, (c != '\n') = true :=
      fun c inside => bne_iff_ne.2 fun same => noFeed (same ▸ inside)
    rw [List.takeWhile_append_of_pos line]
    exact List.mem_append_right front (List.mem_cons_self)
  · intro onLine
    obtain ⟨front, more, line⟩ := List.append_of_mem onLine
    have whole : cs = front ++ ':' :: (more ++ cs.dropWhile (· != '\n')) := by
      rw [← List.cons_append, ← List.append_assoc, ← line, List.takeWhile_append_dropWhile]
    have noFeed : '\n' ∉ front := by
      intro feed
      have inside : '\n' ∈ cs.takeWhile (· != '\n') := line ▸ List.mem_append_left _ feed
      exact absurd (List.all_eq_true.1 List.all_takeWhile _ inside) (by decide)
    refine ⟨front, _, whole, noFeed, escapesNext_false_eq_false_iff.2 fun last => plain ?_⟩
    obtain ⟨rest, rfl⟩ := List.getLast?_eq_some_iff.1 last
    refine ⟨rest, more ++ cs.dropWhile (· != '\n'), Eq.trans ?_ whole.symm⟩
    rw [List.append_assoc, List.append_assoc]
    rfl

section Printing

variable {p : Parameter}

/-- The identifier of a parameter that was read has no blanks around it. -/
theorem IsRead.isTrimmed_identifier (read : p.IsRead) :
    Text.IsTrimmed (p.identifier.getD "").toList := by
  cases h : p.identifier with
  | none => exact Text.isTrimmed_nil
  | some i => exact (read.identifier i h).2

/-- A token with a separator is read as the parts on its sides if the separator is found and the
identifier keeps its characters. -/
theorem ofTrimmed_append_colon_eq_iff (read : p.IsRead) (parted : p.named = p.identifier.isSome) :
    ofTrimmed (p.modifier.toList ++ ':' :: (p.identifier.getD "").toList) = p ↔
      p.modifier.toList.getLast? ≠ some '\\' ∧
        colonOnLine false (p.identifier.getD "").toList = false ∧
        unescapeColons (p.identifier.getD "").toList = (p.identifier.getD "").toList := by
  have given : p.identifier ≠ some "" := fun empty => (read.identifier "" empty).1 rfl
  have back := Text.trim_of_isTrimmed read.isTrimmed_identifier
  rw [← escapesNext_false_eq_false_iff]
  constructor
  · intro same
    cases split : splitAtColon false (p.modifier.toList ++ ':' :: (p.identifier.getD "").toList) with
    | none =>
      rw [ofTrimmed_of_none split] at same
      have unnamed : p.named = false := congrArg Parameter.named same.symm
      have none : p.identifier = none := Option.not_isSome_iff_eq_none.1 (by rw [← parted, unnamed]; simp)
      have name : identifierOf _ = p.identifier := congrArg Parameter.identifier same
      rw [none, identifierOf_eq_none_iff] at name
      simp at name
    | some parts =>
      obtain ⟨front, behind⟩ := parts
      rw [ofTrimmed_of_split split] at same
      have modifier : Text.trim front = p.modifier.toList := by
        have := congrArg (String.toList ∘ Parameter.modifier) same
        simpa using this
      have name : identifierOf _ = p.identifier := congrArg Parameter.identifier same
      obtain ⟨whole, counts, last, -⟩ := splitAtColon_eq_some_iff.1 split
      obtain ⟨rfl, rfl⟩ := Text.eq_of_trim_eq whole.symm modifier
      rw [back, identifierOf_eq_iff given] at name
      exact ⟨counts, last, name⟩
  · rintro ⟨counts, last, name⟩
    rw [ofTrimmed_of_split (splitAtColon_eq_some_iff.2 ⟨rfl, counts, last, read.lines⟩), back,
      (identifierOf_eq_iff given).2 name, Text.trim_of_isTrimmed read.modifier, String.ofList_toList,
      ← parted]

/-- A bare identifier is found again if it has no colon. -/
theorem ofTrimmed_bare_eq_iff {i : String} (given : i ≠ "") :
    ofTrimmed i.toList = ⟨"", some i, false⟩ ↔ ':' ∉ i.toList := by
  constructor
  · intro same
    cases split : splitAtColon false i.toList with
    | none =>
      rw [ofTrimmed_of_none split] at same
      have name := (identifierOf_eq_some_iff.1 (congrArg Parameter.identifier same)).2
      rw [unescapeColons_eq_self_iff] at name
      intro colon
      obtain ⟨front, back, whole⟩ := List.append_of_mem colon
      have escapes := splitAtColon_eq_none_iff.1 split front back whole
      have last : front.getLast? = some '\\' := Classical.byContradiction fun other =>
        Bool.noConfusion (escapes.symm.trans (escapesNext_false_eq_false_iff.2 other))
      obtain ⟨rest, rfl⟩ := List.getLast?_eq_some_iff.1 last
      exact name ⟨rest, back, by rw [whole]; simp⟩
    | some parts =>
      rw [ofTrimmed_of_split split] at same
      have name : identifierOf _ = some i := congrArg Parameter.identifier same
      have unnamed : (identifierOf _).isSome = false := congrArg Parameter.named same
      rw [name] at unnamed
      cases unnamed
  · intro noColon
    have plain : ¬['\\', ':'] <:+: i.toList := fun inside => noColon (inside.subset (by simp))
    have name : identifierOf i.toList = some i := by
      rw [identifierOf_eq_iff (fun empty => given (Option.some.inj empty)), Option.getD_some,
        unescapeColons_eq_self_iff]
      exact plain
    rw [ofTrimmed_of_none (splitAtColon_of_not_mem noColon false), name]

/-- A parameter with a separator is printed as the parts on its sides. -/
theorem toList_text (parted : p.named = p.identifier.isSome)
    (shown : p.named = true ∨ p.modifier ≠ "") :
    p.text.toList = p.modifier.toList ++ ':' :: (p.identifier.getD "").toList := by
  obtain ⟨modifier, identifier, named⟩ := p
  obtain rfl : named = identifier.isSome := parted
  cases identifier with
  | none => simp [text, shown.resolve_left Bool.false_ne_true]
  | some i => simp [text, label]

/-- A parameter that is printed with a colon is read from its two parts. -/
theorem parse_text_of_parted (read : p.IsRead) (parted : p.named = p.identifier.isSome)
    (shown : p.named = true ∨ p.modifier ≠ "") :
    parse p.text = ofTrimmed (p.modifier.toList ++ ':' :: (p.identifier.getD "").toList) := by
  rw [parse, toList_text parted shown, Text.trim_of_isTrimmed
    (Text.isTrimmed_append_colon read.modifier read.isTrimmed_identifier)]

/-- **Printing**: a parameter that was read is found again in the token that it is printed as
exactly if nothing there is taken for what it is not. -/
theorem parse_text_eq_iff (read : p.IsRead) : parse p.text = p ↔ p.IsReadable := by
  obtain ⟨modifier, identifier, named⟩ := p
  cases named with
  | true =>
    obtain ⟨i, rfl⟩ := Option.ne_none_iff_exists'.1 (read.named rfl)
    rw [parse_text_of_parted read rfl (.inl rfl), ofTrimmed_append_colon_eq_iff read rfl,
      unescapeColons_eq_self_iff]
    constructor
    · rintro ⟨counts, last, plain⟩
      refine ⟨counts, fun _ j same => ?_, nofun⟩
      obtain rfl := Option.some.inj same
      exact ⟨(colonOnLine_eq_false_iff plain).1 last, plain⟩
    · intro readable
      obtain ⟨onLine, plain⟩ := readable.named rfl i rfl
      exact ⟨readable.modifier, (colonOnLine_eq_false_iff plain).2 onLine, plain⟩
  | false =>
    cases identifier with
    | none =>
      by_cases bare : modifier = ""
      · subst bare
        exact iff_of_true rfl ⟨by decide, nofun, nofun⟩
      · rw [parse_text_of_parted read rfl (.inr bare), ofTrimmed_append_colon_eq_iff read rfl]
        exact ⟨fun found => ⟨found.1, nofun, nofun⟩, fun readable => ⟨readable.modifier, rfl, rfl⟩⟩
    | some i =>
      obtain rfl : modifier = "" := (read.unnamed rfl).resolve_left (Option.some_ne_none i)
      obtain ⟨given, trimmed⟩ := read.identifier i rfl
      have whole : parse (text ⟨"", some i, false⟩) = ofTrimmed i.toList :=
        congrArg ofTrimmed (Text.trim_of_isTrimmed trimmed)
      rw [whole, ofTrimmed_bare_eq_iff given]
      constructor
      · intro noColon
        refine ⟨show "".toList.getLast? ≠ some '\\' by decide, nofun, fun _ j same => ?_⟩
        obtain rfl := Option.some.inj same
        exact noColon
      · exact fun readable => readable.bare rfl i rfl

end Printing

/-- **Tokens printed**: what a token stands for is found again when it is printed exactly if its
modifier does not end in a backslash, a bare identifier has no colon, and a name has none on its
first line and no backslash in front of one. -/
theorem parse_text_parse_iff (token : String) :
    parse (parse token).text = parse token ↔ (parse token).IsReadable :=
  parse_text_eq_iff (isRead_parse token)

/-- **Escapes lost**: an escaped colon is printed as one that is not, and is taken for the
separator. -/
theorem parse_text_escaped :
    parse "q:a\\:b" = ⟨"q", some "a:b", true⟩ ∧ (parse "q:a\\:b").text = "q:a:b" ∧
      parse "q:a:b" = ⟨"q:a", some "b", true⟩ ∧
      ¬∀ token, parse (parse token).text = parse token := by
  have read : parse "q:a\\:b" = ⟨"q", some "a:b", true⟩ := by decide
  have printed : (parse "q:a\\:b").text = "q:a:b" := by decide
  have other : parse "q:a:b" = ⟨"q:a", some "b", true⟩ := by decide
  refine ⟨read, printed, other, fun all => ?_⟩
  have same := all "q:a\\:b"
  rw [printed, read, other] at same
  exact absurd same (by decide)

end Parameter

end FilterScript
