import FilterScript.Proofs.Signature.Escapes

/-!
# Tokens without escapes

In a token with neither backslashes nor line feeds every colon counts, and the last one separates
the modifier from the identifier. The parameters that such tokens stand for have parts that can be
written next to each other and told apart again (`IsClean`).

* **Reading** (`isClean_parse`): a token without escapes stands for a clean parameter.
* **Writing** (`parse_text_of_isClean`): a clean parameter is found again in its token, whichever of
  the three forms the token has.
-/

namespace FilterScript

namespace Parameter

/-- Whether a text has neither backslashes nor line feeds. -/
def IsPlain (cs : List Char) : Prop :=
  '\\' ∉ cs ∧ '\n' ∉ cs

/-- What has no other characters than a plain text is plain. -/
theorem IsPlain.of_subset {cs ds : List Char} (h : IsPlain ds) (sub : ∀ c ∈ cs, c ∈ ds) :
    IsPlain cs :=
  ⟨fun backslash => h.1 (sub _ backslash), fun lineFeed => h.2 (sub _ lineFeed)⟩

/-- A plain text does not end with a backslash. -/
theorem IsPlain.getLast?_ne {cs : List Char} (h : IsPlain cs) : cs.getLast? ≠ some '\\' :=
  fun last => h.1 (List.mem_of_getLast? last)

/-- A plain text has no escaped colons. -/
theorem IsPlain.unescapeColons_eq {cs : List Char} (h : IsPlain cs) : unescapeColons cs = cs :=
  unescapeColons_eq_self_iff.2 fun inside => h.1 (inside.subset List.mem_cons_self)

/-- A plain text is split at its last colon. -/
theorem splitAtColon_append {front back : List Char} (plain : IsPlain front) (last : ':' ∉ back) :
    splitAtColon false (front ++ ':' :: back) = some (front, back) :=
  splitAtColon_append_colon plain.2 (escapesNext_false_eq_false_iff.2 plain.getLast?_ne)
    (colonOnLine_of_splitAtColon_eq_none (splitAtColon_of_not_mem last false))

/-- A text with a colon has a last one. -/
theorem exists_lastColon {cs : List Char} (h : ':' ∈ cs) :
    ∃ front back, cs = front ++ ':' :: back ∧ ':' ∉ back := by
  induction cs with
  | nil => cases h
  | cons c rest ih =>
    by_cases behind : ':' ∈ rest
    · obtain ⟨front, back, rfl, last⟩ := ih behind
      exact ⟨c :: front, back, rfl, last⟩
    · obtain rfl := (List.mem_cons.1 h).resolve_right behind
      exact ⟨[], rest, rfl, behind⟩

/-! ## Pieces -/

/-- Whether a text can be a part of a token in a list of tokens. -/
structure IsPiece (cs : List Char) : Prop where
  /-- Neither end is blank. -/
  trimmed : Text.IsTrimmed cs
  /-- Nothing is escaped, and the text is on one line. -/
  plain : IsPlain cs
  /-- There is no comma. -/
  noComma : ',' ∉ cs

/-- Nothing is a piece. -/
theorem isPiece_nil : IsPiece [] where
  trimmed := Text.isTrimmed_nil
  plain := ⟨List.not_mem_nil, List.not_mem_nil⟩
  noComma := List.not_mem_nil

/-- What is left of a plain text without its outer blanks is a piece. -/
theorem isPiece_trim {cs : List Char} (plain : IsPlain cs) (noComma : ',' ∉ cs) :
    IsPiece (Text.trim cs) :=
  ⟨Text.isTrimmed_trim cs, plain.of_subset fun _ => Text.mem_of_mem_trim,
    fun comma => noComma (Text.mem_of_mem_trim comma)⟩

/-- Two pieces with a colon between them are a piece. -/
theorem IsPiece.append_colon {front back : List Char} (first : IsPiece front)
    (second : IsPiece back) : IsPiece (front ++ ':' :: back) := by
  refine ⟨Text.isTrimmed_append_colon first.trimmed second.trimmed, ⟨?_, ?_⟩, ?_⟩
  · simp [first.plain.1, second.plain.1]
  · simp [first.plain.2, second.plain.2]
  · simp [first.noComma, second.noComma]

/-! ## Clean parameters -/

/-- Whether a parameter can be written as a token without escapes. -/
structure IsClean (p : Parameter) : Prop where
  /-- The modifier is a piece, and may hold colons. -/
  modifier : IsPiece p.modifier.toList
  /-- The identifier is a piece without colons. -/
  identifier : ∀ i, p.identifier = some i →
    i ≠ "" ∧ IsPiece i.toList ∧ ':' ∉ i.toList
  /-- Values have a name only where there is an identifier. -/
  named : p.named = true → p.identifier ≠ none
  /-- A bare identifier has no modifier. -/
  unnamed : p.named = false → p.identifier = none ∨ p.modifier = ""

/-- The identifier that a piece without colons stands for. -/
theorem identifierOf_isPiece {cs : List Char} (piece : IsPiece cs) (noColon : ':' ∉ cs)
    {i : String} (h : identifierOf cs = some i) :
    i ≠ "" ∧ IsPiece i.toList ∧ ':' ∉ i.toList := by
  obtain ⟨given, -⟩ := isTrimmed_of_identifierOf piece.trimmed h
  obtain ⟨-, name⟩ := identifierOf_eq_some_iff.1 h
  rw [← name, piece.plain.unescapeColons_eq]
  exact ⟨given, piece, noColon⟩

/-- **Reading**: a token without escapes and commas stands for a clean parameter. -/
theorem isClean_parse {token : String} (plain : IsPlain token.toList)
    (noComma : ',' ∉ token.toList) : (parse token).IsClean := by
  have piece : IsPiece (Text.trim token.toList) := isPiece_trim plain noComma
  rw [parse]
  by_cases colon : ':' ∈ Text.trim token.toList
  · obtain ⟨front, back, whole, last⟩ := exists_lastColon colon
    rw [whole] at piece ⊢
    have plainFront : IsPlain front := piece.plain.of_subset fun c hc => by simp [hc]
    have plainBack : IsPlain back := piece.plain.of_subset fun c hc => by simp [hc]
    have commaFront : ',' ∉ front := fun comma => piece.noComma (by simp [comma])
    have commaBack : ',' ∉ back := fun comma => piece.noComma (by simp [comma])
    rw [ofTrimmed_of_split (splitAtColon_append plainFront last)]
    refine ⟨?_, fun i given => ?_, fun named => ?_, fun unnamed => ?_⟩
    · rw [String.toList_ofList]
      exact isPiece_trim plainFront commaFront
    · exact identifierOf_isPiece (isPiece_trim plainBack commaBack)
        (fun inside => last (Text.mem_of_mem_trim inside)) given
    · exact Option.isSome_iff_ne_none.1 named
    · exact .inl (Option.isNone_iff_eq_none.1 (Option.isSome_eq_false_iff.1 unnamed))
  · rw [ofTrimmed_of_none (splitAtColon_of_not_mem colon false)]
    exact ⟨isPiece_nil, fun i given => identifierOf_isPiece piece colon given,
      fun named => Bool.noConfusion named, fun _ => .inr rfl⟩

/-! ## Writing -/

section Clean

variable {p : Parameter}

/-- The token of a clean parameter is a piece. -/
theorem IsClean.isPiece_text (clean : p.IsClean) : IsPiece p.text.toList := by
  unfold text
  split
  · next named =>
    obtain ⟨i, given⟩ := Option.ne_none_iff_exists'.1 (clean.named named)
    have piece := clean.modifier.append_colon (clean.identifier i given).2.1
    simpa [label, given] using piece
  · split
    · simpa using clean.modifier.append_colon isPiece_nil
    · cases given : p.identifier with
      | none => exact isPiece_nil
      | some i => exact (clean.identifier i given).2.1

/-- A clean parameter is one that a token may stand for. -/
theorem IsClean.isRead (clean : p.IsClean) : p.IsRead where
  modifier := clean.modifier.trimmed
  lines lines line whole := by
    refine absurd ?_ clean.modifier.plain.2
    rw [whole]
    exact List.mem_append_right lines List.mem_cons_self
  identifier i given := ⟨(clean.identifier i given).1, (clean.identifier i given).2.1.trimmed⟩
  named := clean.named
  unnamed := clean.unnamed

/-- Where there are no escapes, nothing is taken for what it is not. -/
theorem IsClean.isReadable (clean : p.IsClean) : p.IsReadable where
  modifier := clean.modifier.plain.getLast?_ne
  named _ i given := by
    obtain ⟨-, piece, noColon⟩ := clean.identifier i given
    exact ⟨fun onLine => noColon ((List.takeWhile_sublist _).mem onLine),
      unescapeColons_eq_self_iff.1 piece.plain.unescapeColons_eq⟩
  bare _ i given := (clean.identifier i given).2.2

/-- **Writing**: a clean parameter is found again in its token. -/
theorem parse_text_of_isClean (clean : p.IsClean) : parse p.text = p :=
  (parse_text_eq_iff clean.isRead).2 clean.isReadable

end Clean

end Parameter

end FilterScript
