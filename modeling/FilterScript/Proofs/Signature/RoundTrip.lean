import FilterScript.Proofs.Signature.Tokens
import FilterScript.Proofs.Text.OneLine
import FilterScript.Signature.Compile

/-!
# Signatures found again in their texts

A signature that was compiled from texts without escapes can be written and compiled again. The name
ends at the first opening parenthesis and the tokens at the last closing one, so parentheses inside
of tokens do no harm; the tokens are clean, so the commas and colons between their parts are the
only ones that count.

* **Lists of tokens** (`splitCommas_intercalate`): pieces with commas between them are found again,
  unless the list is one empty piece: that is written as nothing, and read as no piece at all.
* **Reading** (`isClean_of_compile`): texts without escapes compile to clean signatures.
* **Writing** (`IsClean.compile_text_eq_ok_iff`): the text of a clean signature compiles to the
  signature exactly if that is not written with one empty token.
-/

namespace FilterScript

/-! ## Lists of tokens -/

/-- Pieces with commas and blanks between them are found again by splitting at commas and trimming.
Blanks in front do not count. -/
theorem map_trim_splitOn_intercalate {pieces : List (List Char)} (some : pieces ≠ [])
    (clean : ∀ piece ∈ pieces, Text.IsTrimmed piece ∧ ',' ∉ piece) (blanks : List Char)
    (blank : ∀ c ∈ blanks, Text.isBlank c = true) :
    ((blanks ++ [',', ' '].intercalate pieces).splitOn ',').map Text.trim = pieces := by
  have noComma : ',' ∉ blanks := fun comma => absurd (blank ',' comma) (by decide)
  induction pieces generalizing blanks with
  | nil => exact absurd rfl some
  | cons piece pieces ih =>
    rw [List.forall_mem_cons] at clean
    obtain ⟨⟨trimmed, inside⟩, others⟩ := clean
    have first : ',' ∉ blanks ++ piece := by
      rw [List.mem_append, not_or]
      exact ⟨noComma, inside⟩
    have same : Text.trim (blanks ++ piece) = piece := by
      rw [Text.trim_append_of_blank blank, Text.trim_of_isTrimmed trimmed]
    cases pieces with
    | nil =>
      rw [List.intercalate_singleton, List.splitOn_eq_singleton first, List.map_singleton, same]
    | cons next pieces =>
      have behind := ih (List.cons_ne_nil next pieces) others [' ']
        (List.forall_mem_singleton.2 rfl) (by decide)
      have whole : blanks ++ [',', ' '].intercalate (piece :: next :: pieces) =
          (blanks ++ piece) ++ ',' :: ([' '] ++ [',', ' '].intercalate (next :: pieces)) := by
        rw [List.intercalate_cons_cons]
        simp
      rw [whole, List.splitOn_append_cons_self_of_not_mem first, List.map_cons, same, behind]

/-- **Lists of tokens**: pieces with commas between them are found again, unless the list is one
empty piece. -/
theorem splitCommas_intercalate {texts : List String} (some : texts ≠ [])
    (clean : ∀ t ∈ texts, Text.IsTrimmed t.toList ∧ ',' ∉ t.toList) (notEmpty : texts ≠ [""]) :
    splitCommas (", ".intercalate texts) = texts := by
  have pieces := map_trim_splitOn_intercalate (mt List.map_eq_nil_iff.1 some)
    (List.forall_mem_map.2 clean) [] (fun _ absent => nomatch absent)
  have separator : ", ".toList = [',', ' '] := rfl
  rw [List.nil_append, ← separator, ← String.toList_intercalate] at pieces
  -- a blank text would have been one empty piece
  have shown : Text.isBlankText (", ".intercalate texts) = false := by
    rw [← Bool.not_eq_true]
    intro blank
    rw [Text.isBlankText, List.all_eq_true] at blank
    have noComma : ',' ∉ (", ".intercalate texts).toList :=
      fun comma => absurd (blank ',' comma) (by decide)
    have nothing := Text.trim_append_of_blank blank []
    rw [List.append_nil, Text.trim_nil] at nothing
    rw [List.splitOn_eq_singleton noComma, List.map_singleton, nothing] at pieces
    obtain ⟨t, rfl, empty⟩ := List.map_eq_singleton_iff.1 pieces.symm
    exact notEmpty (by rw [String.toList_eq_nil_iff.1 empty])
  have back := congrArg (List.map String.ofList) pieces
  rw [List.map_map, List.map_map] at back
  rw [splitCommas, shown, if_neg Bool.false_ne_true]
  calc _ = texts.map (String.ofList ∘ String.toList) := back
    _ = texts := by simp [Function.comp_def]

/-- The empty text has no pieces. -/
theorem splitCommas_empty : splitCommas "" = [] :=
  rfl

/-- What is split off holds no character that the whole does not have. -/
theorem mem_of_mem_splitOn {cs piece : List Char} {separator c : Char}
    (h : piece ∈ cs.splitOn separator) (inside : c ∈ piece) : c ∈ cs := by
  have other : c ∉ [separator] := by
    intro same
    rw [List.mem_singleton.1 same] at inside
    exact Text.not_mem_of_mem_splitOn h inside
  have whole : [separator].intercalate (cs.splitOn separator) = cs :=
    List.intercalate_splitOn separator
  rw [← whole, Text.mem_intercalate_iff other]
  exact ⟨piece, h, inside⟩

/-- The tokens of a plain text stand for clean parameters. -/
theorem isClean_of_mem_splitCommas {s token : String} (plain : Parameter.IsPlain s.toList)
    (h : token ∈ splitCommas s) : (Parameter.parse token).IsClean := by
  unfold splitCommas at h
  split at h
  · cases h
  · obtain ⟨piece, split, rfl⟩ := List.mem_map.1 h
    apply Parameter.isClean_parse <;> rw [String.toList_ofList]
    · exact plain.of_subset fun c inside => mem_of_mem_splitOn split (Text.mem_of_mem_trim inside)
    · intro comma
      exact Text.not_mem_of_mem_splitOn split (Text.mem_of_mem_trim comma)

/-! ## Lists of types -/

/-- An item without the blanks around it has none to lose. -/
theorem trimItem_trimItem (v : Value) : trimItem (trimItem v) = trimItem v := by
  cases v
  case text s => rw [trimItem, trimItem, Text.trimmed_trimmed]
  all_goals rfl

/-- A list is split into its items. -/
theorem splitList_list (items : List Value) :
    splitList (.list items) = .ok (items.map trimItem) :=
  rfl

namespace Signature

/-! ## Compiling texts -/

/-- Every text is a token. -/
theorem mapM_ofItem_text (tokens : List String) :
    (tokens.map Value.text).mapM Parameter.ofItem = .ok (tokens.map Parameter.parse) := by
  induction tokens with
  | nil => rfl
  | cons token tokens ih =>
    rw [List.map_cons, List.mapM_cons, ih]
    rfl

/-- A text of tokens compiles with any list of types. -/
theorem ofLists_text (name body : String) {types : Value} {items : List Value}
    (split : splitList types = .ok items) :
    ofLists name (.text body) types = .ok ⟨name, (splitCommas body).map Parameter.parse, items⟩ := by
  rw [ofLists, split]
  show ((splitCommas body).map Value.text).mapM Parameter.ofItem >>= _ = _
  rw [mapM_ofItem_text]
  rfl

/-- Without tokens a signature has no parameters. -/
theorem ofLists_null (name : String) (types : List Value) :
    ofLists name .null (.list types) = .ok ⟨name, [], types.map trimItem⟩ :=
  rfl

/-- What a name with a list of tokens behind it compiles to: tokens of its own come first. -/
theorem compile_eq_ok (name : String) (params : Option String) (types : List Value) :
    compile name (params.elim .null .text) (.list types) =
      .ok ⟨(splitCombined name).1,
        (((splitCombined name).2.or params).elim [] splitCommas).map Parameter.parse,
        types.map trimItem⟩ := by
  unfold compile
  generalize splitCombined name = split
  obtain ⟨known, body⟩ := split
  cases body with
  | some body => cases params <;> exact ofLists_text known body (splitList_list types)
  | none =>
    cases params with
    | none => exact ofLists_null known types
    | some body => exact ofLists_text known body (splitList_list types)

/-! ## The combined form -/

/-- A closing parenthesis at the end is the last one. -/
theorem beforeLastClose_append_close (cs : List Char) : beforeLastClose (cs ++ [')']) = cs := by
  simp [beforeLastClose]

/-- What stands between parentheses is less than the whole. -/
theorem mem_of_mem_beforeLastClose {cs : List Char} {c : Char} (h : c ∈ beforeLastClose cs) :
    c ∈ cs := by
  unfold beforeLastClose at h
  split at h
  · have inside := List.mem_of_mem_drop (List.mem_reverse.1 h)
    exact List.mem_reverse.1 ((List.dropWhile_sublist _).mem inside)
  · exact h

/-- The tokens between parentheses are the ones of the name, whatever parentheses they hold. -/
theorem splitCombined_append {name : String} (noOpen : '(' ∉ name.toList) (body : String) :
    splitCombined (name ++ "(" ++ body ++ ")") = (Text.trimmed name, some body) := by
  have whole : (name ++ "(" ++ body ++ ")").toList = name.toList ++ '(' :: (body.toList ++ [')']) := by
    simp
  have differ : ∀ c ∈ name.toList, (c != '(') = true := by
    intro c inside
    exact bne_iff_ne.2 fun same => noOpen (same ▸ inside)
  rw [splitCombined, whole, List.takeWhile_append_of_pos differ, List.dropWhile_append_of_pos differ,
    List.takeWhile_cons_of_neg (by decide), List.dropWhile_cons_of_neg (by decide), List.append_nil]
  dsimp only
  rw [beforeLastClose_append_close, String.ofList_toList]
  rfl

section Split

variable {text : String}

/-- The name holds no opening parenthesis, and no blank at either end. -/
theorem name_splitCombined (text : String) :
    Text.IsTrimmed (splitCombined text).1.toList ∧ '(' ∉ (splitCombined text).1.toList := by
  have name : (splitCombined text).1 =
      String.ofList (Text.trim (text.toList.takeWhile (· != '('))) := by
    unfold splitCombined
    dsimp only
    split <;> rfl
  rw [name, String.toList_ofList]
  refine ⟨Text.isTrimmed_trim _, fun inside => ?_⟩
  have before := List.all_eq_true.1 List.all_takeWhile _ (Text.mem_of_mem_trim inside)
  exact absurd before (by decide)

/-- Plain texts have plain tokens. -/
theorem isPlain_body_splitCombined (plain : Parameter.IsPlain text.toList) {body : String}
    (h : (splitCombined text).2 = some body) : Parameter.IsPlain body.toList := by
  unfold splitCombined at h
  dsimp only at h
  split at h
  · cases h
  · next c rest found =>
    obtain rfl := Option.some.inj h
    rw [String.toList_ofList]
    apply plain.of_subset
    intro d inside
    have behind : d ∈ text.toList.dropWhile (· != '(') := by
      rw [found]
      exact List.mem_cons_of_mem c (mem_of_mem_beforeLastClose inside)
    exact (List.dropWhile_sublist _).mem behind

end Split

/-! ## Clean signatures -/

/-- Whether a signature can be written as a text without escapes. -/
structure IsClean (s : Signature) : Prop where
  /-- The name has no blank at either end. -/
  trimmed : Text.IsTrimmed s.name.toList
  /-- The name ends where the parentheses begin. -/
  noOpen : '(' ∉ s.name.toList
  /-- The parameters are clean. -/
  params : ∀ p ∈ s.params, p.IsClean
  /-- The types are trimmed. -/
  types : s.types.map trimItem = s.types

/-- **Reading**: texts without escapes compile to clean signatures. -/
theorem isClean_of_compile {text : String} {params : Option String} {types : List Value}
    {s : Signature} (plain : Parameter.IsPlain text.toList)
    (plainParams : ∀ tokens ∈ params, Parameter.IsPlain tokens.toList)
    (h : compile text (params.elim .null .text) (.list types) = .ok s) : s.IsClean := by
  rw [compile_eq_ok, Except.ok.injEq] at h
  subst h
  obtain ⟨trimmed, noOpen⟩ := name_splitCombined text
  refine ⟨trimmed, noOpen, fun p inside => ?_, ?_⟩
  · obtain ⟨token, listed, rfl⟩ := List.mem_map.1 inside
    cases given : (splitCombined text).2 with
    | some body =>
      rw [given] at listed
      exact isClean_of_mem_splitCommas (isPlain_body_splitCombined plain given) listed
    | none =>
      rw [given] at listed
      cases params with
      | none => cases listed
      | some tokens => exact isClean_of_mem_splitCommas (plainParams tokens rfl) listed
  · rw [List.map_map]
    exact List.map_congr_left fun v _ => trimItem_trimItem v

/-- Whether a signature has one parameter, and the parameter is written as nothing. -/
def IsBlankCall (s : Signature) : Prop :=
  ∃ p, s.params = [p] ∧ p.text = ""

section Clean

variable {s : Signature}

/-- The text of a clean signature is split into its name and its tokens. -/
theorem IsClean.splitCombined_text (clean : s.IsClean) :
    splitCombined s.text = (s.name,
      if s.params = [] then none else some (", ".intercalate (s.params.map Parameter.text))) := by
  have name : Text.trimmed s.name = s.name := by
    rw [Text.trimmed, Text.trim_of_isTrimmed clean.trimmed, String.ofList_toList]
  unfold text
  by_cases empty : s.params = []
  · rw [if_pos empty, if_pos (List.isEmpty_iff.2 empty), splitCombined_of_not_mem clean.noOpen, name]
  · rw [if_neg empty, if_neg (mt List.isEmpty_iff.1 empty), splitCombined_append clean.noOpen, name]

/-- The tokens of clean parameters are found again between their commas. -/
theorem IsClean.map_parse_splitCommas (clean : s.IsClean) (some : s.params ≠ [])
    (shown : ¬s.IsBlankCall) :
    (splitCommas (", ".intercalate (s.params.map Parameter.text))).map Parameter.parse = s.params := by
  have pieces : ∀ t ∈ s.params.map Parameter.text, Text.IsTrimmed t.toList ∧ ',' ∉ t.toList := by
    rw [List.forall_mem_map]
    intro p inside
    have piece := (clean.params p inside).isPiece_text
    exact ⟨piece.trimmed, piece.noComma⟩
  have notEmpty : s.params.map Parameter.text ≠ [""] := by
    intro empty
    obtain ⟨p, single, nothing⟩ := List.map_eq_singleton_iff.1 empty
    exact shown ⟨p, single, nothing⟩
  rw [splitCommas_intercalate (mt List.map_eq_nil_iff.1 some) pieces notEmpty, List.map_map]
  calc _ = s.params.map id :=
        List.map_congr_left fun p inside => Parameter.parse_text_of_isClean (clean.params p inside)
    _ = s.params := List.map_id s.params

/-- **Writing**: a clean signature is found again in its text, unless it has one parameter, and that
is written as nothing. -/
theorem IsClean.compile_text_eq_ok_iff (clean : s.IsClean) :
    compile s.text .null (.list s.types) = .ok s ↔ ¬s.IsBlankCall := by
  have compiled := compile_eq_ok s.text none s.types
  rw [clean.splitCombined_text, clean.types] at compiled
  rw [show Value.null = (none : Option String).elim .null .text from rfl, compiled, Except.ok.injEq]
  constructor
  · rintro same ⟨p, single, nothing⟩
    have params := congrArg Signature.params same
    rw [single] at params
    simp [nothing, splitCommas_empty] at params
  · intro shown
    by_cases empty : s.params = []
    · rw [if_pos empty]
      obtain ⟨name, params, types⟩ := s
      obtain rfl : params = [] := empty
      rfl
    · rw [if_neg empty]
      have params := clean.map_parse_splitCommas empty shown
      obtain ⟨name, given, types⟩ := s
      exact congrArg (fun params => Signature.mk name params types) params

end Clean

/-- **Signatures**: what compiles from texts without escapes is a signature that its text compiles
to again, unless it has one parameter, and that is written as nothing. -/
theorem exists_compile_text_eq_ok_iff {text : String} {params : Option String} (types : List String)
    (plain : Parameter.IsPlain text.toList)
    (plainParams : ∀ tokens ∈ params, Parameter.IsPlain tokens.toList) :
    ∃ s, compile text (params.elim .null .text) (.list (types.map .text)) = .ok s ∧
      (compile s.text .null (.list s.types) = .ok s ↔ ¬s.IsBlankCall) := by
  have compiled := compile_eq_ok text params (types.map .text)
  have clean := isClean_of_compile plain plainParams compiled
  exact ⟨_, compiled, clean.compile_text_eq_ok_iff⟩

/-- Stray parentheses, colons and blanks: the name ends at the first opening parenthesis and the
tokens at the last closing one, and what is written has the same parts. -/
theorem compile_text_strays :
    let s : Signature := ⟨"Blend)", [⟨"i :a", some "b", true⟩, ⟨"", none, false⟩,
      ⟨"", some "(x y)", false⟩, ⟨"q", some ")", true⟩], [.text "u", .text "v, w"]⟩
    compile " Blend) ( i :a: b ,: , (x y), q : )) t" .null (.list [.text " u", .text "v, w "]) =
        .ok s ∧
      s.text = "Blend)(i :a:b, , (x y), q:))" ∧
      compile s.text .null (.list s.types) = .ok s := by
  intro s
  have plain : Parameter.IsPlain " Blend) ( i :a: b ,: , (x y), q : )) t".toList :=
    ⟨by decide, by decide⟩
  have noList : ∀ tokens ∈ (none : Option String), Parameter.IsPlain tokens.toList :=
    fun _ absent => nomatch absent
  obtain ⟨known, compiled, again⟩ := exists_compile_text_eq_ok_iff [" u", "v, w "] plain noList
  obtain rfl : s = known := Except.ok.inj (Eq.trans rfl compiled)
  refine ⟨rfl, rfl, again.2 ?_⟩
  rintro ⟨p, single, -⟩
  cases single

end Signature

end FilterScript
