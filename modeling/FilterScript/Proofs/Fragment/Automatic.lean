import FilterScript.Proofs.Fragment.Typed

/-!
# Automatic fragments

Under `a` the letters that settle texts are put off to the last step, so the checks before it see every
value as it was given. Only a text is settled there: it is quoted for the first of the letters `t`, `p` and
`q` that has quotes for it, and where none has it stays as it is and has to be an identifier.

* **Texts** (`render_text`): what a text becomes that the checks let through.
* **Other values** (`plain_of_render`): they are written in their plain notation.
* **Automatic fragments** (`automatic_of_ofValue`): which values have which fragments, and which have none.
-/

namespace FilterScript

namespace Fragment

/-- Quoted text holds a quote. -/
theorem mem_quote (s : String) : '"' ∈ (quote s).toList := by
  simp [quote]

/-- A value that is no text is written without quotes. -/
theorem holdsNoMark_of_scriptText? {a : Arg} (noText : a.isText = false) {s : String}
    (written : a.scriptText? = some s) : HoldsNoMark s := by
  cases a with
  | bool b =>
    cases b <;> obtain rfl := Option.some.inj written <;> decide
  | int n =>
    obtain ⟨d, numeral, -⟩ := Arg.exists_isNumeral (a := .int n) rfl written
    exact holdsNoMark_of_isNumeral numeral
  | float x =>
    cases x with
    | finite negative m e canonical =>
      obtain ⟨d, numeral, -⟩ :=
        Arg.exists_isNumeral (a := .float (.finite negative m e canonical)) rfl written
      exact holdsNoMark_of_isNumeral numeral
    | infinite negative =>
      cases negative <;> obtain rfl := Option.some.inj written <;> decide
    | nan =>
      obtain rfl := Option.some.inj written
      decide
  | text t => cases noText
  | omitted => cases written

namespace Rules

/-- The quotes that an automatic text is put in: those of a type, which the empty text has too,
those of a path, or plain ones. -/
inductive Quotes (r : Rules) (x : String) : String → Prop
  | type (letter : r.letters.type = true) (known : x = "" ∨ .text x ∈ r.types) : Quotes r x (quote x)
  | path (noType : r.letters.type = false) (letter : r.letters.path = true) :
    Quotes r x (quote (r.services.resolvePath x))
  | plain (noType : r.letters.type = false) (noPath : r.letters.path = false)
    (letter : r.letters.quoted = true) : Quotes r x (quote x)

section Automatic

variable {r : Rules} {x s : String}

/-! ## Automatic texts -/

/-- A text passes the check of the types when it is empty or listed. -/
theorem allows_text_iff : r.allows (.text x) = true ↔ x = "" ∨ .text x ∈ r.types := by
  have same (v : Value) : Value.isText x v = true ↔ .text x = v := by
    cases v <;> simp [Value.isText]
  simp only [allows, Arg.isTruthy, Bool.or_eq_true, Bool.not_eq_true', bne_eq_false_iff_eq,
    List.any_eq_true, same]
  simp

/-- A text with quotes is put in them. -/
theorem autoText_of_quotes (h : r.Quotes x s) : r.autoText x = .ok (some s) := by
  cases h with
  | type letter known => simp [autoText, letter, allows_text_iff.2 known]
  | path noType letter => simp [autoText, noType, letter]
  | plain noType noPath letter => simp [autoText, noType, noPath, letter]

/-- A text without quotes stays as it is, and has to be an identifier. That it is no type is found
out by way of a message, so the types must be such that the message can be written. -/
theorem autoText_of_bare (bare : ¬∃ s, r.Quotes x s)
    (listed : r.letters.type = true → ∃ e : Error, r.notAllowed (.text x) = e) :
    r.autoText x =
      if Identifier.isIdentifier x then .ok none
      else .error (r.mismatch .variableName (.text x)) := by
  unfold autoText
  dsimp only
  split
  · next type =>
    have unknown : ¬r.allows (.text x) = true := fun allowed =>
      bare ⟨_, .type type (allows_text_iff.1 allowed)⟩
    obtain ⟨e, message⟩ := listed type
    rw [if_neg unknown, message]
  · next noType =>
    rw [Bool.not_eq_true] at noType
    split
    · next path => exact absurd ⟨_, .path noType path⟩ bare
    · next noPath =>
      rw [Bool.not_eq_true] at noPath
      split
      · next quoted => exact absurd ⟨_, .plain noType noPath quoted⟩ bare
      · rfl

/-- With automatic handling nothing is prepared. -/
theorem prepare_of_auto (auto : r.letters.auto = true) (d : Draft) : r.prepare d = .ok d :=
  prepare_of_not_settlesText (by simp [Modifier.settlesText, auto]) d

/-- Letters that let no text through reject all automatic ones. -/
theorem exists_error_of_refusesTexts (auto : r.letters.auto = true)
    (refuses : r.letters.refusesTexts = true) : ∃ e, r.render (.text x) = .error e := by
  rw [← not_exists_eq_ok_iff]
  rintro ⟨s, accepted⟩
  obtain ⟨d, e, f, g, prepared, passes, -⟩ := render_eq_ok_iff.1 accepted
  rw [prepare_of_auto auto] at prepared
  obtain rfl := Except.ok.inj prepared
  have takes := ((passes_iff_of_isText (d := ⟨.text x, none⟩) rfl).1 passes).1
  cases refuses.symm.trans takes

/-- **Texts** that the checks let through are settled by the last step. -/
theorem render_text (auto : r.letters.auto = true) (color : r.letters.color = false)
    (takes : r.letters.refusesTexts = false) :
    r.render (.text x) =
      if r.letters.variableName = true ∧ ¬Identifier.isIdentifier x then
        .error (r.mismatch .variableName (.text x))
      else (r.autoText x).map fun settled => settled.getD x := by
  simp only [Modifier.refusesTexts, Bool.or_eq_false_iff] at takes
  obtain ⟨⟨⟨notPath, boolean⟩, decimal⟩, integer⟩ := takes
  have passed : r.check ⟨.text x, none⟩ = r.checkVariable ⟨.text x, none⟩ >>= r.settleAuto := by
    simp only [check, checkNotPath, checkBoolean, checkDecimal, checkInteger, settleColor, notPath,
      boolean, decimal, integer, color]
    rfl
  have settled : r.settleAuto ⟨.text x, none⟩ >>= finish =
      (r.autoText x).map fun settled => settled.getD x := by
    simp only [settleAuto, auto]
    cases r.autoText x with
    | error e => rfl
    | ok settled => cases settled <;> rfl
  rw [render, prepare_of_auto auto]
  show r.check ⟨.text x, none⟩ >>= finish = _
  rw [passed, bind_assoc]
  by_cases named : r.letters.variableName = true ∧ ¬Identifier.isIdentifier x
  · rw [if_pos named]
    simp only [checkVariable, named.1, named.2]
    rfl
  · rw [if_neg named, ← settled]
    have passes : r.checkVariable ⟨.text x, none⟩ = .ok ⟨.text x, none⟩ := by
      rw [checkVariable_eq_ok_iff]
      refine ⟨fun letter => ⟨rfl, x, rfl, ?_⟩, rfl⟩
      exact Classical.byContradiction fun other => named ⟨letter, other⟩
    rw [passes]
    rfl

/-- A text has the quotes of the first letter that has some. -/
theorem Quotes.unique {t : String} (h : r.Quotes x s) (h' : r.Quotes x t) : s = t :=
  Option.some.inj (Except.ok.inj ((autoText_of_quotes h).symm.trans (autoText_of_quotes h')))

/-- The rendering of a text that a quoting rule takes, with automatic handling. -/
theorem render_text_of_quotes (auto : r.letters.auto = true) (color : r.letters.color = false)
    (takes : r.letters.refusesTexts = false) (quotes : r.Quotes x s) :
    r.render (.text x) =
      if r.letters.variableName = true ∧ ¬Identifier.isIdentifier x then
        .error (r.mismatch .variableName (.text x))
      else .ok s := by
  rw [render_text auto color takes, autoText_of_quotes quotes]
  rfl

/-- The rendering of a text that no quoting rule takes: it stands bare or is refused. -/
theorem render_text_of_bare (auto : r.letters.auto = true) (color : r.letters.color = false)
    (takes : r.letters.refusesTexts = false) (bare : ¬∃ t, r.Quotes x t)
    (listed : r.letters.type = true → ∃ e : Error, r.notAllowed (.text x) = e) :
    r.render (.text x) =
      if ¬Identifier.isIdentifier x then .error (r.mismatch .variableName (.text x))
      else .ok x := by
  rw [render_text auto color takes, autoText_of_bare bare listed]
  by_cases name : Identifier.isIdentifier x = true
  · rw [if_neg fun other => other.2 name, if_pos name, if_neg fun other => other name]
    rfl
  · rw [if_neg name, if_pos name]
    split <;> rfl

/-- When a text is rendered, and as what: both cases together. -/
theorem render_text_eq_ok_iff (auto : r.letters.auto = true) (color : r.letters.color = false)
    (takes : r.letters.refusesTexts = false)
    (listed : r.letters.type = true → ∃ e : Error, r.notAllowed (.text x) = e) :
    r.render (.text x) = .ok s ↔
      (r.letters.variableName = true → Identifier.isIdentifier x = true) ∧
        (r.Quotes x s ∨ (¬∃ t, r.Quotes x t) ∧ Identifier.isIdentifier x = true ∧ s = x) := by
  by_cases quoted : ∃ t, r.Quotes x t
  · obtain ⟨t, quotes⟩ := quoted
    rw [render_text_of_quotes auto color takes quotes, refused_eq_ok_iff]
    constructor
    · rintro ⟨named, rfl⟩
      exact ⟨fun letter => Classical.byContradiction fun other => named ⟨letter, other⟩, .inl quotes⟩
    · rintro ⟨named, quotes' | ⟨bare, -⟩⟩
      · exact ⟨fun other => other.2 (named other.1), quotes'.unique quotes⟩
      · exact absurd ⟨t, quotes⟩ bare
  · rw [render_text_of_bare auto color takes quoted listed, refused_eq_ok_iff, Decidable.not_not]
    constructor
    · rintro ⟨name, same⟩
      exact ⟨fun _ => name, .inr ⟨quoted, name, same⟩⟩
    · rintro ⟨-, quotes | ⟨-, name, same⟩⟩
      · exact absurd ⟨s, quotes⟩ quoted
      · exact ⟨name, same⟩

/-- The name of a variable is written, if it can be found out whether it is a type. -/
theorem exists_render_text_eq_ok (auto : r.letters.auto = true) (color : r.letters.color = false)
    (takes : r.letters.refusesTexts = false)
    (listed : r.letters.type = true → ∃ e : Error, r.notAllowed (.text x) = e)
    (name : Identifier.isIdentifier x = true) : ∃ s, r.render (.text x) = .ok s := by
  by_cases quoted : ∃ s, r.Quotes x s
  · obtain ⟨s, quotes⟩ := quoted
    exact ⟨s, (render_text_eq_ok_iff auto color takes listed).2 ⟨fun _ => name, .inl quotes⟩⟩
  · exact ⟨x, (render_text_eq_ok_iff auto color takes listed).2
      ⟨fun _ => name, .inr ⟨quoted, name, rfl⟩⟩⟩

/-- A text that is not written is no identifier where it has to be one. -/
theorem render_text_eq_error_iff (auto : r.letters.auto = true) (color : r.letters.color = false)
    (takes : r.letters.refusesTexts = false)
    (listed : r.letters.type = true → ∃ e : Error, r.notAllowed (.text x) = e) {e : Failure} :
    r.render (.text x) = .error e ↔
      e = r.mismatch .variableName (.text x) ∧ Identifier.isIdentifier x = false ∧
        (r.letters.variableName = true ∨ ¬∃ t, r.Quotes x t) := by
  by_cases quoted : ∃ t, r.Quotes x t
  · obtain ⟨t, quotes⟩ := quoted
    rw [render_text_of_quotes auto color takes quotes, refused_eq_error_iff, Bool.not_eq_true]
    constructor
    · rintro ⟨⟨letter, other⟩, same⟩
      exact ⟨same, other, .inl letter⟩
    · rintro ⟨same, other, letter | bare⟩
      · exact ⟨⟨letter, other⟩, same⟩
      · exact absurd ⟨t, quotes⟩ bare
  · rw [render_text_of_bare auto color takes quoted listed, refused_eq_error_iff, Bool.not_eq_true]
    constructor
    · rintro ⟨other, same⟩
      exact ⟨same, other, .inr quoted⟩
    · rintro ⟨same, other, -⟩
      exact ⟨other, same⟩

/-! ## Other values -/

/-- **Other values** are written in their plain notation, as the whole number that they have to be
or as they are. -/
theorem plain_of_render {a : Arg} (auto : r.letters.auto = true) (color : r.letters.color = false)
    (noText : a.isText = false) (h : r.render a = .ok s) :
    HoldsNoMark s ∧ if r.letters.integer then ∃ n, a.toInt? = some n ∧ s = Numeral.integerText n
      else a.scriptText? = some s := by
  obtain ⟨d, e, f, g, prepared, passes, colored, -, settled, finished⟩ := render_eq_ok_iff.1 h
  rw [prepare_of_auto auto] at prepared
  obtain rfl := Except.ok.inj prepared
  cases integer : r.letters.integer with
  | false =>
    obtain rfl := passes.same integer
    have written := scriptText?_of_plain color (e := ⟨a, none⟩) noText colored settled finished
    exact ⟨holdsNoMark_of_scriptText? noText written, written⟩
  | true =>
    obtain ⟨-, n, whole, rfl⟩ := passes.integer integer
    have written := scriptText?_of_plain color (e := ⟨.int n, none⟩) rfl colored settled finished
    obtain ⟨-, rfl⟩ := Arg.scriptText?_int_eq_some_iff.1 written
    exact ⟨holdsNoMark_of_scriptText? rfl written, n, whole, rfl⟩

end Automatic

end Rules

/-- **Automatic fragments**, where the types are texts and no color is asked for. A value that is no
text is written in its plain notation. A text is rejected by the letters that let none through.
Otherwise it is put in its quotes, or stays as it is if it has none; then it has to be an
identifier, as with `v` in any case, and that it is none is the only failure. -/
theorem automatic_of_ofValue (directory modifier : String) (allowed : List String)
    (auto : (Modifier.parse modifier).auto = true) (color : (Modifier.parse modifier).color = false)
    (v : Value) :
    let r : Rules :=
      ⟨.inDirectory directory, allowed.map .text, modifier, Modifier.parse modifier⟩
    let outcome := ofValue (.inDirectory directory) (allowed.map .text) modifier v
    (∀ a s, v.toArg = .ok a → a.isText = false → outcome = .ok s →
        (∀ t, s ≠ quote t) ∧
          if r.letters.integer then ∃ n, a.toInt? = some n ∧ s = Numeral.integerText n
          else a.scriptText? = some s) ∧
      ∀ x, v.toArg = .ok (.text x) →
        (r.letters.refusesTexts = true → ∃ e, outcome = .error e) ∧
          (r.letters.refusesTexts = false →
            (∀ s, outcome = .ok s ↔
              (r.letters.variableName = true → Identifier.isIdentifier x = true) ∧
                (r.Quotes x s ∨
                  (¬∃ t, r.Quotes x t) ∧ Identifier.isIdentifier x = true ∧ s = x)) ∧
            ∀ e, outcome = .error e ↔
              e = Error.mismatch .variableName (.text x) (some modifier) ∧
                Identifier.isIdentifier x = false ∧
                (r.letters.variableName = true ∨ ¬∃ t, r.Quotes x t)) := by
  intro r outcome
  have rendered {a : Arg} (taken : v.toArg = .ok a) : outcome = r.render a :=
    ofValue_of_toArg taken (.inDirectory directory) (allowed.map .text) modifier
  constructor
  · intro a s taken noText accepted
    rw [rendered taken] at accepted
    obtain ⟨noMark, plain⟩ := Rules.plain_of_render auto color noText accepted
    refine ⟨?_, plain⟩
    rintro t rfl
    exact noMark '"' (mem_quote t) (by decide)
  · intro x taken
    rw [rendered taken]
    have listed (_ : r.letters.type = true) : ∃ e : Error, r.notAllowed (.text x) = e :=
      ⟨_, Rules.notAllowed_of_texts rfl (.text x)⟩
    constructor
    · intro refuses
      exact Rules.exists_error_of_refusesTexts auto refuses
    · intro takes
      constructor
      · intro s
        exact Rules.render_text_eq_ok_iff auto color takes listed
      · intro e
        exact Rules.render_text_eq_error_iff auto color takes listed

/-- A type is known by its letters in their case; a text that is none stays bare under `q`. -/
theorem automatic_other_case :
    (Modifier.parse "atq").auto = true ∧ (Modifier.parse "atq").color = false ∧
      ofValue (.inDirectory "/work/clips") [.text "Y8", .text "RGB"] "atq" (.text "Y8") =
        .ok "\"Y8\"" ∧
      ofValue (.inDirectory "/work/clips") [.text "Y8", .text "RGB"] "atq" (.text "y8") =
        .ok "y8" ∧
      ofValue (.inDirectory "/work/clips") [.text "Y8", .text "RGB"] "atq" (.text "4:2:0") =
        .error (Error.mismatch .variableName (.text "4:2:0") (some "atq")) := by
  have fragments (x : String) :=
    ((automatic_of_ofValue "/work/clips" "atq" ["Y8", "RGB"] rfl rfl
      (.text x)).2 x rfl).2 rfl
  have bare {x : String} (other : x ≠ "" ∧ Value.text x ∉ [Value.text "Y8", .text "RGB"]) :
      ¬∃ t, Rules.Quotes ⟨.inDirectory "/work/clips", [.text "Y8", .text "RGB"], "atq",
        Modifier.parse "atq"⟩ x t := by
    rintro ⟨t, quotes⟩
    cases quotes with
    | type letter known => exact known.elim other.1 other.2
    | path noType letter => cases noType
    | plain noType noPath letter => cases noType
  refine ⟨rfl, rfl, ?_, ?_, ?_⟩
  · apply ((fragments "Y8").1 _).2
    exact ⟨fun letter => (nomatch letter), .inl (.type rfl (.inr List.mem_cons_self))⟩
  · apply ((fragments "y8").1 _).2
    exact ⟨fun letter => (nomatch letter), .inr ⟨bare (by simp), by decide, rfl⟩⟩
  · apply ((fragments "4:2:0").2 _).2
    exact ⟨rfl, by decide, .inr (bare (by simp))⟩

end Fragment

end FilterScript
