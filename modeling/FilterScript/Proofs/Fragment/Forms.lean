import FilterScript.Proofs.Fragment.Checks
import FilterScript.Proofs.Text.OneLine

/-!
# Forms of fragments

A value that its modifier lets through is written in one of four forms: as the literal of a color,
with escapes in triple quotes, in its plain notation, or in that notation between quotes. Which of
the letters stand in the modifier decides on the first two forms; the text that the last two are
made of is the text that was given, or the absolute path that it stands for.

* **Forms** (`form_of_render`): every fragment has one of the forms.
* **Line feeds** (`Form.isOneLine_iff`): only a text brings line feeds into its fragment, and it does
  so unless it becomes the literal of a color or is escaped.
-/

namespace FilterScript

namespace Fragment

namespace Rules

/-! ## The forms -/

/-- Whether texts are written with escapes. Automatic ones are not. -/
def escapes (r : Rules) : Bool :=
  r.letters.escaped && !r.letters.auto

/-- Whether texts are taken as paths. Automatic ones are, unless they are types. -/
def takesPath (r : Rules) : Bool :=
  if r.letters.auto then r.letters.path && !r.letters.type else r.letters.file || r.letters.path

/-- Without automatic handling only the letters for files and paths ask for a path. -/
theorem takesPath_of_not_auto {r : Rules} (auto : r.letters.auto = false) :
    r.takesPath = (r.letters.file || r.letters.path) := by
  simp [takesPath, auto]

/-- The text that is written for a text: the absolute path, where it is taken as a path. -/
def carried (r : Rules) (s : String) : String :=
  if r.takesPath then r.services.resolvePath s else s

/-- The value that is written for a value. -/
def taken (r : Rules) : Arg → Arg
  | .text s => .text (r.carried s)
  | a => a

/-- The notations that a value has in scripts, without quotes around them. A fractional number is
written as a whole one, where it has to be one. -/
inductive Spells (r : Rules) (a : Arg) : String → Prop
  | plain {s : String} (written : (r.taken a).scriptText? = some s) : Spells r a s
  | whole {x : Binary64} {n : Int} (number : a = .float x) (integral : x.toInt? = some n) :
    Spells r a (Numeral.integerText n)

/-- The forms that a fragment has. -/
inductive Form (r : Rules) (a : Arg) : String → Prop
  | literal {v : Value} {s : String} (color : r.letters.color = true)
    (read : r.services.parseColor v = .ok s) : Form r a s
  | escaped {s : String} (color : r.letters.color = false) (escapes : r.escapes = true)
    (text : a = .text s) : Form r a (escape (r.carried s))
  | plain {s : String} (color : r.letters.color = false) (escapes : r.escapes = false)
    (spells : r.Spells a s) : Form r a s
  | quoted {s : String} (color : r.letters.color = false) (escapes : r.escapes = false)
    (spells : r.Spells a s) : Form r a (quote s)

/-! ## What each step leaves -/

section Steps

variable {r : Rules} {d d' : Draft}

/-- What passes the checks is what it was, or the whole number that a fractional one is. -/
theorem Passes.whole (passes : r.Passes d d') :
    d' = d ∨ ∃ x n, d.arg = .float x ∧ x.toInt? = some n ∧ d.settled = none ∧
      d' = d.withArg (.int n) := by
  cases integer : r.letters.integer with
  | false => exact .inl (passes.same integer)
  | true =>
    obtain ⟨noText, n, integral, rfl⟩ := passes.integer integer
    obtain ⟨a, settled⟩ := d
    cases a with
    | int m =>
      obtain rfl := Option.some.inj integral
      exact .inl rfl
    | float x => exact .inr ⟨x, n, rfl, integral, (Draft.settled_of_isText noText).1, rfl⟩
    | _ => cases integral

/-- What automatic text becomes: it is quoted, or it is an identifier and stays as it is. -/
theorem autoText_eq_ok (auto : r.letters.auto = true) {s : String} {settled : Option String}
    (h : r.autoText s = .ok settled) :
    settled = some (quote (r.carried s)) ∨ settled = none ∧ r.carried s = s := by
  have variableOnly (noPath : r.takesPath = false)
      (h : (if Identifier.isIdentifier s then (.ok none : Outcome (Option String))
        else .error (r.mismatch .variableName (.text s))) = .ok settled) :
      settled = some (quote (r.carried s)) ∨ settled = none ∧ r.carried s = s := by
    split at h
    · exact .inr ⟨(Except.ok.inj h).symm, by simp [carried, noPath]⟩
    · cases h
  unfold autoText at h
  dsimp only at h
  split at h
  · next type =>
    have noPath : r.takesPath = false := by simp [takesPath, auto, type]
    split at h
    · obtain rfl := Except.ok.inj h
      exact .inl (by simp [carried, noPath])
    · split at h
      · exact variableOnly noPath h
      · cases h
  · next noType =>
    split at h
    · next path =>
      obtain rfl := Except.ok.inj h
      exact .inl (by simp [carried, takesPath, auto, path, noType])
    · next noPath =>
      have noPath : r.takesPath = false := by simp [takesPath, auto, noPath]
      split at h
      · obtain rfl := Except.ok.inj h
        exact .inl (by simp [carried, noPath])
      · exact variableOnly noPath h

/-- An automatic value that nothing has settled is a text, or stays as it is. -/
theorem settleAuto_eq_ok (fresh : d.settled = none) (h : r.settleAuto d = .ok d') :
    (∃ s settled, d.arg = .text s ∧ r.autoText s = .ok settled ∧ d' = ⟨d.arg, settled⟩) ∨
      ((r.letters.auto = true → d.arg.isText = false) ∧ d' = d) := by
  unfold settleAuto at h
  split at h
  · next noAuto => exact .inr ⟨fun auto => by simp [auto] at noAuto, (Except.ok.inj h).symm⟩
  · split at h
    · next s text _ =>
      cases became : r.autoText s with
      | error e =>
        rw [became] at h
        cases h
      | ok settled =>
        rw [became] at h
        exact .inl ⟨s, settled, text, became, (Except.ok.inj h).symm⟩
    · next other =>
      refine .inr ⟨fun _ => ?_, (Except.ok.inj h).symm⟩
      cases kind : d.arg with
      | text s => exact absurd fresh (other s kind)
      | _ => rfl

/-- What the preparation of paths leaves, where it passes. -/
theorem resolve_eq_ok (auto : r.letters.auto = false) (h : r.resolve d = .ok d') :
    d' = d.withArg (r.taken d.arg) := by
  unfold resolve at h
  split at h
  · next path =>
    split at h
    · next s text =>
      rw [← Except.ok.inj h, text, taken, carried, takesPath, auto]
      simp [path]
    · cases h
  · next noPath =>
    obtain rfl := Except.ok.inj h
    have same : r.taken d.arg = d.arg := by
      cases d.arg with
      | text s => simp [taken, carried, takesPath, auto, noPath]
      | _ => rfl
    rw [same]
    rfl

/-- A text may be settled with escapes, and otherwise any value may be settled between quotes. -/
theorem settleText_eq_ok (h : r.settleText d = .ok d') :
    d'.arg = d.arg ∧
      ((r.letters.escaped = true ∧ ∃ s, d.arg = .text s ∧ d'.settled = some (escape s)) ∨
        (r.letters.escaped = false ∧
          (d'.settled = d.settled ∨
            ∃ s, d.arg.scriptText? = some s ∧ d'.settled = some (quote s)))) := by
  unfold settleText at h
  split at h
  · next escaped =>
    split at h
    · next s text =>
      obtain rfl := Except.ok.inj h
      exact ⟨rfl, .inl ⟨escaped, s, text, rfl⟩⟩
    · cases h
  · next plain =>
    have unescaped : r.letters.escaped = false := Bool.not_eq_true _ ▸ plain
    split at h
    · obtain ⟨s, written, rfl⟩ := map_eq_ok_iff.1 h
      exact ⟨rfl, .inr ⟨unescaped, .inr ⟨s, write_eq_ok_iff.1 written, rfl⟩⟩⟩
    · obtain rfl := Except.ok.inj h
      exact ⟨rfl, .inr ⟨unescaped, .inl rfl⟩⟩

end Steps

/-! ## Whole fragments -/

section Whole

variable {r : Rules} {a : Arg} {d d' : Draft} {s : String}

/-- What a value is before the checks, where it is not automatic. -/
theorem prepare_eq_ok (auto : r.letters.auto = false) (h : r.prepare ⟨a, none⟩ = .ok d) :
    d.arg = r.taken a ∧
      ((r.escapes = true ∧ ∃ s, a = .text s ∧ d.settled = some (escape (r.carried s))) ∨
        (r.escapes = false ∧
          (d.settled = none ∨
            ∃ s, (r.taken a).scriptText? = some s ∧ d.settled = some (quote s)))) := by
  obtain ⟨-, _, path, form⟩ := (prepare_eq_ok_iff auto).1 h
  obtain rfl := resolve_eq_ok auto path
  have escapes : r.escapes = r.letters.escaped := by simp [Rules.escapes, auto]
  obtain ⟨arg, settled⟩ := settleText_eq_ok form
  rw [escapes]
  refine ⟨arg, settled.imp ?_ id⟩
  rintro ⟨escaped, t, text, settled⟩
  cases a with
  | text s =>
    obtain rfl : r.carried s = t := Arg.text.inj text
    exact ⟨escaped, s, rfl, settled⟩
  | _ => cases text

/-- A draft that is not automatic and no color is what it was before the checks, or the whole number
that a fractional one is. -/
theorem form_of_not_auto (color : r.letters.color = false) (auto : r.letters.auto = false)
    (prepared : r.prepare ⟨a, none⟩ = .ok d)
    (whole : d' = d ∨ ∃ x n, d.arg = .float x ∧ x.toInt? = some n ∧ d.settled = none ∧
      d' = d.withArg (.int n))
    (finished : finish d' = .ok s) : r.Form a s := by
  obtain ⟨arg, ⟨escapes, t, rfl, settled⟩ | ⟨escapes, settled⟩⟩ := prepare_eq_ok auto prepared
  · rcases whole with rfl | ⟨x, n, number, -⟩
    · rw [finish_of_settled settled] at finished
      obtain rfl := Except.ok.inj finished
      exact .escaped color escapes rfl
    · cases arg.symm.trans number
  · rcases whole with rfl | ⟨x, n, number, integral, fresh, rfl⟩
    · rcases settled with fresh | ⟨t, written, settled⟩
      · have written := finish_eq_ok_of_fresh fresh finished
        rw [arg] at written
        exact .plain color escapes (.plain written)
      · rw [finish_of_settled settled] at finished
        obtain rfl := Except.ok.inj finished
        exact .quoted color escapes (.plain written)
    · have given : a = .float x := by
        rw [arg] at number
        cases a with
        | text t => cases number
        | _ => exact number
      have written := finish_eq_ok_of_fresh (d := d.withArg (.int n)) fresh finished
      obtain ⟨-, rfl⟩ := Arg.scriptText?_int_eq_some_iff.1 written
      exact .plain color escapes (.whole given integral)

/-- An automatic draft that is no color is what it was, or a text that has been settled. -/
theorem form_of_auto (color : r.letters.color = false) (auto : r.letters.auto = true)
    (whole : d = ⟨a, none⟩ ∨ ∃ x n, a = .float x ∧ x.toInt? = some n ∧ d = ⟨.int n, none⟩)
    (settled : r.settleAuto d = .ok d') (finished : finish d' = .ok s) : r.Form a s := by
  have escapes : r.escapes = false := by simp [Rules.escapes, auto]
  have fresh : d.settled = none := by
    rcases whole with rfl | ⟨x, n, -, -, rfl⟩ <;> rfl
  rcases settleAuto_eq_ok fresh settled with ⟨t, became, text, automatic, rfl⟩ | ⟨noText, rfl⟩
  · rcases whole with rfl | ⟨x, n, -, -, rfl⟩
    · dsimp only at text
      subst text
      rcases autoText_eq_ok auto automatic with rfl | ⟨rfl, same⟩
      · obtain rfl := Except.ok.inj finished
        exact .quoted color escapes (.plain rfl)
      · have written := finish_eq_ok_of_fresh rfl finished
        rw [← same] at written
        exact .plain color escapes (.plain written)
    · cases text
  · have written := finish_eq_ok_of_fresh fresh finished
    rcases whole with rfl | ⟨x, n, rfl, integral, rfl⟩
    · refine .plain color escapes (.plain ?_)
      cases a with
      | text t => cases noText auto
      | _ => exact written
    · obtain ⟨-, rfl⟩ := Arg.scriptText?_int_eq_some_iff.1 written
      exact .plain color escapes (.whole rfl integral)

/-- **Forms**: every fragment has one of the forms. -/
theorem form_of_render (h : r.render a = .ok s) : r.Form a s := by
  obtain ⟨d, e, f, d', prepared, passes, colored, -, settled, finished⟩ := render_eq_ok_iff.1 h
  have whole := passes.whole
  rcases settleColor_eq_ok_iff.1 colored with ⟨color, rfl⟩ | ⟨color, literal, read, rfl⟩
  · cases auto : r.letters.auto with
    | false =>
      rw [settleAuto_of_not_auto auto] at settled
      obtain rfl := Except.ok.inj settled
      exact form_of_not_auto color auto prepared whole finished
    | true =>
      rw [prepare, if_pos auto] at prepared
      obtain rfl := Except.ok.inj prepared
      refine form_of_auto color auto (whole.imp id ?_) settled finished
      rintro ⟨x, n, number, integral, -, rfl⟩
      exact ⟨x, n, number, integral, rfl⟩
  · rw [settleAuto_of_settled (s := literal) rfl] at settled
    obtain rfl := Except.ok.inj settled
    obtain rfl := Except.ok.inj finished
    exact .literal color read

end Whole

/-! ## Line feeds -/

section LineFeeds

variable {r : Rules} {a : Arg} {s : String}

/-- Whether a value brings line feeds into what it is written as: a text does that neither becomes
the literal of a color nor is escaped. -/
def BringsLineFeed (r : Rules) (a : Arg) : Prop :=
  r.letters.color = false ∧ r.escapes = false ∧ ∃ s, a = .text s ∧ ¬Text.IsOneLine (r.carried s)

/-- Quoting neither adds nor removes line feeds. -/
theorem isOneLine_quote {s : String} : Text.IsOneLine (quote s) ↔ Text.IsOneLine s := by
  rw [quote, Text.isOneLine_append, Text.isOneLine_append]
  exact ⟨fun h => h.1.2, fun h => ⟨⟨by decide, h⟩, by decide⟩⟩

/-- An escaped text has no line feed. -/
theorem isOneLine_escape (s : String) : Text.IsOneLine (escape s) := by
  have body : Text.IsOneLine (String.ofList (escapeChars s.toList)) :=
    Text.isOneLine_ofList.2 (lineFeed_not_mem_escapeChars s.toList)
  rw [escape, Text.isOneLine_append, Text.isOneLine_append]
  exact ⟨⟨by decide, body⟩, by decide⟩

/-- A notation of a value is on one line unless the value is a text with line feeds. -/
theorem Spells.isOneLine_iff (spells : r.Spells a s) :
    Text.IsOneLine s ↔ ∀ t, a = .text t → Text.IsOneLine (r.carried t) := by
  cases spells with
  | plain written =>
    cases a with
    | text t =>
      obtain rfl := Option.some.inj written
      constructor
      · rintro oneLine u ⟨rfl⟩
        exact oneLine
      · exact fun h => h t rfl
    | _ => exact iff_of_true (Arg.isOneLine_scriptText rfl written) fun _ absent => nomatch absent
  | whole number integral =>
    subst number
    exact iff_of_true (Numeral.isOneLine_integerText _) fun _ absent => nomatch absent

/-- **Line feeds**: a fragment is on one line unless its value brings line feeds into it. -/
theorem Form.isOneLine_iff (form : r.Form a s)
    (colors : ∀ v s, r.services.parseColor v = .ok s → Text.IsOneLine s) :
    Text.IsOneLine s ↔ ¬r.BringsLineFeed a := by
  have spelled {s : String} (color : r.letters.color = false) (escapes : r.escapes = false)
      (spells : r.Spells a s) : Text.IsOneLine s ↔ ¬r.BringsLineFeed a := by
    rw [spells.isOneLine_iff]
    simp only [BringsLineFeed, color, escapes, true_and, not_exists, not_and,
      Decidable.not_not]
  cases form with
  | literal color read =>
    exact iff_of_true (colors _ _ read) fun h => by simp [h.1] at color
  | escaped color escapes text =>
    exact iff_of_true (isOneLine_escape _) fun h => by simp [h.2.1] at escapes
  | plain color escapes spells => exact spelled color escapes spells
  | quoted color escapes spells =>
    rw [isOneLine_quote]
    exact spelled color escapes spells

end LineFeeds

end Rules

end Fragment

end FilterScript
