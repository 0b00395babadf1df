import FilterScript.Fragment
import FilterScript.Proofs.Outcome

/-!
# What the checks ask for

The steps of a fragment as conditions. Each lemma says of one step which drafts it lets through and what it
makes of them, and all that is shown about the letters of a modifier together comes from these.

* **Before the checks** (`prepare_eq_ok_of_fresh`): a value whose text is not settled then is the value that
  was given.
* **Checks** (`check_eq_ok_iff`): which drafts pass, and as what.
* **Fragments** (`render_eq_ok_iff`): the drafts that a value is on its way to a fragment.
-/

namespace FilterScript

/-- The whole number that an argument is. -/
def Arg.toInt? : Arg → Option Int
  | .int n => some n
  | .float x => x.toInt?
  | _ => none

/-- Whether letters let no text through: `n`, `b`, `d` and `i`. -/
def Modifier.refusesTexts (m : Modifier) : Bool :=
  m.notPath || m.boolean || m.decimal || m.integer

/-- Whether letters settle the text of every value before it is checked: `e`, `f`, `p`, `q` and `t`,
unless `a` puts it off. -/
def Modifier.settlesText (m : Modifier) : Bool :=
  !m.auto && (m.escaped || m.file || m.path || m.quoted || m.type)

/-- Letters that settle texts turn the automatic handling off. -/
theorem Modifier.auto_of_settlesText {m : Modifier} (h : m.settlesText = true) : m.auto = false := by
  rw [settlesText, Bool.and_eq_true, Bool.not_eq_true'] at h
  exact h.1

/-- Letters that settle texts without escaping them quote them. -/
theorem Modifier.quotes_of_settlesText {m : Modifier} (h : m.settlesText = true)
    (plain : ¬m.escaped = true) : (m.file || m.path || m.quoted || m.type) = true := by
  rw [settlesText, Bool.and_eq_true, Bool.eq_false_iff.2 plain] at h
  exact h.2

namespace Fragment

/-- A draft that is no text has not been settled. -/
theorem Draft.settled_of_isText {d : Draft} (h : d.isText = false) :
    d.settled = none ∧ d.arg.isText = false := by
  rw [Draft.isText, Bool.or_eq_false_iff, Option.isSome_eq_false_iff,
    Option.isNone_iff_eq_none] at h
  exact h

/-- A settled draft counts as text. -/
theorem Draft.isText_of_settled {d : Draft} {s : String} (h : d.settled = some s) : d.isText = true := by
  rw [Draft.isText, h]
  rfl

/-- A draft of a text counts as text. -/
theorem Draft.isText_of_arg {d : Draft} {s : String} (h : d.arg = .text s) : d.isText = true := by
  rw [Draft.isText, h, Arg.isText, Bool.or_true]

namespace Rules

section Steps

variable {r : Rules} {d d' : Draft}

/-! ## Messages about types -/

/-- The message lists the types if they are all texts. -/
theorem notAllowed_of_texts {allowed : List String} (texts : r.types = allowed.map .text)
    (value : Value) : r.notAllowed value = (Error.notAllowed value allowed r.modifier).raise := by
  unfold notAllowed
  split
  · next found listed =>
    obtain rfl := Option.some.inj ((Value.mapM_text_eq_some_iff.2 texts).symm.trans listed)
    rfl
  · next unlisted => cases (Value.mapM_text_eq_some_iff.2 texts).symm.trans unlisted

/-- Types that are not all texts cannot be joined into the message. -/
theorem notAllowed_of_not_texts (other : ¬∃ allowed : List String, r.types = allowed.map .text)
    (value : Value) : r.notAllowed value = .fault .wrongKind := by
  unfold notAllowed
  split
  · next allowed listed => exact absurd ⟨allowed, Value.mapM_text_eq_some_iff.1 listed⟩ other
  · rfl

/-! ## Before the checks -/

/-- When the check of the types passes, and with what. -/
theorem checkType_eq_ok_iff :
    r.checkType d = .ok d' ↔ (r.letters.type = true → r.allows d.arg = true) ∧ d' = d := by
  rw [checkType, refused_eq_ok_iff]
  simp

/-- When the preparation passes: the types first, then the paths, then the quoting. -/
theorem prepare_eq_ok_iff (auto : r.letters.auto = false) :
    r.prepare d = .ok d' ↔
      (r.letters.type = true → r.allows d.arg = true) ∧
        ∃ e, r.resolve d = .ok e ∧ r.settleText e = .ok d' := by
  rw [prepare, if_neg (by simp [auto])]
  simp only [bind_eq_ok_iff, checkType_eq_ok_iff]
  constructor
  · rintro ⟨_, ⟨allowed, rfl⟩, e, resolved, settled⟩
    exact ⟨allowed, e, resolved, settled⟩
  · rintro ⟨allowed, e, resolved, settled⟩
    exact ⟨d, ⟨allowed, rfl⟩, e, resolved, settled⟩

/-- Letters that settle no text prepare nothing. -/
theorem prepare_of_not_settlesText (plain : r.letters.settlesText = false) (d : Draft) :
    r.prepare d = .ok d := by
  cases auto : r.letters.auto with
  | true => rw [prepare, if_pos auto]
  | false =>
    simp only [Modifier.settlesText, auto, Bool.not_false, Bool.true_and, Bool.or_eq_false_iff] at plain
    obtain ⟨⟨⟨⟨escaped, file⟩, path⟩, quoted⟩, type⟩ := plain
    rw [prepare_eq_ok_iff auto]
    refine ⟨by simp [type], d, ?_, ?_⟩
    · simp [resolve, file, path]
    · simp [settleText, escaped, file, path, quoted, type]

/-- Where letters settle texts, a draft is a text when it is checked. -/
theorem settled_of_prepare (settles : r.letters.settlesText = true) (h : r.prepare d = .ok d') :
    ∃ s, d'.settled = some s := by
  obtain ⟨-, e, -, settled⟩ := (prepare_eq_ok_iff (Modifier.auto_of_settlesText settles)).1 h
  unfold settleText at settled
  split at settled
  · split at settled
    · next s _ =>
      obtain rfl := Except.ok.inj settled
      exact ⟨escape s, rfl⟩
    · cases settled
  · next plain =>
    rw [if_pos (Modifier.quotes_of_settlesText settles plain), map_eq_ok_iff] at settled
    obtain ⟨s, -, rfl⟩ := settled
    exact ⟨quote s, rfl⟩

/-- **Before the checks**: a draft that is not settled is the one that was given. -/
theorem prepare_eq_ok_of_fresh (h : r.prepare d = .ok d') (fresh : d'.settled = none) :
    r.letters.settlesText = false ∧ d' = d := by
  cases settles : r.letters.settlesText with
  | false =>
    rw [prepare_of_not_settlesText settles] at h
    exact ⟨rfl, (Except.ok.inj h).symm⟩
  | true =>
    obtain ⟨s, settled⟩ := settled_of_prepare settles h
    cases settled.symm.trans fresh

/-! ## Checks -/

/-- When the check against paths passes. -/
theorem checkNotPath_eq_ok_iff :
    r.checkNotPath d = .ok d' ↔ (r.letters.notPath = true → d.isText = false) ∧ d' = d := by
  rw [checkNotPath, refused_eq_ok_iff]
  simp

/-- When the check for booleans passes. -/
theorem checkBoolean_eq_ok_iff :
    r.checkBoolean d = .ok d' ↔
      (r.letters.boolean = true → d.isText = false ∧ ∃ b, d.arg = .bool b) ∧ d' = d := by
  have variant : d.arg.variant = .bool ↔ ∃ b, d.arg = .bool b := by
    cases d.arg <;> simp [Arg.variant]
  rw [checkBoolean, refused_eq_ok_iff, ← variant]
  simp

/-- When the check for numbers passes. -/
theorem checkDecimal_eq_ok_iff :
    r.checkDecimal d = .ok d' ↔
      (r.letters.decimal = true → d.isText = false ∧ d.arg.isFiniteNumber = true) ∧ d' = d := by
  rw [checkDecimal, refused_eq_ok_iff]
  simp

/-- When the check for integers passes, and with which integer. -/
theorem checkInteger_eq_ok_iff :
    r.checkInteger d = .ok d' ↔
      (r.letters.integer = true →
        d.isText = false ∧ ∃ n, d.arg.toInt? = some n ∧ d' = d.withArg (.int n)) ∧
      (r.letters.integer = false → d' = d) := by
  unfold checkInteger
  rw [eq_comm (a := d') (b := d)]
  cases r.letters.integer with
  | false => simp
  | true =>
    cases text : d.isText with
    | true => simp
    | false =>
      obtain ⟨a, settled⟩ := d
      cases a with
      | int n => simp [Arg.toInt?, Draft.withArg, eq_comm (a := d')]
      | float x => cases whole : x.toInt? <;> simp [Arg.toInt?, whole, eq_comm (a := d')]
      | _ => simp [Arg.toInt?]

/-- When a color is read, and as what it is settled. -/
theorem settleColor_eq_ok_iff :
    r.settleColor d = .ok d' ↔
      (r.letters.color = false ∧ d' = d) ∨
        (r.letters.color = true ∧ ∃ s, r.services.parseColor d.value = .ok s ∧ d' = d.settle s) := by
  unfold settleColor
  rw [eq_comm (a := d') (b := d)]
  cases r.letters.color with
  | false => simp
  | true => cases r.services.parseColor d.value <;> simp [eq_comm (a := d')]

/-- Without the letter for colors nothing is read as one. -/
theorem settleColor_of_not_color (color : r.letters.color = false) (d : Draft) :
    r.settleColor d = .ok d :=
  settleColor_eq_ok_iff.2 (.inl ⟨color, rfl⟩)

/-- Whether a draft is the name of a variable, if the letters ask for one. -/
def NamesVariable (r : Rules) (d : Draft) : Prop :=
  r.letters.variableName = true →
    d.settled = none ∧ ∃ s, d.arg = .text s ∧ Identifier.isIdentifier s = true

/-- Without the letter for variables there is nothing to name. -/
theorem namesVariable_of_not_variableName (letter : r.letters.variableName = false) (d : Draft) :
    r.NamesVariable d := by
  simp [NamesVariable, letter]

/-- When the check for variable names passes. -/
theorem checkVariable_eq_ok_iff :
    r.checkVariable d = .ok d' ↔ r.NamesVariable d ∧ d' = d := by
  unfold checkVariable NamesVariable
  rw [eq_comm (a := d') (b := d)]
  cases r.letters.variableName with
  | false => simp
  | true =>
    obtain ⟨a, settled⟩ := d
    cases a with
    | text s =>
      cases settled with
      | none => by_cases name : Identifier.isIdentifier s = true <;> simp [name]
      | some t => simp
    | _ => simp

/-- Whether a draft passes the checks for a second path, for truth values and for numbers as another
draft. -/
structure Passes (r : Rules) (d e : Draft) : Prop where
  /-- There is no second path. -/
  notPath : r.letters.notPath = true → d.isText = false
  /-- The value is a truth value. -/
  boolean : r.letters.boolean = true → d.isText = false ∧ ∃ b, d.arg = .bool b
  /-- The value is a finite number. -/
  decimal : r.letters.decimal = true → d.isText = false ∧ d.arg.isFiniteNumber = true
  /-- The value is a whole number, and becomes one if it is a fractional one. -/
  integer : r.letters.integer = true →
    d.isText = false ∧ ∃ n, d.arg.toInt? = some n ∧ e = d.withArg (.int n)
  /-- No other value becomes another. -/
  same : r.letters.integer = false → e = d

/-- What is a text passes if no letter refuses texts, and stays as it is. -/
theorem passes_iff_of_isText (text : d.isText = true) :
    r.Passes d d' ↔ r.letters.refusesTexts = false ∧ d' = d := by
  have noText : d.isText ≠ false := Bool.ne_false_iff.2 text
  simp only [Modifier.refusesTexts, Bool.or_eq_false_iff]
  constructor
  · intro passes
    have notPath := Bool.eq_false_iff.2 fun letter => noText (passes.notPath letter)
    have boolean := Bool.eq_false_iff.2 fun letter => noText (passes.boolean letter).1
    have decimal := Bool.eq_false_iff.2 fun letter => noText (passes.decimal letter).1
    have integer := Bool.eq_false_iff.2 fun letter => noText (passes.integer letter).1
    exact ⟨⟨⟨⟨notPath, boolean⟩, decimal⟩, integer⟩, passes.same integer⟩
  · rintro ⟨⟨⟨⟨notPath, boolean⟩, decimal⟩, integer⟩, rfl⟩
    constructor
    · simp [notPath]
    · simp [boolean]
    · simp [decimal]
    · simp [integer]
    · exact fun _ => rfl

/-- A truth value is no number, and stays as it is. -/
theorem Passes.exists_bool (passes : r.Passes d d') (boolean : r.letters.boolean = true) :
    ∃ b, d.arg = .bool b ∧ r.letters.decimal = false ∧ r.letters.integer = false ∧ d' = d := by
  obtain ⟨-, b, truth⟩ := passes.boolean boolean
  have decimal : r.letters.decimal = false := by
    rw [Bool.eq_false_iff]
    intro letter
    have finite := (passes.decimal letter).2
    rw [truth] at finite
    cases finite
  have integer : r.letters.integer = false := by
    rw [Bool.eq_false_iff]
    intro letter
    obtain ⟨-, n, whole, -⟩ := passes.integer letter
    rw [truth] at whole
    cases whole
  exact ⟨b, truth, decimal, integer, passes.same integer⟩

/-- What names a variable after the checks before is no color and the text that it was. -/
theorem NamesVariable.exists_text {e f : Draft} (named : r.NamesVariable f)
    (letter : r.letters.variableName = true) (passes : r.Passes d e) (colored : r.settleColor e = .ok f) :
    r.letters.color = false ∧ f = d ∧ d.settled = none ∧
      ∃ s, d.arg = .text s ∧ Identifier.isIdentifier s = true := by
  obtain ⟨fresh, s, text, name⟩ := named letter
  rcases settleColor_eq_ok_iff.1 colored with ⟨color, rfl⟩ | ⟨-, t, -, rfl⟩
  · have integer : r.letters.integer = false := by
      rw [Bool.eq_false_iff]
      intro letter
      obtain ⟨-, n, -, rfl⟩ := passes.integer letter
      cases text
    obtain rfl := passes.same integer
    exact ⟨color, rfl, fresh, s, text, name⟩
  · cases fresh

/-- **Checks** pass a draft on, as the whole number that it has to be or as it is. Then its color is
settled, and after the check for variables its text. -/
theorem check_eq_ok_iff :
    r.check d = .ok d' ↔
      ∃ e f, r.Passes d e ∧ r.settleColor e = .ok f ∧ r.NamesVariable f ∧
        r.settleAuto f = .ok d' := by
  unfold check
  simp only [bind_eq_ok_iff, checkNotPath_eq_ok_iff, checkBoolean_eq_ok_iff, checkDecimal_eq_ok_iff,
    checkInteger_eq_ok_iff, checkVariable_eq_ok_iff]
  constructor
  · rintro ⟨_, ⟨notPath, rfl⟩, _, ⟨boolean, rfl⟩, _, ⟨decimal, rfl⟩, e, ⟨integer, same⟩, f, color, _,
      ⟨variableName, rfl⟩, settled⟩
    exact ⟨e, _, ⟨notPath, boolean, decimal, integer, same⟩, color, variableName, settled⟩
  · rintro ⟨e, f, passes, color, variableName, settled⟩
    exact ⟨d, ⟨passes.notPath, rfl⟩, d, ⟨passes.boolean, rfl⟩, d, ⟨passes.decimal, rfl⟩, e,
      ⟨passes.integer, passes.same⟩, f, color, f, ⟨variableName, rfl⟩, settled⟩

/-! ## Behind the checks -/

/-- Without automatic handling the last step does nothing. -/
theorem settleAuto_of_not_auto (auto : r.letters.auto = false) : r.settleAuto d = .ok d := by
  simp [settleAuto, auto]

/-- A settled draft needs no automatic handling. -/
theorem settleAuto_of_settled {s : String} (settled : d.settled = some s) :
    r.settleAuto d = .ok d := by
  unfold settleAuto
  split
  · rfl
  · simp [settled]

/-- The automatic handling is about texts only. -/
theorem settleAuto_of_not_text (text : d.arg.isText = false) : r.settleAuto d = .ok d := by
  unfold settleAuto
  split
  · rfl
  · obtain ⟨a, settled⟩ := d
    cases a with
    | text s => cases text
    | _ => rfl

/-- A settled draft is printed as it was settled. -/
theorem finish_of_settled {s : String} (settled : d.settled = some s) : finish d = .ok s := by
  rw [finish, settled]

/-- What is printed of a draft that nothing settled. -/
theorem finish_eq_ok_of_fresh (fresh : d.settled = none) {s : String} (h : finish d = .ok s) :
    d.arg.scriptText? = some s := by
  rw [finish, fresh] at h
  exact write_eq_ok_iff.1 h

end Steps

/-! ## Fragments -/

/-- **Fragments** are written from a value by way of the drafts that it is between the steps. -/
theorem render_eq_ok_iff {r : Rules} {a : Arg} {s : String} :
    r.render a = .ok s ↔
      ∃ d e f g, r.prepare ⟨a, none⟩ = .ok d ∧ r.Passes d e ∧ r.settleColor e = .ok f ∧
        r.NamesVariable f ∧ r.settleAuto f = .ok g ∧ finish g = .ok s := by
  unfold render
  simp only [bind_eq_ok_iff, check_eq_ok_iff]
  constructor
  · rintro ⟨d, prepared, g, ⟨e, f, passes, color, named, settled⟩, finished⟩
    exact ⟨d, e, f, g, prepared, passes, color, named, settled, finished⟩
  · rintro ⟨d, e, f, g, prepared, passes, color, named, settled, finished⟩
    exact ⟨d, prepared, g, ⟨e, f, passes, color, named, settled⟩, finished⟩

end Rules

/-- The fragment of a value is that of the argument that it is. -/
theorem ofValue_of_toArg {v : Value} {a : Arg} (taken : v.toArg = .ok a) (services : Services)
    (types : List Value) (modifier : String) :
    ofValue services types modifier v =
      Rules.render ⟨services, types, modifier, Modifier.parse modifier⟩ a := by
  rw [ofValue, taken]
  rfl

end Fragment

end FilterScript
