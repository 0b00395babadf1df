import FilterScript.Proofs.Fragment.Automatic
import FilterScript.Signature.Compile

/-!
# Types

A signature lists its types as texts with commas, or in a list whose items may be values of any kind, and
nothing looks at them before a call. A value is compared with the types one by one, which any of them stands.
But the message about a value that is none of them lists them all, and only texts can be listed.

* **Types** (`type_outcome`): which values are let through, and how the others fail.
* **Types that are no texts** (`type_number_wrongKind`): a list with a number in it is compiled, and a value
  that is none of its types is then not rejected with a message.
-/

namespace FilterScript

/-- Whether letters ask for a type and for nothing else. -/
structure Modifier.AsksType (m : Modifier) : Prop where
  type : m.type = true
  auto : m.auto = false
  escaped : m.escaped = false
  file : m.file = false
  path : m.path = false
  color : m.color = false
  variableName : m.variableName = false
  takesTexts : m.refusesTexts = false

/-- Whether letters ask for a type or the name of a variable, and for nothing else. -/
structure Modifier.AsksAutomaticType (m : Modifier) : Prop where
  type : m.type = true
  auto : m.auto = true
  color : m.color = false
  variableName : m.variableName = false
  takesTexts : m.refusesTexts = false

namespace Fragment

namespace Rules

section Types

variable {r : Rules} {a : Arg} {x s : String}

/-- What is let through as a type is one of them, or counts as absent. -/
theorem allows_iff :
    r.allows a = true ↔ (a.isTruthy = true → ∃ x, a = .text x ∧ .text x ∈ r.types) := by
  cases a with
  | text x =>
    rw [allows_text_iff]
    by_cases empty : x = ""
    · simp [empty, Arg.isTruthy]
    · simp [empty, Arg.isTruthy]
  | _ => simp [allows]

/-- What is let through as a type does not have too many digits: the only number among it is zero.
-/
theorem isWritable_of_allows (allowed : r.allows a = true) : a.isWritable = true := by
  cases a with
  | int n =>
    have zero : n = 0 := by simpa [allows, Arg.isTruthy] using allowed
    subst zero
    decide
  | _ => rfl

/-! ## Types that are asked for -/

/-- What is let through as a type is written between quotes. -/
theorem render_of_allows (letters : r.letters.AsksType) (written : a.scriptText? = some s)
    (allowed : r.allows a = true) : r.render a = .ok (quote s) := by
  have resolved : r.resolve ⟨a, none⟩ = .ok ⟨a, none⟩ := by
    simp [resolve, letters.file, letters.path]
  have settled : r.settleText ⟨a, none⟩ = .ok ⟨a, some (quote s)⟩ := by
    simp [settleText, letters.escaped, letters.type, write_eq_ok_iff.2 written, Draft.settle,
      Except.map]
  have prepared : r.prepare ⟨a, none⟩ = .ok ⟨a, some (quote s)⟩ :=
    (prepare_eq_ok_iff letters.auto).2 ⟨fun _ => allowed, _, resolved, settled⟩
  have passes := (passes_iff_of_isText (d := ⟨a, some (quote s)⟩) rfl).2 ⟨letters.takesTexts, rfl⟩
  exact render_eq_ok_iff.2 ⟨_, _, _, _, prepared, passes, settleColor_of_not_color letters.color _,
    namesVariable_of_not_variableName letters.variableName _, settleAuto_of_not_auto letters.auto, rfl⟩

/-- What is not let through as a type is refused for that, since types are looked at first. -/
theorem render_of_not_allows (letters : r.letters.AsksType) (other : r.allows a = false) :
    r.render a = .error (r.notAllowed (Value.ofArg a)) := by
  have refused : r.checkType ⟨a, none⟩ = .error (r.notAllowed (Value.ofArg a)) := by
    rw [checkType, letters.type, other]
    rfl
  rw [render, prepare, if_neg (by simp [letters.auto]), refused]
  rfl

/-! ## Automatic types -/

/-- The name of a variable is let through if it is a type or the types can be listed. -/
theorem exists_render_eq_ok_of_known (letters : r.letters.AsksAutomaticType)
    (name : Identifier.isIdentifier x = true)
    (known : .text x ∈ r.types ∨ ∃ allowed : List String, r.types = allowed.map .text) :
    ∃ s, r.render (.text x) = .ok s := by
  rcases known with type | ⟨allowed, texts⟩
  · have quotes : r.Quotes x (quote x) := .type letters.type (.inr type)
    rw [render_text_of_quotes letters.auto letters.color letters.takesTexts quotes]
    exact ⟨quote x, if_neg fun other => other.2 name⟩
  · exact exists_render_text_eq_ok letters.auto letters.color letters.takesTexts
      (fun _ => ⟨_, notAllowed_of_texts texts (.text x)⟩) name

/-- Whether an automatic text is a type is found out by way of the message that it is none. -/
theorem render_of_not_known (letters : r.letters.AsksAutomaticType)
    (name : Identifier.isIdentifier x = true)
    (unknown : ¬(.text x ∈ r.types ∨ ∃ allowed : List String, r.types = allowed.map .text)) :
    r.render (.text x) = .error Fault.wrongKind := by
  rw [not_or] at unknown
  have refused : ¬r.allows (.text x) = true := by
    rw [allows_text_iff, not_or]
    refine ⟨?_, unknown.1⟩
    rintro rfl
    cases name
  have failed : r.autoText x = .error Fault.wrongKind := by
    unfold autoText
    dsimp only
    rw [if_pos letters.type, if_neg refused, notAllowed_of_not_texts unknown.2]
  have noName : ¬(r.letters.variableName = true ∧ ¬Identifier.isIdentifier x) := fun other =>
    other.2 name
  rw [render_text letters.auto letters.color letters.takesTexts, if_neg noName, failed]
  rfl

end Types

end Rules

/-- **Types**, where the letters ask for nothing else. A value that counts as present is let through
if it is one of the types, and rejected with a message that lists them if they are texts and the
value can be shown in it. If they are not, or if the value is a whole number with too many digits,
it fails without one, and so does the name of a variable where types are automatic and are no texts.
-/
theorem type_outcome (directory modifier : String) (types : List Value) {v : Value} {a : Arg}
    (taken : v.toArg = .ok a) (present : a ≠ .omitted) :
    let outcome := ofValue (.inDirectory directory) types modifier v
    ((Modifier.parse modifier).AsksType →
        ((∃ s, outcome = .ok s) ↔
          (a.isTruthy = true → ∃ x, a = .text x ∧ .text x ∈ types)) ∧
        ∀ e, outcome = .error e →
          (∀ allowed : List String, types = allowed.map .text →
              (a.isWritable = true → e = Error.notAllowed (.ofArg a) allowed modifier) ∧
                (a.isWritable = false → e = Fault.tooManyDigits)) ∧
            ((¬∃ allowed : List String, types = allowed.map .text) → e = Fault.wrongKind)) ∧
      ((Modifier.parse modifier).AsksAutomaticType →
        ∀ x, a = .text x → Identifier.isIdentifier x = true →
          ((∃ s, outcome = .ok s) ↔
            .text x ∈ types ∨ ∃ allowed : List String, types = allowed.map .text) ∧
          ∀ e, outcome = .error e → e = Fault.wrongKind) := by
  intro outcome
  let r : Rules := ⟨.inDirectory directory, types, modifier, Modifier.parse modifier⟩
  have rendered : outcome = r.render a :=
    ofValue_of_toArg taken (.inDirectory directory) types modifier
  rw [rendered]
  constructor
  · intro letters
    cases allowed : r.allows a with
    | true =>
      obtain ⟨s, written⟩ := Arg.exists_scriptText? present (Rules.isWritable_of_allows allowed)
      rw [Rules.render_of_allows letters written allowed]
      exact ⟨iff_of_true ⟨_, rfl⟩ (Rules.allows_iff.1 allowed), fun e failed => nomatch failed⟩
    | false =>
      have refused : ¬r.allows a = true := by simp [allowed]
      rw [Rules.render_of_not_allows letters allowed]
      refine ⟨iff_of_false (not_exists_error_eq_ok _) (mt (Rules.allows_iff (r := r)).2 refused), ?_⟩
      intro e failed
      obtain rfl := Except.error.inj failed
      refine ⟨fun allowed texts => ?_, fun noTexts => Rules.notAllowed_of_not_texts noTexts _⟩
      have shown : Value.areShowable (Error.notAllowed (.ofArg a) allowed modifier).shownValues =
          a.isWritable := (Bool.and_true _).trans (Value.isShowable_ofArg a)
      rw [Rules.notAllowed_of_texts texts]
      exact ⟨fun fits => Error.raise_of_areShowable (shown.trans fits),
        fun long => Error.raise_of_not_areShowable (shown.trans long)⟩
  · rintro letters x rfl name
    by_cases known : .text x ∈ types ∨ ∃ allowed : List String, types = allowed.map .text
    · obtain ⟨s, accepted⟩ := Rules.exists_render_eq_ok_of_known (r := r) letters name known
      rw [accepted]
      exact ⟨iff_of_true ⟨s, rfl⟩ known, fun e failed => nomatch failed⟩
    · rw [Rules.render_of_not_known (r := r) letters name known]
      exact ⟨iff_of_false (not_exists_error_eq_ok _) known, fun e failed => (Except.error.inj failed).symm⟩

/-- Among types with a number, a type that is a text is found and another text is not reported. -/
theorem type_outcome_mixed :
    (Modifier.parse "rt").AsksType ∧
      (∃ s, ofValue (.inDirectory "/work/clips") [.int 8, .text "Y8"] "rt" (.text "Y8") = .ok s) ∧
      ¬∃ s, ofValue (.inDirectory "/work/clips") [.int 8, .text "Y8"] "rt" (.text "y8") = .ok s := by
  have letters : (Modifier.parse "rt").AsksType := by constructor <;> rfl
  have outcome (x : String) := ((type_outcome "/work/clips" "rt" [.int 8, .text "Y8"]
    (v := .text x) rfl Arg.noConfusion).1 letters).1
  refine ⟨letters, (outcome "Y8").2 fun _ => ⟨"Y8", rfl, by simp⟩, ?_⟩
  rw [outcome "y8"]
  intro known
  obtain ⟨x, same, type⟩ := known rfl
  obtain rfl := Arg.text.inj same
  simp at type

/-- **Types that are no texts** are compiled, and then a value that is none of them is not rejected
with a message. -/
theorem type_number_wrongKind :
    (∃ params, Signature.compile "Foo(t:)" .null (.list [.int 1]) = .ok ⟨"Foo", params, [.int 1]⟩) ∧
      ofValue (.inDirectory "/work/clips") [.int 1] "t" (.text "x") = .error Fault.wrongKind ∧
      ¬∀ (name : String) (lists types : Value) (signature : Signature),
        Signature.compile name lists types = .ok signature →
        ∀ (directory modifier : String) (v : Value) (a : Arg), (Modifier.parse modifier).AsksType →
          v.toArg = .ok a → a.isTruthy = true → (¬∃ x, a = .text x ∧ .text x ∈ signature.types) →
          ∃ allowed : List String, ofValue (.inDirectory directory) signature.types modifier v =
            .error (Error.notAllowed (.ofArg a) allowed modifier) := by
  have compiled : ∃ params,
      Signature.compile "Foo(t:)" .null (.list [.int 1]) = .ok ⟨"Foo", params, [.int 1]⟩ :=
    ⟨_, rfl⟩
  have failed : ofValue (.inDirectory "/work/clips") [.int 1] "t" (.text "x") =
      .error Fault.wrongKind := rfl
  have letters : (Modifier.parse "t").AsksType := by constructor <;> rfl
  refine ⟨compiled, failed, fun all => ?_⟩
  obtain ⟨params, compiled⟩ := compiled
  obtain ⟨allowed, reported⟩ := all _ _ _ _ compiled "/work/clips" "t" (.text "x") (.text "x") letters rfl
    rfl (by simp)
  cases failed.symm.trans reported

end Fragment

end FilterScript
