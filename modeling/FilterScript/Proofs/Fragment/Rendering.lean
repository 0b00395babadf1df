import FilterScript.Proofs.Fragment.Checks
import Mathlib.Data.Set.List

/-!
# Rendering

A value is rendered in steps. Each step lets its draft through, changes it, or fails, and what all
of them have in common is shown here step by step and then of the chain.

* **Rejections** (`render_passes`): where the types are texts, a value that is not omitted has a
  fragment or is rejected by one of the letters. No step makes an omitted value of another one, so
  the notation that omitted values do not have is never asked for, and no step makes a number with too
  many digits of another one, so only these can be neither written nor named in a message.
* **What fragments depend on** (`alike_render_of_parse`): the text of a modifier stands only in errors, and
  the letter for several values is not looked at, so neither changes a fragment.
-/

namespace FilterScript

/-- Whether an error says that a value does not pass the letters of its modifier. -/
inductive Error.IsRejection : Error → Prop
  | mismatch (expected : Expected) (value : Value) (modifier : Option String) :
    IsRejection (.mismatch expected value modifier)
  | notAllowed (value : Value) (allowed : List String) (modifier : String) :
    IsRejection (.notAllowed value allowed modifier)
  | secondPath (value : Value) (modifier : String) : IsRejection (.secondPath value modifier)

/-- Whether a failure is the rejection of a value, or the fault of a whole number with too many
digits where there may be one. -/
inductive Failure.IsRejection (long : Prop) : Failure → Prop
  | rejection {e : Error} (h : e.IsRejection) : IsRejection long (.error e)
  | tooManyDigits (h : long) : IsRejection long (.fault .tooManyDigits)

/-- A rejection with the value that it is about is raised as a rejection if the value can be shown,
and is a fault if it cannot. -/
theorem Error.isRejection_raise {e : Error} (rejects : e.IsRejection) {v : Value}
    (about : ∀ w ∈ e.shownValues, w = v) : Failure.IsRejection (v.isShowable = false) e.raise := by
  cases shown : Value.areShowable e.shownValues with
  | true =>
    rw [raise_of_areShowable shown]
    exact .rejection rejects
  | false =>
    rw [raise_of_not_areShowable shown]
    rw [Value.areShowable_eq_all, List.all_eq_false] at shown
    obtain ⟨w, inside, unshown⟩ := shown
    obtain rfl := about w inside
    exact .tooManyDigits (Bool.eq_false_iff.2 unshown)

/-- The message about a value that was not expected shows no other value. -/
theorem Error.isRejection_raise_mismatch (expected : Expected) (v : Value)
    (modifier : Option String) :
    Failure.IsRejection (v.isShowable = false) (Error.mismatch expected v modifier).raise := by
  refine isRejection_raise (.mismatch expected v modifier) fun w inside => ?_
  cases expected with
  | variableName => cases inside
  | _ => exact List.mem_singleton.1 inside

/-- A value that is no color is rejected. -/
theorem Color.isRejection_of_parse_eq_error {value : Value} {e : Failure}
    (h : Color.parse value = .error e) : e.IsRejection (value.isShowable = false) := by
  have rejects (v : Value) : (noColor v).raise.IsRejection (v.isShowable = false) :=
    Error.isRejection_raise_mismatch .color v none
  have ofInt {n : Int} (out : Color.ofInt n = .error e) :
      e.IsRejection ((Value.int n).isShowable = false) := by
    unfold Color.ofInt at out
    split at out
    · rw [← Except.error.inj out]
      exact rejects (.int n)
    · cases out
  unfold Color.parse at h
  split at h
  · exact ofInt h
  · next x =>
    split at h
    · next n whole =>
      cases ofInt h with
      | rejection rejected => exact .rejection rejected
      | tooManyDigits long =>
        exact absurd (long.symm.trans (Binary64.isWritable_of_toInt? whole)) Bool.false_ne_true
    · rw [← Except.error.inj h]
      exact rejects (.float x)
  · next s =>
    split at h
    · cases h
    · rw [← Except.error.inj h]
      exact rejects (.text s)
  · rw [← Except.error.inj h]
    exact rejects value

namespace Fragment

/-! ## Rejections -/

section Passing

variable {α β : Type} {long : Prop} {P : α → Prop} {Q : β → Prop}

/-- Whether an outcome is a value with a property, or else the rejection of a value. Whether there
may be too many digits is up to `long`. -/
def PassesOrRejects (long : Prop) (P : α → Prop) : Outcome α → Prop
  | .ok a => P a
  | .error e => e.IsRejection long

/-- A step that passes or rejects is followed by steps that do. -/
theorem PassesOrRejects.bind {o : Outcome α} {f : α → Outcome β} (h : PassesOrRejects long P o)
    (next : ∀ a, P a → PassesOrRejects long Q (f a)) : PassesOrRejects long Q (o >>= f) := by
  cases o with
  | error failure => exact h
  | ok a => exact next a h

/-- What is made of a value that passes passes as well. -/
theorem PassesOrRejects.map {o : Outcome α} {f : α → β} (h : PassesOrRejects long P o)
    (next : ∀ a, P a → Q (f a)) : PassesOrRejects long Q (o.map f) := by
  cases o with
  | error failure => exact h
  | ok a => exact next a h

/-- An outcome that passes or rejects is a value, a rejection, or a fault because of many digits. -/
theorem PassesOrRejects.cases {o : Outcome α} (h : PassesOrRejects long P o) :
    (∃ a, P a ∧ o = .ok a) ∨ (∃ e : Error, e.IsRejection ∧ o = .error (.error e)) ∨
      (long ∧ o = .error (.fault .tooManyDigits)) := by
  cases o with
  | ok a => exact .inl ⟨a, h, rfl⟩
  | error failure =>
    cases h with
    | rejection rejected => exact .inr (.inl ⟨_, rejected, rfl⟩)
    | tooManyDigits long => exact .inr (.inr ⟨long, rfl⟩)

end Passing

/-- Whether a draft may come from an argument: it holds a value that is not omitted, and too many
digits only if the argument has them. -/
structure Draft.IsFrom (a : Arg) (d : Draft) : Prop where
  /-- The value is not omitted. -/
  present : d.arg ≠ .omitted
  /-- A whole number with too many digits is not made on the way. -/
  long : d.arg.isWritable = false → a.isWritable = false

namespace Rules

/-- Whether rules can only reject: the types are texts, and colors are rejected if they are not
read. -/
structure IsSound (r : Rules) : Prop where
  /-- The types can be listed in a message. -/
  texts : ∀ v ∈ r.types, ∃ s, v = .text s
  /-- A value that is no color is rejected. -/
  colors : ∀ v e, r.services.parseColor v = .error e → e.IsRejection (v.isShowable = false)

section Steps

variable {r : Rules} {a : Arg} {d : Draft}

/-- What is said of the value of a draft is said of the argument that it comes from. -/
theorem isRejection_of_value {e : Failure} (made : d.IsFrom a)
    (h : e.IsRejection (d.value.isShowable = false)) : e.IsRejection (a.isWritable = false) := by
  cases h with
  | rejection rejected => exact .rejection rejected
  | tooManyDigits long =>
    rw [Draft.value, Value.isShowable_ofArg] at long
    exact .tooManyDigits (made.long long)

/-- A draft whose value was not expected is rejected. -/
theorem passes_mismatch {α : Type} {P : α → Prop} (made : d.IsFrom a) (expected : Expected) :
    PassesOrRejects (a.isWritable = false) P (.error (r.mismatch expected d.value)) :=
  isRejection_of_value made (Error.isRejection_raise_mismatch expected d.value (some r.modifier))

/-- A text that names no variable is rejected. -/
theorem passes_badName {α : Type} {P : α → Prop} {long : Prop} (s : String) :
    PassesOrRejects long P (.error (r.mismatch .variableName (.text s))) :=
  .rejection (.mismatch .variableName (.text s) (some r.modifier))

/-- Types of which each is a text are a list of texts. -/
theorem IsSound.exists_texts (sound : r.IsSound) :
    ∃ allowed : List String, r.types = allowed.map .text := by
  have inside : r.types ∈ Set.range (List.map Value.text) := by
    rw [Set.range_list_map]
    intro v hv
    obtain ⟨s, rfl⟩ := sound.texts v hv
    exact ⟨s, rfl⟩
  obtain ⟨allowed, texts⟩ := inside
  exact ⟨allowed, texts.symm⟩

/-- Types that are texts can be listed in a message about a text. -/
theorem notAllowed_text (sound : r.IsSound) (s : String) :
    ∃ allowed, r.notAllowed (.text s) = .error (.notAllowed (.text s) allowed r.modifier) := by
  obtain ⟨allowed, texts⟩ := sound.exists_texts
  refine ⟨allowed, (notAllowed_of_texts texts (.text s)).trans ?_⟩
  exact Error.raise_of_areShowable rfl

/-- A draft whose value is none of the types is rejected. -/
theorem passes_notAllowed {α : Type} {P : α → Prop} (sound : r.IsSound) (made : d.IsFrom a) :
    PassesOrRejects (a.isWritable = false) P (.error (r.notAllowed d.value)) := by
  obtain ⟨allowed, texts⟩ := sound.exists_texts
  rw [notAllowed_of_texts texts]
  exact isRejection_of_value made (Error.isRejection_raise (.notAllowed d.value allowed r.modifier)
    fun w inside => List.mem_singleton.1 inside)

/-- A draft is written, unless it comes from an argument with too many digits. -/
theorem write_passes (made : d.IsFrom a) :
    PassesOrRejects (a.isWritable = false) (fun _ => True) (write d.arg) := by
  cases written : write d.arg with
  | ok s => trivial
  | error e =>
    obtain ⟨long, rfl⟩ := write_eq_error made.present written
    exact .tooManyDigits (made.long long)

/-- The check of the types passes a draft on or rejects it. -/
theorem checkType_passes (sound : r.IsSound) (made : d.IsFrom a) :
    PassesOrRejects (a.isWritable = false) (Draft.IsFrom a) (r.checkType d) := by
  unfold checkType
  split
  · exact passes_notAllowed sound made
  · exact made

/-- The preparation of a path passes or rejects. -/
theorem resolve_passes (made : d.IsFrom a) :
    PassesOrRejects (a.isWritable = false) (Draft.IsFrom a) (r.resolve d) := by
  unfold resolve
  split
  · split
    · exact ⟨Arg.noConfusion, fun long => nomatch long⟩
    · exact passes_mismatch made _
  · exact made

/-- The quoting of a text passes or rejects. -/
theorem settleText_passes (made : d.IsFrom a) :
    PassesOrRejects (a.isWritable = false) (Draft.IsFrom a) (r.settleText d) := by
  unfold settleText
  split
  · split
    · exact ⟨made.present, made.long⟩
    · exact passes_mismatch made _
  · split
    · exact (write_passes made).map fun _ _ => ⟨made.present, made.long⟩
    · exact made

/-- The check against paths passes or rejects. -/
theorem checkNotPath_passes (made : d.IsFrom a) :
    PassesOrRejects (a.isWritable = false) (Draft.IsFrom a) (r.checkNotPath d) := by
  unfold checkNotPath
  split
  · exact .rejection (.secondPath _ _)
  · exact made

/-- The check for booleans passes or rejects. -/
theorem checkBoolean_passes (made : d.IsFrom a) :
    PassesOrRejects (a.isWritable = false) (Draft.IsFrom a) (r.checkBoolean d) := by
  unfold checkBoolean
  split
  · exact passes_mismatch made _
  · exact made

/-- The check for numbers passes or rejects. -/
theorem checkDecimal_passes (made : d.IsFrom a) :
    PassesOrRejects (a.isWritable = false) (Draft.IsFrom a) (r.checkDecimal d) := by
  unfold checkDecimal
  split
  · exact passes_mismatch made _
  · exact made

/-- The whole number that a fractional one is does not have too many digits. -/
theorem checkInteger_passes (made : d.IsFrom a) :
    PassesOrRejects (a.isWritable = false) (Draft.IsFrom a) (r.checkInteger d) := by
  unfold checkInteger
  split
  · exact made
  · split
    · exact passes_mismatch made _
    · split
      · exact made
      · split
        · next n whole =>
          refine ⟨Arg.noConfusion, fun long => ?_⟩
          exact absurd (long.symm.trans (Binary64.isWritable_of_toInt? whole)) Bool.false_ne_true
        · exact passes_mismatch made _
      · exact passes_mismatch made _

/-- A color is read or rejected, the services being sound. -/
theorem settleColor_passes (sound : r.IsSound) (made : d.IsFrom a) :
    PassesOrRejects (a.isWritable = false) (Draft.IsFrom a) (r.settleColor d) := by
  unfold settleColor
  split
  · split
    · exact ⟨made.present, made.long⟩
    · next e failed => exact isRejection_of_value made (sound.colors _ e failed)
  · exact made

/-- The check for variable names passes or rejects. -/
theorem checkVariable_passes (made : d.IsFrom a) :
    PassesOrRejects (a.isWritable = false) (Draft.IsFrom a) (r.checkVariable d) := by
  unfold checkVariable
  split
  · exact made
  · split
    · split
      · exact made
      · exact passes_badName _
    · exact passes_mismatch made _

/-- Automatic text is settled, left to be a variable, or rejected as the name of one. -/
theorem autoText_passes (sound : r.IsSound) (long : Prop) (s : String) :
    PassesOrRejects long (fun _ => True) (r.autoText s) := by
  obtain ⟨allowed, listed⟩ := notAllowed_text sound s
  unfold autoText
  rw [listed]
  dsimp only
  split
  · split
    · trivial
    · split
      · trivial
      · exact passes_badName s
  · split
    · trivial
    · split
      · trivial
      · split
        · trivial
        · exact passes_badName s

/-- The automatic handling passes or rejects. -/
theorem settleAuto_passes (sound : r.IsSound) (made : d.IsFrom a) :
    PassesOrRejects (a.isWritable = false) (Draft.IsFrom a) (r.settleAuto d) := by
  unfold settleAuto
  split
  · exact made
  · split
    · exact (autoText_passes sound _ _).map fun _ _ => ⟨made.present, made.long⟩
    · exact made

/-- The steps before the checks pass or reject. -/
theorem prepare_passes (sound : r.IsSound) (made : d.IsFrom a) :
    PassesOrRejects (a.isWritable = false) (Draft.IsFrom a) (r.prepare d) := by
  unfold prepare
  split
  · exact made
  · exact (checkType_passes sound made).bind fun _ h =>
      (resolve_passes h).bind fun _ h => settleText_passes h

/-- The checks and the steps after them pass or reject. -/
theorem check_passes (sound : r.IsSound) (made : d.IsFrom a) :
    PassesOrRejects (a.isWritable = false) (Draft.IsFrom a) (r.check d) :=
  (checkNotPath_passes made).bind fun _ h =>
    (checkBoolean_passes h).bind fun _ h =>
      (checkDecimal_passes h).bind fun _ h =>
        (checkInteger_passes h).bind fun _ h =>
          (settleColor_passes sound h).bind fun _ h =>
            (checkVariable_passes h).bind fun _ h => settleAuto_passes sound h

/-- A draft that has passed the checks has a text, unless it has too many digits. -/
theorem finish_passes (made : d.IsFrom a) :
    PassesOrRejects (a.isWritable = false) (fun _ => True) (finish d) := by
  unfold finish
  split
  · trivial
  · exact write_passes made

end Steps

/-- **Rejections**: a value that is not omitted has a fragment or is rejected, or it is a whole
number with too many digits for either. -/
theorem render_passes {r : Rules} (sound : r.IsSound) {a : Arg} (present : a ≠ .omitted) :
    PassesOrRejects (a.isWritable = false) (fun _ => True) (r.render a) :=
  have fresh : (⟨a, none⟩ : Draft).IsFrom a := ⟨present, id⟩
  (prepare_passes sound fresh).bind fun _ h =>
    (check_passes sound h).bind fun _ h => finish_passes h

end Rules

/-! ## What fragments depend on -/

/-- Whether two failures are the same, or the same rejection under two texts of a modifier. -/
inductive SameBut (text other : String) : Failure → Failure → Prop
  | same (e : Failure) : SameBut text other e e
  | mismatch (expected : Expected) (value : Value) :
    SameBut text other (.error (.mismatch expected value (some text)))
      (.error (.mismatch expected value (some other)))
  | notAllowed (value : Value) (allowed : List String) :
    SameBut text other (.error (.notAllowed value allowed text))
      (.error (.notAllowed value allowed other))
  | secondPath (value : Value) :
    SameBut text other (.error (.secondPath value text)) (.error (.secondPath value other))

/-- Errors whose messages show the same values are raised alike. -/
theorem SameBut.raise {text other : String} {e e' : Error}
    (h : SameBut text other (.error e) (.error e')) (shown : e'.shownValues = e.shownValues) :
    SameBut text other e.raise e'.raise := by
  cases fits : Value.areShowable e.shownValues with
  | true =>
    rw [Error.raise_of_areShowable fits, Error.raise_of_areShowable (shown ▸ fits)]
    exact h
  | false =>
    rw [Error.raise_of_not_areShowable fits, Error.raise_of_not_areShowable (shown ▸ fits)]
    exact .same _

/-- A value that was not expected is raised alike under both texts. -/
theorem SameBut.raise_mismatch {text other : String} (expected : Expected) (value : Value) :
    SameBut text other (Error.mismatch expected value (some text)).raise
      (Error.mismatch expected value (some other)).raise :=
  SameBut.raise (.mismatch expected value) (by cases expected <;> rfl)

/-- A value that is none of the types is raised alike under both texts. -/
theorem SameBut.raise_notAllowed {text other : String} (value : Value) (allowed : List String) :
    SameBut text other (Error.notAllowed value allowed text).raise
      (Error.notAllowed value allowed other).raise :=
  SameBut.raise (.notAllowed value allowed) rfl

namespace Rules

/-- The rules of another modifier text whose letters differ at most in the one for several
values. -/
def reword (r : Rules) (modifier : String) (multi : Bool) : Rules :=
  { r with modifier := modifier, letters := { r.letters with multi := multi } }

section Rewording

variable (r : Rules) (modifier : String) (multi : Bool) (d : Draft)

/-- Whether the types can be listed in a message is a matter of the types alone. -/
theorem notAllowed_reword (value : Value) :
    SameBut modifier r.modifier ((r.reword modifier multi).notAllowed value)
      (r.notAllowed value) := by
  have types : (r.reword modifier multi).types = r.types := rfl
  unfold notAllowed
  rw [types]
  split
  · exact .raise_notAllowed value _
  · exact .same _

/-- The check of the types answers alike under either wording. -/
theorem checkType_reword :
    Alike (SameBut modifier r.modifier) ((r.reword modifier multi).checkType d) (r.checkType d) :=
  .ite (.error (notAllowed_reword r modifier multi d.value)) (.ok d)

/-- So does the preparation of paths. -/
theorem resolve_reword :
    Alike (SameBut modifier r.modifier) ((r.reword modifier multi).resolve d) (r.resolve d) := by
  refine .ite ?_ (.ok d)
  obtain ⟨a, settled⟩ := d
  cases a with
  | text s => exact .ok _
  | _ => exact .error (.raise_mismatch _ _)

/-- So does the quoting of texts. -/
theorem settleText_reword :
    Alike (SameBut modifier r.modifier) ((r.reword modifier multi).settleText d)
      (r.settleText d) := by
  refine .ite ?_ (.refl .same _)
  obtain ⟨a, settled⟩ := d
  cases a with
  | text s => exact .ok _
  | _ => exact .error (.raise_mismatch _ _)

/-- So does the check against paths. -/
theorem checkNotPath_reword :
    Alike (SameBut modifier r.modifier) ((r.reword modifier multi).checkNotPath d)
      (r.checkNotPath d) :=
  .ite (.error (.secondPath _)) (.ok d)

/-- So does the check for booleans. -/
theorem checkBoolean_reword :
    Alike (SameBut modifier r.modifier) ((r.reword modifier multi).checkBoolean d)
      (r.checkBoolean d) :=
  .ite (.error (.raise_mismatch _ _)) (.ok d)

/-- So does the check for numbers. -/
theorem checkDecimal_reword :
    Alike (SameBut modifier r.modifier) ((r.reword modifier multi).checkDecimal d)
      (r.checkDecimal d) :=
  .ite (.error (.raise_mismatch _ _)) (.ok d)

/-- So does the check for integers. -/
theorem checkInteger_reword :
    Alike (SameBut modifier r.modifier) ((r.reword modifier multi).checkInteger d)
      (r.checkInteger d) := by
  refine .ite (.ok d) (.ite (.error (.raise_mismatch _ _)) ?_)
  obtain ⟨a, settled⟩ := d
  cases a with
  | int n => exact .ok _
  | float x =>
    dsimp only
    cases x.toInt? with
    | some n => exact .ok _
    | none => exact .error (.raise_mismatch _ _)
  | _ => exact .error (.raise_mismatch _ _)

/-- So does the reading of colors. -/
theorem settleColor_reword :
    Alike (SameBut modifier r.modifier) ((r.reword modifier multi).settleColor d)
      (r.settleColor d) :=
  .refl .same (r.settleColor d)

/-- So does the check for variable names. -/
theorem checkVariable_reword :
    Alike (SameBut modifier r.modifier) ((r.reword modifier multi).checkVariable d)
      (r.checkVariable d) := by
  refine .ite (.ok d) ?_
  obtain ⟨a, settled⟩ := d
  cases a with
  | text s =>
    cases settled with
    | none => exact .ite (.ok _) (.error (.raise_mismatch _ _))
    | some _ => exact .error (.raise_mismatch _ _)
  | _ => exact .error (.raise_mismatch _ _)

/-- So does the choice of the quotes. -/
theorem autoText_reword (s : String) :
    Alike (SameBut modifier r.modifier) ((r.reword modifier multi).autoText s)
      (r.autoText s) := by
  have variableOnly : Alike (SameBut modifier r.modifier)
      (if Identifier.isIdentifier s then (.ok none : Outcome (Option String))
        else .error ((r.reword modifier multi).mismatch .variableName (.text s)))
      (if Identifier.isIdentifier s then .ok none
        else .error (r.mismatch .variableName (.text s))) :=
    .ite (.ok none) (.error (.raise_mismatch _ _))
  unfold autoText
  refine .ite (.ite (.ok _) ?_) (.ite (.ok _) (.ite (.ok _) variableOnly))
  have types : (r.reword modifier multi).types = r.types := rfl
  unfold notAllowed
  rw [types]
  generalize (r.types.mapM _ : Option (List String)) = texts
  cases texts with
  | some allowed => exact variableOnly
  | none => exact .refl .same _

/-- So does the automatic handling. -/
theorem settleAuto_reword :
    Alike (SameBut modifier r.modifier) ((r.reword modifier multi).settleAuto d)
      (r.settleAuto d) := by
  refine .ite (.ok d) ?_
  obtain ⟨a, settled⟩ := d
  cases a with
  | text s =>
    cases settled with
    | none => exact (autoText_reword r modifier multi s).map _
    | some _ => exact .ok _
  | _ => exact .ok _

/-- So do the steps in front of the checks together. -/
theorem prepare_reword :
    Alike (SameBut modifier r.modifier) ((r.reword modifier multi).prepare d) (r.prepare d) :=
  .ite (.ok d) ((checkType_reword r modifier multi d).bind fun d =>
    (resolve_reword r modifier multi d).bind fun d => settleText_reword r modifier multi d)

/-- So do the checks together. -/
theorem check_reword :
    Alike (SameBut modifier r.modifier) ((r.reword modifier multi).check d) (r.check d) :=
  (checkNotPath_reword r modifier multi d).bind fun d =>
    (checkBoolean_reword r modifier multi d).bind fun d =>
      (checkDecimal_reword r modifier multi d).bind fun d =>
        (checkInteger_reword r modifier multi d).bind fun d =>
          (settleColor_reword r modifier multi d).bind fun d =>
            (checkVariable_reword r modifier multi d).bind fun d =>
              settleAuto_reword r modifier multi d

/-- Rewording changes no fragment, and of a rejection no more than the text of the modifier. -/
theorem render_reword (a : Arg) :
    Alike (SameBut modifier r.modifier) ((r.reword modifier multi).render a) (r.render a) :=
  (prepare_reword r modifier multi _).bind fun d =>
    (check_reword r modifier multi d).bind fun d => .refl .same (finish d)

end Rewording

end Rules

/-- **What fragments depend on**: under modifiers whose letters are the same, the one for several
values apart, a value has the same fragment, or the same failure but for the text of the modifier.
-/
theorem alike_render_of_parse {services : Services} {types : List Value}
    {modifier other : String} {multi : Bool}
    (letters : Modifier.parse other = { Modifier.parse modifier with multi := multi }) (a : Arg) :
    Alike (SameBut other modifier) (render services types other a)
      (render services types modifier a) := by
  have rules : (⟨services, types, other, Modifier.parse other⟩ : Rules) =
      Rules.reword ⟨services, types, modifier, Modifier.parse modifier⟩ other multi := by
    rw [letters, Rules.reword]
  rw [render, render, rules]
  exact Rules.render_reword ⟨services, types, modifier, Modifier.parse modifier⟩ other multi a

end Fragment

end FilterScript
