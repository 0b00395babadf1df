import FilterScript.Proofs.Binding.Extension
import FilterScript.Proofs.Fragment.Rendering

/-!
# What calls fail with

A call that fails does so with one of a few errors: for a value that is no argument, for one that
its modifier does not let through, for the shape of the call, or for a missing value.

* **Failures of calls** (`bind_outcome`): where the types are texts, a call has a line, or one of
  these errors. The first value that is no argument decides, whatever else is wrong. Omitted values
  are not rendered, so the notation that they do not have is not asked for.
* **Many digits** (`bind_longNumber`): a whole number with too many digits is an argument, and can be
  neither written in a line nor named in a message.
* **Ratios** (`bind_ratio_tooLarge`): a ratio that is too large for a fractional number is no
  argument, and it is not reported as a value of a kind that calls do not take, nor with any other
  error, but ends in a fault.
-/

namespace FilterScript

/-- Whether an error is one of a call whose values are arguments. -/
inductive Error.IsOfBinding (name : String) : Error → Prop
  | rejection {e : Error} (h : e.IsRejection) : IsOfBinding name e
  | tooManyArguments (count : Nat) : IsOfBinding name (.tooManyArguments name count)
  | ambiguousPosition (fragment : String) : IsOfBinding name (.ambiguousPosition name fragment)
  | missingRequired (position : Nat) : IsOfBinding name (.missingRequired name position)
  | missingFilename (position : Nat) : IsOfBinding name (.missingFilename name position)

namespace Binding

/-! ## Values that are no arguments -/

/-- Whether a value is the first of a call that is no argument. -/
def FirstRefused (values : List Value) (v : Value) : Prop :=
  ∃ front back, values = front ++ v :: back ∧ (∀ w ∈ front, ∃ a, w.toArg? = some a) ∧
    v.toArg? = none

section Refused

variable {v w : Value} {values : List Value}

/-- What is no argument is refused. -/
theorem toArg_of_none (h : v.toArg? = none) : v.toArg = .error v.refusal := by
  rw [Value.toArg, h]

/-- The first refused value is the first of all or the first behind an argument. -/
theorem firstRefused_cons :
    FirstRefused (w :: values) v ↔
      (v = w ∧ w.toArg? = none) ∨ (∃ a, w.toArg? = some a) ∧ FirstRefused values v := by
  constructor
  · rintro ⟨front, back, whole, taken, refused⟩
    cases front with
    | nil =>
      obtain ⟨rfl, -⟩ := List.cons.inj whole
      exact .inl ⟨rfl, refused⟩
    | cons u front =>
      obtain ⟨rfl, rest⟩ := List.cons.inj whole
      exact .inr ⟨taken w List.mem_cons_self, front, back, rest,
        fun x hx => taken x (List.mem_cons_of_mem _ hx), refused⟩
  · rintro (⟨rfl, refused⟩ | ⟨here, front, back, rfl, taken, refused⟩)
    · exact ⟨[], values, rfl, (fun _ absent => nomatch absent), refused⟩
    · refine ⟨w :: front, back, rfl, fun x hx => ?_, refused⟩
      rcases List.mem_cons.1 hx with rfl | hx
      · exact here
      · exact taken x hx

/-- Behind a value that is an argument, the others decide. -/
theorem toArgs_cons_eq_error_iff {a : Arg} {e : Failure} (h : w.toArg = .ok a) :
    toArgs (w :: values) = .error e ↔ toArgs values = .error e := by
  rw [toArgs_cons, h]
  cases toArgs values with
  | error other => rfl
  | ok args => exact iff_of_false (fun h => nomatch h) fun h => nomatch h

/-- The values of a call are arguments unless one is refused, and the first one decides. -/
theorem toArgs_eq_error_iff {e : Failure} :
    toArgs values = .error e ↔ ∃ v, FirstRefused values v ∧ e = v.refusal := by
  induction values with
  | nil =>
    refine iff_of_false (fun h => nomatch h) ?_
    rintro ⟨v, ⟨front, back, whole, -, -⟩, -⟩
    exact List.append_ne_nil_of_right_ne_nil front (List.cons_ne_nil v back) whole.symm
  | cons w values ih =>
    simp only [firstRefused_cons]
    cases here : w.toArg? with
    | none =>
      rw [toArgs_cons, toArg_of_none here]
      constructor
      · intro h
        exact ⟨w, .inl ⟨rfl, rfl⟩, (Except.error.inj h).symm⟩
      · rintro ⟨v, ⟨rfl, -⟩ | ⟨⟨a, absent⟩, -⟩, rfl⟩
        · rfl
        · cases absent
    | some a =>
      rw [toArgs_cons_eq_error_iff (Value.toArg_eq_ok_iff.2 here), ih]
      constructor
      · rintro ⟨v, first, rfl⟩
        exact ⟨v, .inr ⟨⟨a, rfl⟩, first⟩, rfl⟩
      · rintro ⟨v, ⟨-, absent⟩ | ⟨-, first⟩, rfl⟩
        · cases absent
        · exact ⟨v, first, rfl⟩

/-- The first value that is no argument decides. -/
theorem bind_of_firstRefused (services : Fragment.Services) (s : Signature)
    (first : FirstRefused values v) : bind services s values = .error v.refusal := by
  rw [bind, toArgs_eq_error_iff.2 ⟨v, first, rfl⟩]

end Refused

/-! ## Rendered values -/

section Rendered

variable (call : Call)

/-- Writing fails for a value that is rejected, for one whose position is ambiguous, or for one with
too many digits. -/
theorem isOfBinding_of_writeEach {gap : Bool} {xs : List (Parameter × Arg)} {e : Failure}
    (renders : ∀ modifier a, a ≠ .omitted →
      Fragment.PassesOrRejects (a.isWritable = false) (fun _ => True) (call.render modifier a))
    (failed : writeEach call gap xs = .error e) :
    (∃ error : Error, error.IsOfBinding call.name ∧ e = .error error) ∨
      (e = .fault .tooManyDigits ∧ ∃ x ∈ xs, x.2.isWritable = false) := by
  induction xs generalizing gap with
  | nil => cases failed
  | cons x xs ih =>
    have behind {gap : Bool} (rest : writeEach call gap xs = .error e) :
        (∃ error : Error, error.IsOfBinding call.name ∧ e = .error error) ∨
          (e = .fault .tooManyDigits ∧ ∃ y ∈ x :: xs, y.2.isWritable = false) :=
      (ih rest).imp_right fun ⟨fault, y, inside, long⟩ =>
        ⟨fault, y, List.mem_cons_of_mem x inside, long⟩
    obtain ⟨p, a⟩ := x
    by_cases omitted : a = .omitted
    · subst omitted
      exact behind failed
    · rw [writeEach_present omitted, writeValue] at failed
      rcases (renders p.modifier a omitted).cases with
        ⟨fragment, -, rendered⟩ | ⟨error, rejection, rendered⟩ | ⟨long, rendered⟩
      · rw [rendered] at failed
        by_cases ambiguous : gap = true ∧ p.kind = .single ∧ p.named = false
        · simp only [if_pos ambiguous, Except.error.injEq] at failed
          exact .inl ⟨_, .ambiguousPosition fragment, failed.symm⟩
        · simp only [if_neg ambiguous] at failed
          split at failed
          · next rest =>
            obtain rfl := Except.error.inj failed
            exact behind rest
          · cases failed
      · rw [rendered] at failed
        exact .inl ⟨error, .rejection rejection, (Except.error.inj failed).symm⟩
      · rw [rendered] at failed
        exact .inr ⟨(Except.error.inj failed).symm, _, List.mem_cons_self, long⟩

/-- Writing does not render omitted values. -/
theorem writeEach_congr {render : String → Arg → Outcome String} {gap : Bool}
    {xs : List (Parameter × Arg)}
    (agree : ∀ modifier a, a ≠ .omitted → render modifier a = call.render modifier a) :
    writeEach { call with render := render } gap xs = writeEach call gap xs := by
  induction xs generalizing gap with
  | nil => rfl
  | cons x xs ih =>
    obtain ⟨p, a⟩ := x
    by_cases omitted : a = .omitted
    · subst omitted
      rw [writeEach_omitted, writeEach_omitted, ih]
    · have same : writeValue { call with render := render } gap p a = writeValue call gap p a := by
        unfold writeValue
        dsimp only
        rw [agree p.modifier a omitted]
      rw [writeEach_present omitted, writeEach_present omitted, ih, same]

/-- Matching does not render omitted values. -/
theorem matchFrom_congr {render : String → Arg → Outcome String}
    (agree : ∀ modifier a, a ≠ .omitted → render modifier a = call.render modifier a)
    (params : List Parameter) (args : List Arg) :
    matchFrom { call with render := render } params args 0 [] =
      matchFrom call params args 0 [] := by
  rw [matchFrom_eq_writeEach _ _ _ _ _ (Nat.le_refl 0),
    matchFrom_eq_writeEach _ _ _ _ _ (Nat.le_refl 0), writeEach_congr call agree]

end Rendered

/-! ## Calls -/

section Calls

variable {services : Fragment.Services} {s : Signature}

/-- A call whose values are arguments fails with an error that is known, or for one that has too
many digits. -/
theorem isOfBinding_of_bindArgs {args : List Arg} {e : Failure}
    (renders : ∀ modifier a, a ≠ .omitted → Fragment.PassesOrRejects (a.isWritable = false)
      (fun _ => True) (Fragment.render services s.types modifier a))
    (failed : bindArgs services s args = .error e) :
    (∃ error : Error, error.IsOfBinding s.name ∧ e = .error error) ∨
      (e = .fault .tooManyDigits ∧ ∃ a ∈ args, a.isWritable = false) := by
  rcases bindArgs_eq_error_cases failed with unwritten | ⟨-, -, -, rfl⟩ | ⟨j, rfl | rfl⟩
  · rcases isOfBinding_of_writeEach _ renders unwritten with known | ⟨rfl, x, assigned, long⟩
    · exact .inl known
    · have inside : x.2 ∈ args :=
        (flatten_segments_prefix_self s.params args).subset (snd_mem_flatten_of_mem_assign assigned)
      exact .inr ⟨rfl, x.2, inside, long⟩
  · exact .inl ⟨_, .tooManyArguments _, rfl⟩
  · exact .inl ⟨_, .missingFilename j, rfl⟩
  · exact .inl ⟨_, .missingRequired j, rfl⟩

/-- Where the types are texts, values that are not omitted have fragments or are rejected. -/
theorem render_inDirectory_passes (directory : String) {types : List Value}
    (texts : ∀ v ∈ types, ∃ t, v = .text t) (modifier : String) (a : Arg) (present : a ≠ .omitted) :
    Fragment.PassesOrRejects (a.isWritable = false) (fun _ => True)
      (Fragment.render (.inDirectory directory) types modifier a) := by
  have sound : Fragment.Rules.IsSound
      ⟨.inDirectory directory, types, modifier, Modifier.parse modifier⟩ :=
    ⟨texts, fun _ _ failed => Color.isRejection_of_parse_eq_error failed⟩
  exact Fragment.Rules.render_passes sound present

end Calls

/-- Whether a call has a whole number with too many digits to be written. -/
def HasLongNumber (values : List Value) : Prop :=
  ∃ v ∈ values, ∃ n : Int, v.toArg? = some (.int n) ∧ Nat.pow 10 Numeral.mostDigits ≤ n.natAbs

/-- A number with too many digits among the arguments is one among the values. -/
theorem hasLongNumber_of_toArgs {values : List Value} {args : List Arg} {a : Arg}
    (taken : toArgs values = .ok args) (inside : a ∈ args) (long : a.isWritable = false) :
    HasLongNumber values := by
  obtain ⟨v, among, read⟩ := exists_of_mem_of_mapM_eq_ok taken inside
  obtain ⟨n, rfl, large⟩ := Arg.isWritable_eq_false_iff.1 long
  exact ⟨v, among, n, Value.toArg_eq_ok_iff.1 read, large⟩

/-- **Failures of calls**: under a signature whose types are texts, a call has a line or fails with
one of the errors of calls, or has a whole number with too many digits, which may be a fault, unless
a value is no argument; then the first of these decides. It is reported as a value of a kind that
calls do not take, unless it is a ratio, which is too large. What omitted values would be rendered
to is of no account. -/
theorem bind_outcome (directory : String) (s : Signature) (values : List Value)
    (texts : ∀ v ∈ s.types, ∃ t, v = .text t) :
    ((∃ text, bind (.inDirectory directory) s values = .ok text) ∨
      (∃ e : Error, e.IsOfBinding s.name ∧
        bind (.inDirectory directory) s values = .error (.error e)) ∨
      (HasLongNumber values ∧
        bind (.inDirectory directory) s values = .error (.fault .tooManyDigits)) ∨
      ∃ v, FirstRefused values v) ∧
    (∀ v, FirstRefused values v → (∀ q, v ≠ .ratio q) →
      bind (.inDirectory directory) s values = .error (.error (.unsupported v))) ∧
    (∀ q, FirstRefused values (.ratio q) →
      bind (.inDirectory directory) s values = .error (.fault .tooLarge)) ∧
    ∀ render : String → Arg → Outcome String,
      (∀ modifier a, a ≠ .omitted →
        render modifier a = Fragment.render (.inDirectory directory) s.types modifier a) →
      ∀ args, matchFrom ⟨s.name, args.length, render⟩ s.params args 0 [] =
        matchFrom (callOf (.inDirectory directory) s args.length) s.params args 0 [] := by
  refine ⟨?_, fun v first noRatio => ?_, fun q first => ?_, fun render agree args => ?_⟩
  · cases taken : toArgs values with
    | error e =>
      obtain ⟨v, first, -⟩ := toArgs_eq_error_iff.1 taken
      exact .inr (.inr (.inr ⟨v, first⟩))
    | ok args =>
      rw [bind_of_toArgs _ s taken]
      cases bound : bindArgs (.inDirectory directory) s args with
      | ok text => exact .inl ⟨text, rfl⟩
      | error e =>
        rcases isOfBinding_of_bindArgs (render_inDirectory_passes directory texts) bound with
          ⟨error, known, rfl⟩ | ⟨rfl, a, inside, long⟩
        · exact .inr (.inl ⟨error, known, rfl⟩)
        · exact .inr (.inr (.inl ⟨hasLongNumber_of_toArgs taken inside long, rfl⟩))
  · rw [bind_of_firstRefused _ s first]
    cases v with
    | ratio q => exact absurd rfl (noRatio q)
    | _ => rfl
  · exact bind_of_firstRefused _ s first
  · exact matchFrom_congr (callOf (.inDirectory directory) s args.length) agree s.params args

/-- A text that is not one of the types, before a mapping: the mapping is what is reported. -/
theorem bind_outcome_unsupported_first :
    (∀ v ∈ [Value.text "point"], ∃ t, v = .text t) ∧
      bind (.inDirectory "/work/clips") ⟨"Foo", [⟨"t", none, false⟩], [.text "point"]⟩
        [.text "bilinear", .map []] = .error (.error (.unsupported (.map []))) := by
  have texts : ∀ v ∈ [Value.text "point"], ∃ t, v = .text t := by
    intro v h
    exact ⟨"point", List.mem_singleton.1 h⟩
  have first : FirstRefused [.text "bilinear", .map []] (.map []) := by
    refine ⟨[.text "bilinear"], [], rfl, fun w h => ?_, rfl⟩
    exact ⟨.text "bilinear", by rw [List.mem_singleton.1 h]; rfl⟩
  have outcome :=
    bind_outcome "/work/clips" ⟨"Foo", [⟨"t", none, false⟩], [.text "point"]⟩
      [.text "bilinear", .map []] texts
  exact ⟨texts, outcome.2.1 _ first fun _ absent => nomatch absent⟩

/-- Where any number is taken, one with too many digits has no text, and so the call has no line. -/
theorem bind_longNumber (services : Fragment.Services) (name : String) (types : List Value) {n : Int}
    (long : Nat.pow 10 Numeral.mostDigits ≤ n.natAbs) :
    bind services ⟨name, [⟨"i", none, false⟩], types⟩ [.int n] = .error (.fault .tooManyDigits) := by
  have unwritten : Fragment.write (.int n) = .error (.fault .tooManyDigits) := by
    have none : (Arg.int n).scriptText? = none :=
      Arg.scriptText?_eq_none.2 (.inr (Arg.isWritable_eq_false_iff.2 ⟨n, rfl, long⟩))
    rw [Fragment.write, none]
    rfl
  have rendered : Fragment.render services types "i" (.int n) = .error (.fault .tooManyDigits) :=
    unwritten
  have unmatched :
      matchFrom ⟨name, 1, Fragment.render services types⟩ [⟨"i", none, false⟩] [.int n] 0 [] =
        .error (.fault .tooManyDigits) :=
    have single : (⟨"i", none, false⟩ : Parameter).kind = .single := by decide
    matchFrom_rejected _ _ _ _ _ Arg.noConfusion single rendered
  rw [bind_of_toArgs services _ (show toArgs [.int n] = .ok [.int n] from rfl), bindArgs]
  dsimp only [List.length_singleton]
  rw [unmatched]
  rfl

/-- A call with a ratio that is too large neither has a line nor fails with an error. -/
theorem bind_ratio_tooLarge :
    bind (.inDirectory "/work/clips") ⟨"Foo", [⟨"i", none, false⟩], []⟩
        [.ratio (mkRat (Int.ofNat (Nat.pow 10 309)) 1)] = .error (.fault .tooLarge) ∧
      ¬((∃ text, bind (.inDirectory "/work/clips") ⟨"Foo", [⟨"i", none, false⟩], []⟩
            [.ratio (mkRat (Int.ofNat (Nat.pow 10 309)) 1)] = .ok text) ∨
        ∃ e : Error, bind (.inDirectory "/work/clips") ⟨"Foo", [⟨"i", none, false⟩], []⟩
            [.ratio (mkRat (Int.ofNat (Nat.pow 10 309)) 1)] = .error (.error e)) := by
  have refused : (Value.ratio (mkRat (Int.ofNat (Nat.pow 10 309)) 1)).toArg? = none := by
    decide +kernel
  have fault := bind_of_firstRefused (.inDirectory "/work/clips")
    ⟨"Foo", [⟨"i", none, false⟩], []⟩
    ⟨[], [], rfl, (fun _ absent => nomatch absent), refused⟩
  refine ⟨fault, ?_⟩
  rintro (⟨text, line⟩ | ⟨e, error⟩)
  · cases fault.symm.trans line
  · cases fault.symm.trans error

end Binding

end FilterScript
