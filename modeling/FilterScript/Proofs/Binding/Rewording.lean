import FilterScript.Binding
import FilterScript.Proofs.Fragment.Rendering
import Mathlib.Data.List.Forall2

/-!
# Modifiers in other words

A modifier is written as a text, and read as the set of the letters in it. Whatever a call does with a
modifier, it does with the set: the letters decide how many values a parameter takes, whether it may be left
out, and what becomes of its values. The text itself stands in the errors that report it, and nowhere else.

* **Letters** (`Modifier.letters_parse`, `Modifier.parse_congr`): the letters of a text are those of the
  alphabet that it holds, in the order of the alphabet, and texts that hold the same of them are read alike.
* **Errors** (`Fragment.SameBut.message_eq`, `Fragment.SameBut.context_eq`): the message of a rejection is the
  same under another text, and so is all that it reports beside the modifier.
* **Calls** (`bind_reworded`): a call has the same outcome under a signature with its modifiers in other words.
-/

namespace FilterScript

/-! ## Letters -/

namespace Modifier

/-- The letters that have a meaning, in the order in which a set is written. -/
def alphabet : List Char :=
  ['q', 'p', 'r', 'f', 'n', 't', 'b', 'd', 'i', 'v', 'c', 'e', 'a', 'm']

/-- **Letters**: a text is read as the letters of the alphabet that it holds. -/
theorem letters_parse (text : String) :
    (parse text).letters = alphabet.filter (text.toList.contains ·) := by
  have rows : (parse text).table = alphabet.map fun c => (c, text.toList.contains c) := rfl
  rw [letters, rows, List.filter_map, List.map_map]
  exact List.map_id _

/-- The letters of a set are read as the set. -/
theorem parse_letters (m : Modifier) : parse (String.ofList m.letters) = m := by
  rw [parse, String.toList_ofList, ofLetters_letters]

/-- **Letters**: texts that hold the same letters of the alphabet are read alike, whatever else they
hold. -/
theorem parse_congr {text other : String}
    (same : ∀ c ∈ alphabet, c ∈ other.toList ↔ c ∈ text.toList) : parse other = parse text := by
  have letters : (parse other).letters = (parse text).letters := by
    rw [letters_parse, letters_parse]
    refine List.filter_congr fun c inside => ?_
    rw [List.contains_eq_mem, List.contains_eq_mem]
    exact decide_eq_decide.2 (same c inside)
  rw [← parse_letters (parse other), letters, parse_letters]

end Modifier

/-- Whether a parameter is another one with its modifier in other words: with the same letters of
the alphabet, in any order, any of them repeated, and any other characters among them. -/
structure Parameter.IsReworded (p q : Parameter) : Prop where
  identifier : q.identifier = p.identifier
  named : q.named = p.named
  letters : ∀ c ∈ Modifier.alphabet, c ∈ q.modifier.toList ↔ c ∈ p.modifier.toList

instance (p q : Parameter) : Decidable (p.IsReworded q) :=
  decidable_of_iff (q.identifier = p.identifier ∧ q.named = p.named ∧
      (Modifier.alphabet.all fun c => decide (c ∈ q.modifier.toList ↔ c ∈ p.modifier.toList)) = true)
    ⟨fun ⟨identifier, named, letters⟩ => ⟨identifier, named, by simpa using letters⟩,
      fun ⟨identifier, named, letters⟩ => ⟨identifier, named, by simpa using letters⟩⟩

section Reworded

variable {p q : Parameter}

/-- A reworded modifier means the same letters. -/
theorem Parameter.IsReworded.parse_eq (h : p.IsReworded q) :
    Modifier.parse q.modifier = Modifier.parse p.modifier :=
  Modifier.parse_congr h.letters

/-- A reworded parameter takes as many values. -/
theorem Parameter.IsReworded.kind_eq (h : p.IsReworded q) : q.kind = p.kind :=
  congrArg Modifier.kind h.parse_eq

/-- A reworded parameter has the same label. -/
theorem Parameter.IsReworded.label_eq (h : p.IsReworded q) : q.label = p.label :=
  congrArg (Option.getD · "None") h.identifier

end Reworded

/-! ## Errors -/

namespace Fragment

section SameBut

variable {text other : String} {e e' : Error}

/-- **Errors**: no message holds the text of a modifier. -/
theorem SameBut.message_eq (h : SameBut text other (.error e) (.error e')) :
    e'.message = e.message := by
  cases h with
  | same => rfl
  | mismatch expected value => cases expected <;> cases value <;> rfl
  | notAllowed value allowed => rfl
  | secondPath value => rfl

/-- An error in other words is about the same call. -/
theorem SameBut.callName?_eq (h : SameBut text other (.error e) (.error e')) :
    e'.callName? = e.callName? := by
  cases h <;> rfl

/-- **Errors**: the facts are the same, but for the modifier among them. -/
theorem SameBut.context_eq (h : SameBut text other (.error e) (.error e')) :
    (e'.context.filter fun fact => fact.1 ≠ "modifier") =
      e.context.filter fun fact => fact.1 ≠ "modifier" := by
  cases h <;> rfl

/-- A failure that is no error is the same in other words. -/
theorem SameBut.eq_fault_iff {failure failure' : Failure} (h : SameBut text other failure failure')
    (f : Fault) : failure' = .fault f ↔ failure = .fault f := by
  cases h with
  | same => rfl
  | _ => exact iff_of_false Failure.noConfusion Failure.noConfusion

/-- An error in other words is an error. -/
theorem SameBut.exists_error {failure : Failure} (h : SameBut text other (.error e) failure) :
    ∃ e', failure = .error e' := by
  cases h <;> exact ⟨_, rfl⟩

end SameBut

end Fragment

/-! ## Calls -/

namespace Binding

/-- Whether two failures of calls are the same, or the same rejection under the texts that the
modifier of one parameter has in two lists of parameters. -/
def SameInOtherWords (params others : List Parameter) (e e' : Failure) : Prop :=
  e' = e ∨ ∃ pair ∈ params.zip others, Fragment.SameBut pair.1.modifier pair.2.modifier e e'

section Rewording

variable {params others : List Parameter}

/-- Matching goes the same way: the kinds of the parameters are the same, and fragments are alike.
-/
theorem alike_matchFrom {call : Call} {R : Failure → Failure → Prop} (refl : ∀ e, R e e)
    (alike : List.Forall₂ (fun p q => p.IsReworded q ∧
      ∀ a, Alike R (call.render p.modifier a) (call.render q.modifier a)) params others)
    (args : List Arg) (position : Nat) (done : List String) :
    Alike R (matchFrom call params args position done)
      (matchFrom call others args position done) := by
  induction alike generalizing args position done with
  | nil => exact .refl refl _
  | cons first rest ih =>
    obtain ⟨reworded, renders⟩ := first
    cases args with
    | nil =>
      rw [matchFrom_nil, matchFrom_nil]
      exact .ok done
    | cons a args =>
      rw [matchFrom, matchFrom]
      refine .ite (ih args (position + 1) done) ?_
      rw [reworded.kind_eq, reworded.named, reworded.label_eq]
      split
      · exact (renders a).bind fun fragment =>
          .ite (ih _ _ _) (.ite (.error (refl _)) (ih _ _ _))
      · exact (Alike.mapM renders _).bind fun fragments => ih _ _ _

/-- The same parameters are missing. -/
theorem missingFrom_congr (reworded : List.Forall₂ Parameter.IsReworded params others) (name : String)
    (args : List Arg) (position : Nat) :
    missingFrom name others args position = missingFrom name params args position := by
  induction reworded generalizing args position with
  | nil => rfl
  | cons first rest ih =>
    rw [missingFrom, missingFrom, Parameter.letters, Parameter.letters, first.parse_eq, ih]

/-- A call with reworded parameters has the same line or fails in other words. -/
theorem alike_bind (services : Fragment.Services) (s : Signature)
    (reworded : List.Forall₂ Parameter.IsReworded s.params others) (values : List Value) :
    Alike (SameInOtherWords s.params others) (bind services s values)
      (bind services { s with params := others } values) := by
  have refl (e : Failure) : SameInOtherWords s.params others e e := .inl rfl
  have alike : List.Forall₂ (fun p q => p.IsReworded q ∧
      ∀ a, Alike (SameInOtherWords s.params others) (Fragment.render services s.types p.modifier a)
        (Fragment.render services s.types q.modifier a)) s.params others := by
    refine List.forall₂_iff_zip.2 ⟨reworded.length_eq, fun {p q} pair => ?_⟩
    have words := List.forall₂_zip reworded pair
    refine ⟨words, fun a => ?_⟩
    have letters : Modifier.parse p.modifier =
        { Modifier.parse q.modifier with multi := (Modifier.parse q.modifier).multi } :=
      words.parse_eq.symm
    exact (Fragment.alike_render_of_parse letters a).mono fun e e' h => .inr ⟨(p, q), pair, h⟩
  unfold bind
  cases toArgs values with
  | error e => exact .error (refl e)
  | ok args =>
    refine (alike_matchFrom refl alike args 0 []).bind fun fragments => ?_
    rw [missingFrom_congr reworded]
    exact .refl refl _

end Rewording

/-- **Calls**: under a signature with its modifiers in other words a call has the same line or the
same fault, or else the same error, but for the text of the modifier that the error reports. The
letters of any text are those of the alphabet that it holds, in the order of the alphabet, and are
read as the same set again. -/
theorem bind_reworded (services : Fragment.Services) (s : Signature) {others : List Parameter}
    (reworded : List.Forall₂ Parameter.IsReworded s.params others) (values : List Value) :
    let t : Signature := { s with params := others }
    (∀ line, bind services t values = .ok line ↔ bind services s values = .ok line) ∧
      (∀ f : Fault, bind services t values = .error f ↔ bind services s values = .error f) ∧
      (∀ e : Error, bind services s values = .error e →
        ∃ e' : Error, bind services t values = .error e' ∧ e'.message = e.message ∧
          e'.callName? = e.callName? ∧
          (e'.context.filter fun fact => fact.1 ≠ "modifier") =
            (e.context.filter fun fact => fact.1 ≠ "modifier") ∧
          SameInOtherWords s.params others e e') ∧
      ∀ text, (Modifier.parse text).letters =
          Modifier.alphabet.filter (text.toList.contains ·) ∧
        Modifier.parse (String.ofList (Modifier.parse text).letters) = Modifier.parse text := by
  intro t
  have alike : Alike (SameInOtherWords s.params others) (bind services s values) (bind services t values) :=
    alike_bind services s reworded values
  refine ⟨fun line => alike.eq_ok_iff.symm, fun f => ?_, fun e failed => ?_, fun text =>
    ⟨Modifier.letters_parse text, Modifier.parse_letters _⟩⟩
  · refine alike.eq_error_iff fun e e' related => ?_
    rcases related with rfl | ⟨pair, -, reports⟩
    · rfl
    · exact reports.eq_fault_iff f
  · obtain ⟨failure, failed', related⟩ := alike.exists_eq_error failed
    rcases id related with rfl | ⟨pair, -, reports⟩
    · exact ⟨e, failed', rfl, rfl, rfl, related⟩
    · obtain ⟨e', rfl⟩ := reports.exists_error
      exact ⟨e', failed', reports.message_eq, reports.callName?_eq, reports.context_eq, related⟩

/-- A text among whole numbers is rejected under either text of the modifier. In the second its
letters are turned round, one of them stands there twice, and other characters are among them. -/
theorem bind_reworded_turned :
    let services : Fragment.Services := .inDirectory "/work/clips"
    let s : Signature := ⟨"Foo", [⟨"q", none, false⟩, ⟨"riam", some "w", true⟩], []⟩
    let others : List Parameter := [⟨"Q q", none, false⟩, ⟨"m, ai!mr", some "w", true⟩]
    let values : List Value := [.text "x", .int 1, .text "y"]
    List.Forall₂ Parameter.IsReworded s.params others ∧
      bind services s values = .error (Error.mismatch .integer (.text "y") (some "riam")) ∧
      ∃ e' : Error, bind services { s with params := others } values = .error e' ∧
        e'.message = "expected integer, got \"y\"" ∧
        SameInOtherWords s.params others (Error.mismatch .integer (.text "y") (some "riam")) e' := by
  intro services s others values
  have reworded : List.Forall₂ Parameter.IsReworded s.params others :=
    .cons (by decide) (.cons (by decide) .nil)
  have failed : bind services s values =
      .error (Error.mismatch .integer (.text "y") (some "riam")) := rfl
  obtain ⟨e', failed', message, -, -, related⟩ :=
    (bind_reworded services s reworded values).2.2.1 _ failed
  exact ⟨reworded, failed, e', failed', message, related⟩

end Binding

end FilterScript
