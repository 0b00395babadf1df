import FilterScript.Fragment
import FilterScript.Signature.Compile

/-!
# Binding calls

Binding matches the values of a call to the parameters of a signature and writes the line of the
call. Matching goes through both lists from the front: an omitted value uses its parameter up, a
single parameter takes one value, and one that takes several takes the run in front of it. A value
that is written without a name must stand where it is read, so it may not follow an omitted one.
After matching, the required parameters are looked up by position. The main statements say what a
run is made of, and what matching does with the value in front, one statement for each case.
-/

namespace FilterScript

namespace Binding

/-! ## Runs -/

/-- Whether a value goes on a run that begins with `first`. -/
def continues (kind : Modifier.Kind) (first a : Arg) : Bool :=
  a != .omitted && (kind == .autoRun || a.variant == first.variant)

/-- The rest of the run that begins with `first`. -/
def runAfter (kind : Modifier.Kind) (first : Arg) (rest : List Arg) : List Arg :=
  rest.takeWhile (continues kind first)

/-- What comes behind the run that begins with `first`. -/
def behindRun (kind : Modifier.Kind) (first : Arg) (rest : List Arg) : List Arg :=
  rest.dropWhile (continues kind first)

/-- A run and what is behind it make up the rest. -/
theorem runAfter_append_behindRun (kind : Modifier.Kind) (first : Arg) (rest : List Arg) :
    runAfter kind first rest ++ behindRun kind first rest = rest :=
  List.takeWhile_append_dropWhile

/-- Every value of a run goes on the run. -/
theorem continues_of_mem_runAfter {kind : Modifier.Kind} {first a : Arg} {rest : List Arg}
    (h : a ∈ runAfter kind first rest) : continues kind first a = true :=
  List.all_eq_true.1 List.all_takeWhile a h

/-- A run ends at its first value that does not go on it. -/
theorem not_continues_of_behindRun {kind : Modifier.Kind} {first a : Arg} {rest more : List Arg}
    (h : behindRun kind first rest = a :: more) : continues kind first a = false := by
  have head := List.head?_dropWhile_not (continues kind first) rest
  rw [show rest.dropWhile (continues kind first) = a :: more from h] at head
  simpa using head

/-! ## Matching -/

/-- What matching knows beside the two lists. -/
structure Call where
  /-- The name of the filter. -/
  name : String
  /-- How many values the call has. -/
  count : Nat
  /-- How a value under a modifier is written. -/
  render : String → Arg → Outcome String

/-- Matches parameters to values. `position` counts the values matched so far and `done` holds their
fragments. -/
def matchFrom (call : Call) : List Parameter → List Arg → Nat → List String → Outcome (List String)
  | _, [], _, done => .ok done
  | [], _ :: _, _, _ => .error (Error.tooManyArguments call.name call.count)
  | p :: params, a :: rest, position, done =>
    if a = .omitted then matchFrom call params rest (position + 1) done
    else
      match p.kind with
      | .single => do
        let fragment ← call.render p.modifier a
        if p.named then
          matchFrom call params rest (position + 1) (done ++ [p.label ++ "=" ++ fragment])
        else if done.length < position then
          .error (Error.ambiguousPosition call.name fragment)
        else matchFrom call params rest (position + 1) (done ++ [fragment])
      | kind => do
        let run := a :: runAfter kind a rest
        let fragments ← run.mapM (call.render p.modifier)
        matchFrom call params (behindRun kind a rest) (position + run.length) (done ++ fragments)

section Steps

variable (call : Call) (p : Parameter) (params : List Parameter) (a : Arg) (rest : List Arg)
  (position : Nat) (done : List String)

/-- Without values left, what is matched is what was matched before. -/
theorem matchFrom_nil : matchFrom call params [] position done = .ok done := by
  cases params <;> simp [matchFrom]

/-- A value without a parameter left is one too many. -/
theorem matchFrom_of_no_params :
    matchFrom call [] (a :: rest) position done =
      .error (Error.tooManyArguments call.name call.count) := by
  simp [matchFrom]

/-- A value that is left out uses its parameter up and writes nothing. -/
theorem matchFrom_omitted :
    matchFrom call (p :: params) (.omitted :: rest) position done =
      matchFrom call params rest (position + 1) done := by
  simp [matchFrom]

variable {p a}

/-- A value of a labelled parameter is written with its label, wherever it stands. -/
theorem matchFrom_named (present : a ≠ .omitted) (single : p.kind = .single)
    (named : p.named = true) {fragment : String}
    (rendered : call.render p.modifier a = .ok fragment) :
    matchFrom call (p :: params) (a :: rest) position done =
      matchFrom call params rest (position + 1) (done ++ [p.label ++ "=" ++ fragment]) := by
  simp [matchFrom, present, single, named, rendered, bind, Except.bind]

/-- A value without a label is written where it is read. -/
theorem matchFrom_unnamed (present : a ≠ .omitted) (single : p.kind = .single)
    (unnamed : p.named = false) (inPlace : position ≤ done.length)
    {fragment : String} (rendered : call.render p.modifier a = .ok fragment) :
    matchFrom call (p :: params) (a :: rest) position done =
      matchFrom call params rest (position + 1) (done ++ [fragment]) := by
  have h : ¬ done.length < position := by omega
  simp [matchFrom, present, single, unnamed, h, rendered, bind, Except.bind]

/-- A value without a label would be read for another parameter behind a gap. -/
theorem matchFrom_ambiguous (present : a ≠ .omitted) (single : p.kind = .single)
    (unnamed : p.named = false) (gap : done.length < position)
    {fragment : String} (rendered : call.render p.modifier a = .ok fragment) :
    matchFrom call (p :: params) (a :: rest) position done =
      .error (Error.ambiguousPosition call.name fragment) := by
  simp [matchFrom, present, single, unnamed, gap, rendered, bind, Except.bind]

/-- A value that its parameter does not take ends the matching. -/
theorem matchFrom_rejected (present : a ≠ .omitted) (single : p.kind = .single)
    {e : Failure} (rejected : call.render p.modifier a = .error e) :
    matchFrom call (p :: params) (a :: rest) position done = .error e := by
  simp [matchFrom, present, single, rejected, bind, Except.bind]

/-- A parameter that takes several values takes the run in front of it. -/
theorem matchFrom_run (present : a ≠ .omitted) (several : p.kind ≠ .single)
    {fragments : List String}
    (rendered : (a :: runAfter p.kind a rest).mapM (call.render p.modifier) = .ok fragments) :
    matchFrom call (p :: params) (a :: rest) position done =
      matchFrom call params (behindRun p.kind a rest)
        (position + (a :: runAfter p.kind a rest).length) (done ++ fragments) := by
  rw [matchFrom, if_neg present]
  split
  · contradiction
  · simp only [rendered, bind, Except.bind]

/-- A value of a run that its parameter does not take ends the matching. -/
theorem matchFrom_run_rejected (present : a ≠ .omitted) (several : p.kind ≠ .single) {e : Failure}
    (rejected : (a :: runAfter p.kind a rest).mapM (call.render p.modifier) = .error e) :
    matchFrom call (p :: params) (a :: rest) position done = .error e := by
  rw [matchFrom, if_neg present]
  split
  · contradiction
  · simp only [rejected, bind, Except.bind]

end Steps

/-! ## Required parameters -/

/-- The error for the first required parameter, counted from `position`, that no value stands at. -/
def missingFrom (name : String) : List Parameter → List Arg → Nat → Option Error
  | [], _, _ => none
  | p :: params, args, position =>
    if (args.head?.getD .omitted) ≠ .omitted then missingFrom name params args.tail (position + 1)
    else if p.letters.file then some (.missingFilename name position)
    else if p.letters.required then some (.missingRequired name position)
    else missingFrom name params args.tail (position + 1)

/-! ## Lines -/

/-- The line of a call. -/
def line (name : String) (fragments : List String) : String :=
  name ++ "(" ++ ", ".intercalate fragments ++ ")"

/-- The line of a call with the given arguments. -/
def bindArgs (services : Fragment.Services) (s : Signature) (args : List Arg) : Outcome String := do
  let call : Call := ⟨s.name, args.length, Fragment.render services s.types⟩
  let fragments ← matchFrom call s.params args 0 []
  match missingFrom s.name s.params args 0 with
  | some e => .error e
  | none => pure (line s.name fragments)

/-- The arguments that values are in a call, or the failure for the first that is none. -/
def toArgs (values : List Value) : Outcome (List Arg) :=
  values.mapM Value.toArg

/-- The first value is made an argument, and then the others. -/
theorem toArgs_cons (v : Value) (values : List Value) :
    toArgs (v :: values) =
      match v.toArg with
      | .error e => .error e
      | .ok a =>
        match toArgs values with
        | .error e => .error e
        | .ok args => .ok (a :: args) := by
  rw [toArgs, List.mapM_cons]
  cases v.toArg with
  | error e => rfl
  | ok a => cases h : toArgs values <;> simp only [toArgs] at h <;> rw [h] <;> rfl

/-- The line of a call with the given values. -/
def bind (services : Fragment.Services) (s : Signature) (values : List Value) : Outcome String :=
  match toArgs values with
  | .ok args => bindArgs services s args
  | .error e => .error e

end Binding

end FilterScript
