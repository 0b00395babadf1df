import FilterScript.Proofs.Binding.Required

/-!
# Longer calls

A call that fails in matching cannot be mended by values at its end. What matching looks ahead at is
only where a run ends, and a run that ends within the call ends there in every longer call.

* **Assignments grow at the end** (`assign_segments_prefix_append`): what is assigned in a call is
  assigned in the same way in every longer call.
* **Failures stay** (`bind_append_eq_error`): a call that fails, and not for a missing value, fails
  in the same way with values at its end. Only the number of values that an error for too many
  values reports is that of the longer call.
-/

namespace FilterScript

namespace Binding

/-! ## Assignments -/

section Assignments

variable {call : Call} {gap : Bool}

/-- Values at the end of a call do not change what is assigned before them. -/
theorem assign_segments_prefix_append (params : List Parameter) (args more : List Arg) :
    assign params (segments params args) <+:
      assign params (segments params (args ++ more)) := by
  induction params generalizing args with
  | nil =>
    rw [segments_of_no_params, assign_nil]
    exact List.nil_prefix
  | cons p params ih =>
    cases args with
    | nil =>
      rw [segments_nil, assign_nil]
      exact List.nil_prefix
    | cons a rest =>
      rw [List.cons_append, segments_cons, segments_cons, assign_cons, assign_cons]
      by_cases behind : behindOf p a rest = []
      · -- the last segment of the shorter call, which may grow
        rw [behind, segments_nil, assign_nil, List.append_nil]
        exact ((segmentOf_prefix_append p a rest more).map _).trans (List.prefix_append _ _)
      · obtain ⟨segment, others⟩ := segmentOf_append more behind
        rw [segment, others, List.prefix_append_right_inj]
        exact ih _

/-- A value that cannot be written cannot be written before others either. -/
theorem writeEach_eq_error_of_front {xs ys : List (Parameter × Arg)} {e : Failure}
    (front : xs <+: ys) (failed : writeEach call gap xs = .error e) :
    writeEach call gap ys = .error e := by
  obtain ⟨back, rfl⟩ := front
  rw [writeEach_append, failed]

/-- How many values a call has is not seen by writing. -/
theorem writeEach_callOf (services : Fragment.Services) (s : Signature) (m n : Nat)
    (xs : List (Parameter × Arg)) :
    writeEach (callOf services s m) gap xs = writeEach (callOf services s n) gap xs := by
  induction xs generalizing gap with
  | nil => rfl
  | cons x xs ih =>
    obtain ⟨p, a⟩ := x
    by_cases h : a = .omitted
    · subst h
      rw [writeEach_omitted, writeEach_omitted, ih]
    · rw [writeEach_present h, writeEach_present h, ih]
      rfl

end Assignments

/-! ## Failures -/

/-- Values behind others become arguments behind theirs. -/
theorem toArgs_append {values more : List Value} {args others : List Arg}
    (taken : toArgs values = .ok args) (takenMore : toArgs more = .ok others) :
    toArgs (values ++ more) = .ok (args ++ others) := by
  unfold toArgs at *
  rw [List.mapM_append, taken, takenMore]
  rfl

/-- There is an argument for each value. -/
theorem length_of_toArgs {values : List Value} {args : List Arg}
    (taken : toArgs values = .ok args) : args.length = values.length := by
  induction values generalizing args with
  | nil =>
    obtain rfl := Except.ok.inj taken
    rfl
  | cons v values ih =>
    rw [toArgs_cons] at taken
    cases first : v.toArg with
    | error e =>
      rw [first] at taken
      cases taken
    | ok a =>
      cases behind : toArgs values with
      | error e =>
        rw [first, behind] at taken
        cases taken
      | ok others =>
        rw [first, behind] at taken
        obtain rfl := Except.ok.inj taken
        rw [List.length_cons, List.length_cons, ih behind]

/-- A call fails in writing, for values left over, or for a missing one. -/
theorem bindArgs_eq_error_cases {services : Fragment.Services} {s : Signature} {args : List Arg}
    {e : Failure} (failed : bindArgs services s args = .error e) :
    writeEach (callOf services s args.length) false
        (assign s.params (segments s.params args)) = .error e ∨
      (∃ texts, writeEach (callOf services s args.length) false
          (assign s.params (segments s.params args)) = .ok texts ∧
        (segments s.params args).flatten ≠ args ∧
        e = .error (.tooManyArguments s.name args.length)) ∨
      ∃ j, e = .error (.missingFilename s.name j) ∨ e = .error (.missingRequired s.name j) := by
  rw [bindArgs_eq_writeEach] at failed
  split at failed
  · next written =>
    rw [written, Except.error.inj failed]
    exact .inl rfl
  · next texts written =>
    split at failed
    · split at failed
      · next missing =>
        obtain ⟨j, p, -, -, rfl⟩ := missingFrom_eq_some_iff.1 missing
        refine .inr (.inr ⟨0 + j, ?_⟩)
        rw [← Except.error.inj failed]
        cases p.letters.file with
        | true => exact .inl rfl
        | false => exact .inr rfl
      · cases failed
    · next left =>
      exact .inr (.inl ⟨texts, written, left, (Except.error.inj failed).symm⟩)

/-- **Failures stay**: a call of values that calls take, if it fails and not for a missing value,
fails with the same error when further such values follow; only the number of values that an error
for too many values reports grows with them. -/
theorem bind_append_eq_error (services : Fragment.Services) (s : Signature)
    (values more : List Value) (args others : List Arg) (e : Failure)
    (taken : toArgs values = .ok args) (takenMore : toArgs more = .ok others)
    (failed : bind services s values = .error e)
    (notFilename : ∀ name j, e ≠ .error (.missingFilename name j))
    (notRequired : ∀ name j, e ≠ .error (.missingRequired name j)) :
    bind services s (values ++ more) = .error e ∨
      e = .error (.tooManyArguments s.name values.length) ∧
        bind services s (values ++ more) =
          .error (.error (.tooManyArguments s.name (values ++ more).length)) := by
  have takenAll := toArgs_append taken takenMore
  rw [bind_of_toArgs services s taken] at failed
  rw [bind_of_toArgs services s takenAll, bindArgs_eq_writeEach,
    writeEach_callOf services s _ args.length, ← length_of_toArgs taken,
    ← length_of_toArgs takenAll]
  rcases bindArgs_eq_error_cases failed with unwritten | ⟨texts, written, left, rfl⟩ | ⟨j, missing⟩
  · rw [writeEach_eq_error_of_front (assign_segments_prefix_append s.params args others) unwritten]
    exact .inl rfl
  · right
    rw [segments_append others left, written]
    have still := flatten_segments_append_ne others left
    rw [segments_append others left] at still
    exact ⟨rfl, if_neg still⟩
  · rcases missing with rfl | rfl
    · exact absurd rfl (notFilename s.name j)
    · exact absurd rfl (notRequired s.name j)

/-- A run with a value that is no name of a variable, before a value that would go on the run. -/
theorem bind_append_eq_error_run :
    bind (.inDirectory "/work") ⟨"Foo", [⟨"rmv", none, false⟩], []⟩
        ([.text "a", .text "b c"] ++ [.text "d", .null]) =
      .error (.error (.mismatch .variableName (.text "b c") (some "rmv"))) := by
  have failed : bind (.inDirectory "/work") ⟨"Foo", [⟨"rmv", none, false⟩], []⟩
      [.text "a", .text "b c"] =
        .error (.error (.mismatch .variableName (.text "b c") (some "rmv"))) :=
    rfl
  rcases bind_append_eq_error (.inDirectory "/work") ⟨"Foo", [⟨"rmv", none, false⟩], []⟩
      [.text "a", .text "b c"] [.text "d", .null] [.text "a", .text "b c"] [.text "d", .omitted]
      _ rfl rfl failed (fun _ _ other => by cases other) (fun _ _ other => by cases other)
    with same | ⟨tooMany, -⟩
  · exact same
  · cases tooMany

end Binding

end FilterScript
