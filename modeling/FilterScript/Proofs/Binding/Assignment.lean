import FilterScript.Proofs.Binding.Segments
import Mathlib.Data.List.Forall2

/-!
# Assignments

Matching does two things in one pass: it gives each value of a call to a parameter, and it writes
the values. Here they are two passes. The segments of a call assign a parameter to every value, the
omitted ones too (`assign`); then the values are written one by one, and all that is remembered on
the way is whether one was omitted (`writeEach`).

* **Two passes are matching** (`matchFrom_eq_writeEach`): matching writes the assigned values, and
  fails for too many values only after that.
* **What is written** (`writeEach_eq_ok_iff`): the values are written exactly if each has a fragment
  and no unnamed value of a single parameter comes behind an omitted one.
-/

namespace FilterScript

namespace Parameter

/-- Whether values of a parameter are written with its label in front. Those of a run never are. -/
def isLabelled (p : Parameter) : Bool :=
  p.kind == .single && p.named

/-- A fragment as it stands in the line of a call. -/
def labelled (p : Parameter) (fragment : String) : String :=
  if p.isLabelled then p.label ++ "=" ++ fragment else fragment

/-- A parameter writes its label if it takes one value and has a name. -/
theorem isLabelled_iff {p : Parameter} :
    p.isLabelled = true ↔ p.kind = .single ∧ p.named = true := by
  simp [isLabelled]

/-- A parameter that takes several values writes no label. -/
theorem labelled_of_not_single {p : Parameter} (h : p.kind ≠ .single) (fragment : String) :
    p.labelled fragment = fragment := by
  have unlabelled : ¬p.isLabelled = true := fun labelled => h (isLabelled_iff.1 labelled).1
  rw [labelled, if_neg unlabelled]

end Parameter

namespace Binding

/-! ## Assigning -/

/-- The values of a cut call in their order, each with the parameter of its segment. -/
def assign (params : List Parameter) (cut : List (List Arg)) : List (Parameter × Arg) :=
  (params.zip cut).flatMap fun (p, segment) => segment.map fun a => (p, a)

/-- Nothing is assigned where nothing is left. -/
theorem assign_nil (params : List Parameter) : assign params [] = [] := by
  rw [assign, List.zip_nil_right, List.flatMap_nil]

/-- The values of the first segment go to the first parameter. -/
theorem assign_cons (p : Parameter) (params : List Parameter) (segment : List Arg)
    (cut : List (List Arg)) :
    assign (p :: params) (segment :: cut) = (segment.map fun a => (p, a)) ++ assign params cut := by
  rw [assign, List.zip_cons_cons, List.flatMap_cons]
  rfl

/-- An assigned value is one of its segment. -/
theorem snd_mem_flatten_of_mem_assign {params : List Parameter} {cut : List (List Arg)}
    {x : Parameter × Arg}
    (h : x ∈ assign params cut) : x.2 ∈ cut.flatten := by
  obtain ⟨⟨p, segment⟩, both, here⟩ := List.mem_flatMap.1 h
  obtain ⟨b, hb, rfl⟩ := List.mem_map.1 here
  exact List.mem_flatten_of_mem (List.of_mem_zip both).2 hb

/-- The assigned values are those of the segments. -/
theorem map_snd_assign {params : List Parameter} {cut : List (List Arg)}
    (h : cut.length ≤ params.length) : (assign params cut).map Prod.snd = cut.flatten := by
  induction cut generalizing params with
  | nil => rw [assign_nil, List.map_nil, List.flatten_nil]
  | cons segment cut ih =>
    cases params with
    | nil => exact absurd h (Nat.not_succ_le_zero _)
    | cons p params =>
      rw [assign_cons, List.map_append, List.flatten_cons, ih (Nat.le_of_succ_le_succ h)]
      simp [Function.comp_def]

/-- The assigned values that are not omitted. -/
def present (xs : List (Parameter × Arg)) : List (Parameter × Arg) :=
  xs.filter fun x => x.2 != .omitted

/-- What is left out is not present. -/
theorem present_omitted (p : Parameter) (xs : List (Parameter × Arg)) :
    present ((p, .omitted) :: xs) = present xs :=
  rfl

/-- All other values are present. -/
theorem present_cons {a : Arg} (h : a ≠ .omitted) (p : Parameter) (xs : List (Parameter × Arg)) :
    present ((p, a) :: xs) = (p, a) :: present xs :=
  List.filter_cons_of_pos (bne_iff_ne.2 h)

/-- The values that are not omitted keep their order. -/
theorem map_snd_present (xs : List (Parameter × Arg)) :
    (present xs).map Prod.snd = (xs.map Prod.snd).filter (· != .omitted) := by
  rw [present, List.filter_map]
  rfl

/-! ## Writing -/

/-- Writes one value. `gap` says whether a value was omitted before it. -/
def writeValue (call : Call) (gap : Bool) (p : Parameter) (a : Arg) : Outcome String :=
  match call.render p.modifier a with
  | .error e => .error e
  | .ok fragment =>
    if gap = true ∧ p.kind = .single ∧ p.named = false then
      .error (Error.ambiguousPosition call.name fragment)
    else .ok (p.labelled fragment)

/-- Writes the assigned values one by one. -/
def writeEach (call : Call) : Bool → List (Parameter × Arg) → Outcome (List String)
  | _, [] => .ok []
  | gap, (p, a) :: more =>
    if a = .omitted then writeEach call true more
    else
      match writeValue call gap p a with
      | .error e => .error e
      | .ok text =>
        match writeEach call gap more with
        | .error e => .error e
        | .ok texts => .ok (text :: texts)

/-- Whether a text is what a value becomes in the line of a call. -/
def IsWritten (call : Call) (x : Parameter × Arg) (text : String) : Prop :=
  ∃ fragment, call.render x.1.modifier x.2 = .ok fragment ∧ text = x.1.labelled fragment

/-- Whether a value may stand behind an omitted one: single parameters must name it. -/
def MayFollow (before after : Parameter × Arg) : Prop :=
  before.2 = .omitted → after.2 ≠ .omitted → after.1.kind = .single → after.1.named = true

section Writing

variable {call : Call} {gap : Bool} {p : Parameter} {a : Arg} {more : List (Parameter × Arg)}

/-- Without values nothing is written. -/
theorem writeEach_nil : writeEach call gap [] = .ok [] :=
  rfl

/-- What is left out writes nothing and leaves a gap. -/
theorem writeEach_omitted :
    writeEach call gap ((p, .omitted) :: more) = writeEach call true more := by
  rw [writeEach, if_pos rfl]

/-- A value that is there is written, and then the others. -/
theorem writeEach_present (h : a ≠ .omitted) :
    writeEach call gap ((p, a) :: more) =
      match writeValue call gap p a with
      | .error e => .error e
      | .ok text =>
        match writeEach call gap more with
        | .error e => .error e
        | .ok texts => .ok (text :: texts) := by
  rw [writeEach, if_neg h]

/-- A list is written by writing the value in front and then those behind it. -/
theorem writeEach_cons_eq_ok_iff {texts : List String} (h : a ≠ .omitted) :
    writeEach call gap ((p, a) :: more) = .ok texts ↔
      ∃ text others, writeValue call gap p a = .ok text ∧
        writeEach call gap more = .ok others ∧ texts = text :: others := by
  rw [writeEach_present h]
  cases writeValue call gap p a with
  | error e => simp
  | ok text =>
    cases writeEach call gap more with
    | error e => simp
    | ok others => simp [eq_comm]

/-- A value is written exactly if it has a fragment, and is named if that is asked for. -/
theorem writeValue_eq_ok_iff {text : String} :
    writeValue call gap p a = .ok text ↔
      IsWritten call (p, a) text ∧ (gap = true → p.kind = .single → p.named = true) := by
  cases rendered : call.render p.modifier a with
  | error e => simp [writeValue, IsWritten, rendered]
  | ok fragment =>
    by_cases ambiguous : gap = true ∧ p.kind = .single ∧ p.named = false
    · obtain ⟨here, single, unnamed⟩ := ambiguous
      simp [writeValue, IsWritten, rendered, here, single, unnamed]
    · have named : gap = true → p.kind = .single → p.named = true := by
        intro here single
        by_contra unnamed
        exact ambiguous ⟨here, single, Bool.not_eq_true _ ▸ unnamed⟩
      simp only [writeValue, rendered, if_neg ambiguous, IsWritten, Except.ok.injEq]
      constructor
      · rintro rfl
        exact ⟨⟨fragment, rfl, rfl⟩, named⟩
      · rintro ⟨⟨_, rfl, rfl⟩, -⟩
        rfl

/-- Writing goes through a list from the front, and an omitted value in the front part counts for
the back part. -/
theorem writeEach_append (front back : List (Parameter × Arg)) :
    writeEach call gap (front ++ back) =
      match writeEach call gap front with
      | .error e => .error e
      | .ok texts =>
        match writeEach call (gap || front.any fun x => x.2 == .omitted) back with
        | .error e => .error e
        | .ok others => .ok (texts ++ others) := by
  induction front generalizing gap with
  | nil =>
    rw [List.nil_append, writeEach_nil, List.any_nil, Bool.or_false]
    cases writeEach call gap back <;> rfl
  | cons x front ih =>
    obtain ⟨p, a⟩ := x
    by_cases h : a = .omitted
    · subst h
      rw [List.cons_append, writeEach_omitted, writeEach_omitted, ih]
      simp
    · rw [List.cons_append, writeEach_present h, writeEach_present h, ih]
      have hb : (a == Arg.omitted) = false := beq_eq_false_iff_ne.2 h
      rw [List.any_cons, hb, Bool.false_or]
      cases writeValue call gap p a with
      | error e => rfl
      | ok text =>
        cases writeEach call gap front with
        | error e => rfl
        | ok texts =>
          cases writeEach call (gap || front.any fun x => x.2 == .omitted) back <;> rfl

/-- Writing gives a text for each value that is not omitted. -/
theorem length_of_writeEach {xs : List (Parameter × Arg)} {texts : List String}
    (h : writeEach call gap xs = .ok texts) : texts.length = (present xs).length := by
  induction xs generalizing gap texts with
  | nil =>
    obtain rfl := Except.ok.inj h
    rfl
  | cons x xs ih =>
    obtain ⟨p, a⟩ := x
    by_cases ha : a = .omitted
    · subst ha
      rw [writeEach_omitted] at h
      rw [ih h, present_omitted]
    · obtain ⟨text, others, -, behind, rfl⟩ := (writeEach_cons_eq_ok_iff ha).1 h
      rw [present_cons ha, List.length_cons, List.length_cons, ih behind]

/-- What is written, and when: each value that is not omitted has its text, and none of them comes
behind an omitted one, or behind the gap that was there before, unless it may. -/
theorem writeEach_eq_ok_iff {xs : List (Parameter × Arg)} {texts : List String} :
    writeEach call gap xs = .ok texts ↔
      List.Forall₂ (IsWritten call) (present xs) texts ∧ xs.Pairwise MayFollow ∧
        (gap = true → ∀ x ∈ xs, x.2 ≠ .omitted → x.1.kind = .single → x.1.named = true) := by
  induction xs generalizing gap texts with
  | nil =>
    rw [writeEach_nil, present, List.filter_nil, List.forall₂_nil_left_iff]
    constructor
    · intro h
      exact ⟨(Except.ok.inj h).symm, List.Pairwise.nil, fun _ _ absent => nomatch absent⟩
    · rintro ⟨rfl, -, -⟩
      rfl
  | cons x xs ih =>
    obtain ⟨p, a⟩ := x
    rw [List.pairwise_cons]
    by_cases ha : a = .omitted
    · subst ha
      rw [writeEach_omitted, present_omitted, ih]
      constructor
      · rintro ⟨written, pairs, named⟩
        refine ⟨written, ⟨fun y hy _ => named rfl y hy, pairs⟩, fun _ y hy => ?_⟩
        rcases List.mem_cons.1 hy with rfl | hy
        · exact fun here => absurd rfl here
        · exact named rfl y hy
      · rintro ⟨written, ⟨first, pairs⟩, -⟩
        exact ⟨written, pairs, fun _ y hy => first y hy rfl⟩
    · rw [present_cons ha, writeEach_cons_eq_ok_iff ha]
      constructor
      · rintro ⟨text, others, first, behind, rfl⟩
        obtain ⟨here, named⟩ := writeValue_eq_ok_iff.1 first
        obtain ⟨written, pairs, namedBehind⟩ := ih.1 behind
        refine ⟨.cons here written, ⟨fun y _ omitted => absurd omitted ha, pairs⟩,
          fun before y hy => ?_⟩
        rcases List.mem_cons.1 hy with rfl | hy
        · exact fun _ => named before
        · exact namedBehind before y hy
      · rintro ⟨written, ⟨-, pairs⟩, named⟩
        obtain ⟨text, others, here, rest, rfl⟩ := List.forall₂_cons_left_iff.1 written
        refine ⟨text, others, writeValue_eq_ok_iff.2 ⟨here, fun gap => ?_⟩,
          ih.2 ⟨rest, pairs, fun gap y hy => ?_⟩, rfl⟩
        · exact named gap (p, a) List.mem_cons_self ha
        · exact named gap y (List.mem_cons_of_mem _ hy)

/-- The values of a run are written one after the other, without names. -/
theorem writeEach_run {run : List Arg} (several : p.kind ≠ .single)
    (inside : ∀ b ∈ run, b ≠ .omitted) :
    writeEach call gap (run.map fun b => (p, b)) = run.mapM (call.render p.modifier) := by
  induction run with
  | nil => rfl
  | cons b run ih =>
    have value : writeValue call gap p b = call.render p.modifier b := by
      rw [writeValue]
      cases call.render p.modifier b with
      | error e => rfl
      | ok fragment => simp [several, Parameter.labelled_of_not_single]
    rw [List.map_cons, writeEach_present (inside b List.mem_cons_self), value, List.mapM_cons,
      ih fun c hc => inside c (List.mem_cons_of_mem _ hc)]
    cases call.render p.modifier b with
    | error e => rfl
    | ok fragment => cases run.mapM (call.render p.modifier) <;> rfl

end Writing

/-! ## Matching -/

/-- What matching knows of a call. -/
def callOf (services : Fragment.Services) (s : Signature) (count : Nat) : Call :=
  ⟨s.name, count, Fragment.render services s.types⟩

section Matching

variable (call : Call) (p : Parameter) (params : List Parameter) (a : Arg) (rest args : List Arg)
  (position : Nat) (done : List String)

variable {p a} in
/-- A single parameter writes one value. A gap is seen by there being fewer texts than values so
far. -/
theorem matchFrom_single (present : a ≠ .omitted) (single : p.kind = .single) :
    matchFrom call (p :: params) (a :: rest) position done =
      match writeValue call (decide (done.length < position)) p a with
      | .error e => .error e
      | .ok text => matchFrom call params rest (position + 1) (done ++ [text]) := by
  rw [writeValue]
  cases rendered : call.render p.modifier a with
  | error e => exact matchFrom_rejected call params rest position done present single rendered
  | ok fragment =>
    cases named : p.named with
    | true =>
      rw [matchFrom_named call params rest position done present single named rendered]
      simp [named, single, Parameter.labelled, Parameter.isLabelled]
    | false =>
      by_cases gap : done.length < position
      · rw [matchFrom_ambiguous call params rest position done present single named gap rendered]
        simp [gap, single]
      · rw [matchFrom_unnamed call params rest position done present single named
          (Nat.le_of_not_lt gap) rendered]
        simp [gap, named, Parameter.labelled, Parameter.isLabelled]

variable {p a} in
/-- A parameter that takes several values writes those of its run. -/
theorem matchFrom_several (present : a ≠ .omitted) (several : p.kind ≠ .single) :
    matchFrom call (p :: params) (a :: rest) position done =
      match (a :: runAfter p.kind a rest).mapM (call.render p.modifier) with
      | .error e => .error e
      | .ok fragments =>
        matchFrom call params (behindRun p.kind a rest)
          (position + (a :: runAfter p.kind a rest).length) (done ++ fragments) := by
  cases rendered : (a :: runAfter p.kind a rest).mapM (call.render p.modifier) with
  | error e => exact matchFrom_run_rejected call params rest position done present several rendered
  | ok fragments => exact matchFrom_run call params rest position done present several rendered

/-- One step of matching: a parameter takes its segment, and the values of it are written. -/
theorem matchFrom_cons :
    matchFrom call (p :: params) (a :: rest) position done =
      match writeEach call (decide (done.length < position))
          ((segmentOf p a rest).map fun b => (p, b)) with
      | .error e => .error e
      | .ok texts =>
        matchFrom call params (behindOf p a rest) (position + (segmentOf p a rest).length)
          (done ++ texts) := by
  by_cases omitted : a = .omitted
  · subst omitted
    rw [matchFrom_omitted, segmentOf_of_one (.inl rfl), behindOf_of_one (.inl rfl),
      List.map_singleton, writeEach_omitted, writeEach_nil]
    simp
  by_cases single : p.kind = .single
  · rw [matchFrom_single call params rest position done omitted single,
      segmentOf_of_one (.inr single), behindOf_of_one (.inr single), List.map_singleton,
      writeEach_present omitted, writeEach_nil]
    cases writeValue call (decide (done.length < position)) p a <;> rfl
  · have several : ¬(a = .omitted ∨ p.kind = .single) := not_or.2 ⟨omitted, single⟩
    have inside : ∀ b ∈ a :: runAfter p.kind a rest, b ≠ .omitted := by
      intro b hb
      rcases List.mem_cons.1 hb with rfl | hb
      · exact omitted
      · rintro rfl
        have goesOn := continues_of_mem_runAfter hb
        simp [continues] at goesOn
    rw [matchFrom_several call params rest position done omitted single,
      segmentOf_of_several several, behindOf_of_several several, writeEach_run single inside]

section Counting

variable {call position done} {xs : List (Parameter × Arg)} {texts : List String} {gap : Bool}

/-- There are never more texts than values. -/
theorem length_after (written : writeEach call gap xs = .ok texts)
    (inStep : done.length ≤ position) : (done ++ texts).length ≤ position + xs.length := by
  have le := List.length_filter_le (fun x : Parameter × Arg => x.2 != .omitted) xs
  rw [List.length_append, length_of_writeEach written, present]
  omega

/-- Whether fewer texts than values have been seen: it stays so, and becomes so at an omitted
value. -/
theorem gap_after (written : writeEach call gap xs = .ok texts)
    (inStep : done.length ≤ position) :
    decide ((done ++ texts).length < position + xs.length) =
      (decide (done.length < position) || xs.any fun x => x.2 == .omitted) := by
  rw [List.length_append, length_of_writeEach written]
  cases omitted : xs.any fun x => x.2 == .omitted with
  | false =>
    have all : present xs = xs := by
      apply List.filter_eq_self.2
      intro x hx
      have here := List.any_eq_false.1 omitted x hx
      simpa using here
    rw [all, Bool.or_false, decide_eq_decide]
    omega
  | true =>
    obtain ⟨x, hx, here⟩ := List.any_eq_true.1 omitted
    have fewer : (present xs).length < xs.length :=
      List.length_filter_lt_length_iff_exists.2 ⟨x, hx, by simpa using here⟩
    rw [Bool.or_true, decide_eq_true_eq]
    omega

end Counting

/-- Matching writes the values that the segments assign, and fails for too many values only if all
that are assigned can be written. The texts so far may not outnumber the values so far. -/
theorem matchFrom_eq_writeEach (inStep : done.length ≤ position) :
    matchFrom call params args position done =
      match writeEach call (decide (done.length < position))
          (assign params (segments params args)) with
      | .error e => .error e
      | .ok texts =>
        if (segments params args).flatten = args then .ok (done ++ texts)
        else .error (Error.tooManyArguments call.name call.count) := by
  induction params generalizing args position done with
  | nil =>
    rw [segments_of_no_params, assign_nil, writeEach_nil, List.flatten_nil]
    cases args with
    | nil => simp [matchFrom_nil]
    | cons a rest => simp [matchFrom_of_no_params]
  | cons p params ih =>
    cases args with
    | nil =>
      rw [matchFrom_nil, segments_nil, assign_nil, writeEach_nil]
      simp
    | cons a rest =>
      rw [matchFrom_cons, segments_cons, assign_cons, writeEach_append]
      cases first : writeEach call (decide (done.length < position))
          ((segmentOf p a rest).map fun b => (p, b)) with
      | error e => rfl
      | ok texts =>
        -- the counts behind the segment say what the flag of the one-by-one pass says there
        have gap := gap_after first inStep
        have inStepBehind := length_after first inStep
        rw [List.length_map] at gap inStepBehind
        dsimp only
        rw [ih _ _ _ inStepBehind, gap]
        have whole := flatten_segments_cons p params a rest
        rw [segments_cons] at whole
        simp only [whole]
        cases writeEach call (decide (done.length < position) ||
            ((segmentOf p a rest).map fun b => (p, b)).any fun x => x.2 == .omitted)
            (assign params (segments params (behindOf p a rest))) with
        | error e => rfl
        | ok others =>
          simp only [List.append_assoc]

end Matching

/-! ## Lines -/

section Lines

variable (services : Fragment.Services) (s : Signature) {args : List Arg}

/-- A call that matching rejects fails in the same way. -/
theorem bindArgs_of_rejected {e : Failure}
    (rejected : matchFrom (callOf services s args.length) s.params args 0 [] = .error e) :
    bindArgs services s args = .error e := by
  unfold bindArgs
  change (matchFrom (callOf services s args.length) s.params args 0 [] >>= _) = _
  rw [rejected]
  rfl

/-- In a call that is matched, the required parameters are looked up. -/
theorem bindArgs_of_matched {texts : List String}
    (matched : matchFrom (callOf services s args.length) s.params args 0 [] = .ok texts) :
    bindArgs services s args =
      match missingFrom s.name s.params args 0 with
      | some e => .error e
      | none => .ok (line s.name texts) := by
  unfold bindArgs
  change (matchFrom (callOf services s args.length) s.params args 0 [] >>= _) = _
  rw [matched]
  rfl

variable (args)

/-- The line of a call, in the order of the passes: write the assigned values, see that none is left
over, and look the required parameters up. -/
theorem bindArgs_eq_writeEach :
    bindArgs services s args =
      match writeEach (callOf services s args.length) false
          (assign s.params (segments s.params args)) with
      | .error e => .error e
      | .ok texts =>
        if (segments s.params args).flatten = args then
          match missingFrom s.name s.params args 0 with
          | some e => .error e
          | none => .ok (line s.name texts)
        else .error (Error.tooManyArguments s.name args.length) := by
  have passes := matchFrom_eq_writeEach (callOf services s args.length) s.params args 0 []
    (Nat.le_refl 0)
  have fresh : decide (([] : List String).length < 0) = false := rfl
  rw [fresh] at passes
  cases written : writeEach (callOf services s args.length) false
      (assign s.params (segments s.params args)) with
  | error e =>
    rw [written] at passes
    exact bindArgs_of_rejected services s passes
  | ok texts =>
    rw [written] at passes
    dsimp only at passes ⊢
    by_cases whole : (segments s.params args).flatten = args
    · rw [if_pos whole, List.nil_append] at passes
      rw [if_pos whole, bindArgs_of_matched services s passes]
    · rw [if_neg whole] at passes
      rw [if_neg whole, bindArgs_of_rejected services s passes]
      rfl

variable {args}

/-- Values that are arguments are bound as these. -/
theorem bind_of_toArgs {values : List Value} (taken : toArgs values = .ok args) :
    bind services s values = bindArgs services s args := by
  rw [bind, taken]

end Lines

end Binding

end FilterScript
