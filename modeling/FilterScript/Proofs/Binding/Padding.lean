import FilterScript.Proofs.Binding.Extension
import FilterScript.Proofs.Binding.Lines

/-!
# What changes nothing at the end

A call may be given omitted values at its end, and a signature parameters at its end that need no
value. Neither is seen by a call that matching gets through.

* **Omitted values at the end** (`bind_append_omitted`): as long as there are parameters left for
  them, they change neither the line nor the value that is reported missing. One more is one value
  too many.
* **Optional parameters at the end** (`bind_append_params_eq_ok`): a call with a line keeps it.

In both cases the segments of the call stay what they were. An omitted value ends every run, so none
reaches into the values at the end, and the parameters at the end come into play only for values
that the others leave over.
-/

namespace FilterScript

namespace Binding

/-! ## Omitted values at the end of a call -/

section Omitted

variable {p : Parameter} {params : List Parameter} {a : Arg} {rest args more : List Arg}

/-- A segment does not reach into values at the end of which the first is omitted. -/
theorem segmentOf_append_of_omitted (stop : ∀ next, more.head? = some next → next = .omitted) :
    segmentOf p a (rest ++ more) = segmentOf p a rest ∧
      behindOf p a (rest ++ more) = behindOf p a rest ++ more := by
  by_cases behind : behindOf p a rest = []
  · -- the segment ends with the call, and now at the omitted value
    have seg := isSegment_segmentOf p a rest
    have longer : IsSegment p (segmentOf p a rest) more :=
      ⟨seg.ne_nil, seg.omitted, seg.single,
        fun run present => ⟨(seg.run run present).1, fun next h => .inl (stop next h)⟩,
        fun auto present => ⟨(seg.autoRun auto present).1, stop⟩⟩
    have all : segmentOf p a rest = a :: rest := by
      have whole := segmentOf_append_behindOf p a rest
      rwa [behind, List.append_nil] at whole
    have cut : segmentOf p a rest ++ more = a :: (rest ++ more) := by
      rw [all, List.cons_append]
    obtain ⟨segment, others⟩ := longer.eq_segmentOf cut
    rw [behind, List.nil_append]
    exact ⟨segment.symm, others.symm⟩
  · exact segmentOf_append more behind

/-- Behind a call that is used up, the parameters that are left take the values at the end. -/
theorem segments_append_of_omitted (stop : ∀ next, more.head? = some next → next = .omitted)
    (whole : (segments params args).flatten = args) :
    segments params (args ++ more) =
      segments params args ++ segments (params.drop (segments params args).length) more := by
  induction params generalizing args with
  | nil =>
    rw [segments_of_no_params, segments_of_no_params, List.drop_nil, segments_of_no_params,
      List.append_nil]
  | cons p params ih =>
    cases args with
    | nil => rw [segments_nil, List.length_nil, List.drop_zero, List.nil_append, List.nil_append]
    | cons a rest =>
      have behind := (flatten_segments_cons p params a rest).1 whole
      obtain ⟨segment, others⟩ := segmentOf_append_of_omitted stop
      rw [List.cons_append, segments_cons, segments_cons, segment, others, ih behind,
        List.cons_append, List.length_cons, List.drop_succ_cons]

/-- An omitted value uses a parameter up. -/
theorem segments_replicate_omitted (params : List Parameter) (k : Nat) :
    segments params (List.replicate k .omitted) =
      List.replicate (min k params.length) [.omitted] := by
  induction params generalizing k with
  | nil => rw [segments_of_no_params, List.length_nil, Nat.min_zero, List.replicate_zero]
  | cons p params ih =>
    cases k with
    | zero => rw [List.replicate_zero, segments_nil, Nat.zero_min, List.replicate_zero]
    | succ k =>
      rw [List.replicate_succ, segments_cons, segmentOf_of_one (.inl rfl),
        behindOf_of_one (.inl rfl), ih, List.length_cons, Nat.add_min_add_right,
        List.replicate_succ]

/-- What is assigned in two parts of a cut. -/
theorem assign_append (params : List Parameter) (front back : List (List Arg)) :
    assign params (front ++ back) =
      assign params front ++ assign (params.drop front.length) back := by
  induction front generalizing params with
  | nil => rw [assign_nil, List.length_nil, List.drop_zero, List.nil_append, List.nil_append]
  | cons segment front ih =>
    cases params with
    | nil => rfl
    | cons p params =>
      rw [List.cons_append, assign_cons, assign_cons, ih, List.append_assoc, List.length_cons,
        List.drop_succ_cons]

/-- Omitted values are not written. -/
theorem writeEach_of_omitted {call : Call} {gap : Bool} {xs : List (Parameter × Arg)}
    (omitted : ∀ x ∈ xs, x.2 = .omitted) : writeEach call gap xs = .ok [] := by
  induction xs generalizing gap with
  | nil => rfl
  | cons x xs ih =>
    obtain ⟨p, a⟩ := x
    obtain rfl : a = .omitted := omitted (p, a) List.mem_cons_self
    rw [writeEach_omitted]
    exact ih fun y hy => omitted y (List.mem_cons_of_mem _ hy)

/-- In front of values that are all left out stands one that is. -/
theorem eq_omitted_of_head?_replicate {k : Nat} (next : Arg)
    (h : (List.replicate k Arg.omitted).head? = some next) : next = .omitted :=
  List.eq_of_mem_replicate (List.mem_of_mem_head? h)

/-- Omitted values at the end of a call that is used up are not written. -/
theorem writeEach_append_omitted {call : Call} {gap : Bool}
    (whole : (segments params args).flatten = args) (k : Nat) :
    writeEach call gap (assign params (segments params (args ++ List.replicate k .omitted))) =
      writeEach call gap (assign params (segments params args)) := by
  rw [segments_append_of_omitted eq_omitted_of_head?_replicate whole, segments_replicate_omitted,
    assign_append, writeEach_append]
  have back : ∀ x ∈ assign (params.drop (segments params args).length)
      (List.replicate (min k (params.drop (segments params args).length).length) [.omitted]),
      x.2 = .omitted := by
    intro x hx
    have here := snd_mem_flatten_of_mem_assign hx
    rw [List.flatten_replicate_singleton] at here
    exact List.eq_of_mem_replicate here
  rw [writeEach_of_omitted back]
  cases writeEach call gap (assign params (segments params args)) with
  | error e => rfl
  | ok texts => simp only [List.append_nil]

/-- Omitted values at the end are used up exactly if there is a parameter left for each. -/
theorem flatten_segments_append_omitted_iff (whole : (segments params args).flatten = args)
    (k : Nat) :
    (segments params (args ++ List.replicate k .omitted)).flatten =
        args ++ List.replicate k .omitted ↔
      (segments params args).length + k ≤ params.length := by
  have few := (isSegmentation_segments whole).length_le
  rw [segments_append_of_omitted eq_omitted_of_head?_replicate whole, segments_replicate_omitted,
    List.flatten_append, whole, List.flatten_replicate_singleton, List.append_right_inj,
    List.length_drop]
  constructor
  · intro same
    have lengths := congrArg List.length same
    rw [List.length_replicate, List.length_replicate] at lengths
    omega
  · intro enough
    rw [Nat.min_eq_left (by omega)]

/-- An omitted value at the end of a call is as good as none. -/
theorem missing_append_omitted (k j : Nat) :
    Missing params (args ++ List.replicate k .omitted) j ↔ Missing params args j := by
  refine exists_congr fun p => and_congr_right fun _ => and_congr_right fun _ => ?_
  by_cases inside : j < args.length
  · rw [List.getElem?_append_left inside]
  · rw [List.getElem?_append_right (Nat.le_of_not_lt inside),
      List.getElem?_eq_none (Nat.le_of_not_lt inside)]
    refine iff_of_true (fun b hb => ?_) fun b absent => nomatch absent
    exact List.eq_of_mem_replicate (List.mem_of_getElem? hb)

/-- The look-up does not see omitted values at the end. -/
theorem missingFrom_append_omitted (name : String) (k position : Nat) :
    missingFrom name params (args ++ List.replicate k .omitted) position =
      missingFrom name params args position := by
  ext e
  rw [missingFrom_eq_some_iff, missingFrom_eq_some_iff]
  simp only [missing_append_omitted]

end Omitted

section Lines

variable {services : Fragment.Services} {s : Signature} {args : List Arg}

/-- What matching gets through: all values are written, and none is left over. -/
theorem matchFrom_eq_ok_iff {texts : List String} :
    matchFrom (callOf services s args.length) s.params args 0 [] = .ok texts ↔
      writeEach (callOf services s args.length) false (assign s.params (segments s.params args)) =
          .ok texts ∧
        (segments s.params args).flatten = args := by
  have fresh : decide (([] : List String).length < 0) = false := rfl
  rw [matchFrom_eq_writeEach _ _ _ _ _ (Nat.le_refl 0), fresh]
  cases writeEach (callOf services s args.length) false
      (assign s.params (segments s.params args)) with
  | error e => exact iff_of_false (fun h => nomatch h) fun h => nomatch h.1
  | ok written =>
    by_cases whole : (segments s.params args).flatten = args
    · simp [whole]
    · simp [whole]

/-- Values that are omitted are omitted arguments. -/
theorem toArgs_of_omitted {omissions : List Value}
    (omitted : ∀ v ∈ omissions, v.toArg = .ok .omitted) :
    toArgs omissions = .ok (List.replicate omissions.length .omitted) := by
  induction omissions with
  | nil => rfl
  | cons v omissions ih =>
    rw [toArgs_cons, omitted v List.mem_cons_self,
      ih fun w hw => omitted w (List.mem_cons_of_mem _ hw)]
    rfl

/-- **Omitted values at the end**: a call that matching gets through has the same outcome with
omitted values at its end, the same line or the same missing value at the same place, if the
parameters left over are as many. If they are fewer, there are too many values. -/
theorem bind_append_omitted (services : Fragment.Services) (s : Signature)
    (values omissions : List Value) (args : List Arg) (texts : List String)
    (taken : toArgs values = .ok args) (omitted : ∀ v ∈ omissions, v.toArg = .ok .omitted)
    (matched : matchFrom (callOf services s args.length) s.params args 0 [] = .ok texts) :
    ((segments s.params args).length + omissions.length ≤ s.params.length →
      bind services s (values ++ omissions) = bind services s values) ∧
    (s.params.length < (segments s.params args).length + omissions.length →
      bind services s (values ++ omissions) =
        .error (.error (.tooManyArguments s.name (values ++ omissions).length))) := by
  obtain ⟨written, whole⟩ := matchFrom_eq_ok_iff.1 matched
  have takenAll := toArgs_append taken (toArgs_of_omitted omitted)
  have used := flatten_segments_append_omitted_iff whole omissions.length
  rw [bind_of_toArgs services s takenAll, bind_of_toArgs services s taken, bindArgs_eq_writeEach,
    writeEach_callOf services s _ args.length, writeEach_append_omitted whole, written,
    missingFrom_append_omitted, ← length_of_toArgs takenAll]
  constructor
  · intro enough
    rw [bindArgs_of_matched services s matched]
    exact if_pos (used.2 enough)
  · intro few
    exact if_neg fun all => Nat.not_le_of_lt few (used.1 all)

/-- A run and two parameters behind it: two omitted values are taken, and three are too many. -/
theorem bind_append_omitted_behind_run :
    bind (.inDirectory "/work")
        ⟨"Foo", [⟨"mi", none, false⟩, ⟨"i", some "x", true⟩, ⟨"q", none, false⟩], []⟩
        [.int 1, .int 2, .null, .arg .omitted] = .ok "Foo(1, 2)" ∧
      bind (.inDirectory "/work")
        ⟨"Foo", [⟨"mi", none, false⟩, ⟨"i", some "x", true⟩, ⟨"q", none, false⟩], []⟩
        [.int 1, .int 2, .null, .null, .null] =
          .error (.error (.tooManyArguments "Foo" 5)) := by
  have matched : matchFrom (callOf (.inDirectory "/work")
      ⟨"Foo", [⟨"mi", none, false⟩, ⟨"i", some "x", true⟩, ⟨"q", none, false⟩], []⟩ 2)
      [⟨"mi", none, false⟩, ⟨"i", some "x", true⟩, ⟨"q", none, false⟩] [.int 1, .int 2] 0 [] =
        .ok ["1", "2"] :=
    rfl
  constructor
  · refine ((bind_append_omitted (.inDirectory "/work") _ [.int 1, .int 2] [.null, .arg .omitted]
      [.int 1, .int 2] _ rfl ?_ matched).1 (by decide)).trans rfl
    intro v hv
    rcases List.mem_cons.1 hv with rfl | hv
    · rfl
    · obtain rfl := List.mem_singleton.1 hv
      rfl
  · refine (bind_append_omitted (.inDirectory "/work") _ [.int 1, .int 2] [.null, .null, .null]
      [.int 1, .int 2] _ rfl ?_ matched).2 (by decide)
    intro v hv
    obtain rfl : v = .null := by simpa using hv
    rfl

end Lines

/-! ## Optional parameters at the end of a signature -/

section Optional

variable {params more : List Parameter} {args : List Arg}

/-- Parameters at the end take nothing of a call that is used up before them. -/
theorem segments_append_params (more : List Parameter)
    (whole : (segments params args).flatten = args) :
    segments (params ++ more) args = segments params args := by
  induction params generalizing args with
  | nil =>
    rw [segments_of_no_params, List.flatten_nil] at whole
    rw [← whole, segments_nil, segments_nil]
  | cons p params ih =>
    cases args with
    | nil => rw [segments_nil, segments_nil]
    | cons a rest =>
      rw [List.cons_append, segments_cons, segments_cons,
        ih ((flatten_segments_cons p params a rest).1 whole)]

/-- Parameters behind those that are used take nothing. -/
theorem assign_append_params (more : List Parameter) {cut : List (List Arg)}
    (few : cut.length ≤ params.length) : assign (params ++ more) cut = assign params cut := by
  induction cut generalizing params with
  | nil => rw [assign_nil, assign_nil]
  | cons segment cut ih =>
    cases params with
    | nil => exact absurd few (Nat.not_succ_le_zero _)
    | cons p params =>
      rw [List.cons_append, assign_cons, assign_cons, ih (Nat.le_of_succ_le_succ few)]

/-- Optional parameters at the end are never missing. -/
theorem missingFrom_append_params (name : String) (optional : ∀ p ∈ more, p.isRequired = false)
    (args : List Arg) (position : Nat) :
    missingFrom name (params ++ more) args position = missingFrom name params args position := by
  induction params generalizing args position with
  | nil =>
    refine missingFrom_eq_none_iff.2 fun j ⟨p, hp, required, _⟩ => ?_
    rw [optional p (List.mem_of_getElem? hp)] at required
    exact Bool.false_ne_true required
  | cons p params ih => rw [List.cons_append, missingFrom, missingFrom, ih]

end Optional

/-- **Optional parameters at the end**: a call with a line has the same line under the signature
with more parameters at its end, whatever these are, if none of them is required. -/
theorem bind_append_params_eq_ok (services : Fragment.Services) (s : Signature)
    (more : List Parameter) (values : List Value) (text : String)
    (optional : ∀ p ∈ more, p.isRequired = false) (bound : bind services s values = .ok text) :
    bind services { s with params := s.params ++ more } values = .ok text := by
  cases taken : toArgs values with
  | error e =>
    rw [bind, taken] at bound
    cases bound
  | ok args =>
    rw [bind_of_toArgs services _ taken] at bound ⊢
    obtain ⟨texts, written, whole, none, rfl⟩ := bindArgs_eq_ok_iff.1 bound
    have few := (isSegmentation_segments whole).length_le
    refine bindArgs_eq_ok_iff.2 ⟨texts, ?_, ?_, ?_, rfl⟩
    · dsimp only
      rw [segments_append_params more whole, assign_append_params more few]
      exact written
    · dsimp only
      rw [segments_append_params more whole, whole]
    · rw [← missingFrom_eq_none_iff] at none ⊢
      exact (missingFrom_append_params s.name optional args 0).trans none

/-- A run, with a named parameter and another run put behind it. -/
theorem bind_append_params_eq_ok_run :
    bind (.inDirectory "/work")
        ⟨"Foo", [⟨"ri", none, false⟩, ⟨"mi", none, false⟩] ++
          [⟨"b", some "x", true⟩, ⟨"mai", none, false⟩], []⟩
        [.int 1, .int 2, .int 3] = .ok "Foo(1, 2, 3)" :=
  bind_append_params_eq_ok (.inDirectory "/work")
    ⟨"Foo", [⟨"ri", none, false⟩, ⟨"mi", none, false⟩], []⟩
    [⟨"b", some "x", true⟩, ⟨"mai", none, false⟩] [.int 1, .int 2, .int 3] "Foo(1, 2, 3)"
    (by decide) rfl

end Binding

end FilterScript
