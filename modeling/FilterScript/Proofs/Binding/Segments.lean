import FilterScript.Binding

/-!
# Segments

Matching cuts the values of a call into segments, one after the other, and gives each to the next
parameter. The rules for a segment are stated here without reference to how the cut is made: what a
segment may hold (`IsSegment`), and when a list of segments is a cut of a call (`IsSegmentation`).

* **One cut** (`isSegmentation_iff`): the segments that matching makes are a cut of the call if they
  use up its values, and no other list of segments is.
* **Longer calls** (`segmentOf_append`, `segments_append`): values at the end of a call change no
  segment that has a value behind it, and none at all if values are left over already.
-/

namespace FilterScript

namespace Binding

/-! ## One segment -/

/-- What the segment of a parameter may hold, given what comes behind it. -/
structure IsSegment (p : Parameter) (segment behind : List Arg) : Prop where
  /-- A segment holds a value. -/
  ne_nil : segment ≠ []
  /-- An omitted value in front is all of its segment. -/
  omitted : segment.head? = some .omitted → segment = [.omitted]
  /-- A single parameter takes one value. -/
  single : p.kind = .single → segment.length = 1
  /-- A run holds values of one variant, none of them omitted, and the value behind it is omitted or
  of another variant. -/
  run : p.kind = .run → segment.head? ≠ some .omitted →
    (∀ a ∈ segment, a ≠ .omitted ∧ ∀ b ∈ segment, b.variant = a.variant) ∧
      ∀ next, behind.head? = some next → next = .omitted ∨ ∀ a ∈ segment, next.variant ≠ a.variant
  /-- An automatic run holds values that are not omitted, and the value behind it is omitted. -/
  autoRun : p.kind = .autoRun → segment.head? ≠ some .omitted →
    (∀ a ∈ segment, a ≠ .omitted) ∧ ∀ next, behind.head? = some next → next = .omitted

/-- The segment that a parameter takes from the front of a call. -/
def segmentOf (p : Parameter) (a : Arg) (rest : List Arg) : List Arg :=
  if a = .omitted ∨ p.kind = .single then [a] else a :: runAfter p.kind a rest

/-- What is behind the segment that a parameter takes. -/
def behindOf (p : Parameter) (a : Arg) (rest : List Arg) : List Arg :=
  if a = .omitted ∨ p.kind = .single then rest else behindRun p.kind a rest

section Segment

variable {p : Parameter} {a : Arg} {rest segment behind : List Arg}

/-- A parameter that takes one value, or meets one that is left out, takes one. -/
theorem segmentOf_of_one (h : a = .omitted ∨ p.kind = .single) : segmentOf p a rest = [a] :=
  if_pos h

/-- Behind one value is the rest. -/
theorem behindOf_of_one (h : a = .omitted ∨ p.kind = .single) : behindOf p a rest = rest :=
  if_pos h

/-- A parameter that takes several values takes the run in front. -/
theorem segmentOf_of_several (h : ¬(a = .omitted ∨ p.kind = .single)) :
    segmentOf p a rest = a :: runAfter p.kind a rest :=
  if_neg h

/-- Behind several values is what is behind the run. -/
theorem behindOf_of_several (h : ¬(a = .omitted ∨ p.kind = .single)) :
    behindOf p a rest = behindRun p.kind a rest :=
  if_neg h

/-- No value is lost between a segment and what is behind it. -/
theorem segmentOf_append_behindOf (p : Parameter) (a : Arg) (rest : List Arg) :
    segmentOf p a rest ++ behindOf p a rest = a :: rest := by
  by_cases h : a = .omitted ∨ p.kind = .single
  · rw [segmentOf_of_one h, behindOf_of_one h, List.singleton_append]
  · rw [segmentOf_of_several h, behindOf_of_several h, List.cons_append, runAfter_append_behindRun]

/-- A segment begins with the value in front. -/
theorem mem_segmentOf (p : Parameter) (a : Arg) (rest : List Arg) : a ∈ segmentOf p a rest := by
  by_cases h : a = .omitted ∨ p.kind = .single
  · rw [segmentOf_of_one h]
    exact List.mem_singleton_self a
  · rw [segmentOf_of_several h]
    exact List.mem_cons_self

/-- A run of one kind goes on with values of its variant. -/
theorem continues_run {first a : Arg} :
    continues .run first a = true ↔ a ≠ .omitted ∧ a.variant = first.variant := by
  simp [continues]

/-- A run of one kind ends at what is left out and at any other variant. -/
theorem continues_run_eq_false {first a : Arg} :
    continues .run first a = false ↔ a = .omitted ∨ a.variant ≠ first.variant := by
  rw [← Bool.not_eq_true, continues_run, Decidable.not_and_iff_or_not, Decidable.not_not]

/-- A run of any kind goes on with all values. -/
theorem continues_autoRun {first a : Arg} : continues .autoRun first a = true ↔ a ≠ .omitted := by
  simp [continues]

/-- A run of any kind ends at what is left out. -/
theorem continues_autoRun_eq_false {first a : Arg} :
    continues .autoRun first a = false ↔ a = .omitted := by
  rw [← Bool.not_eq_true, continues_autoRun, Decidable.not_not]

/-- Where a parameter takes one value, a segment is that value. -/
theorem isSegment_cons_of_one {tail : List Arg} (h : a = .omitted ∨ p.kind = .single) :
    IsSegment p (a :: tail) behind ↔ tail = [] := by
  constructor
  · intro seg
    rcases h with rfl | single
    · exact (List.cons.inj (seg.omitted rfl)).2
    · have one := seg.single single
      rw [List.length_cons] at one
      exact List.eq_nil_of_length_eq_zero (by omega)
  · rintro rfl
    refine ⟨List.cons_ne_nil _ _, fun first => ?_, fun _ => rfl, fun run present => ?_,
      fun auto present => ?_⟩
    · rw [List.head?_cons, Option.some.injEq] at first
      rw [first]
    · rcases h with rfl | single
      · exact absurd rfl present
      · rw [single] at run
        cases run
    · rcases h with rfl | single
      · exact absurd rfl present
      · rw [single] at auto
        cases auto

/-- A segment of a run parameter is a value with values of its variant, up to the next that is
omitted or of another variant. -/
theorem isSegment_cons_of_run {tail : List Arg} (kind : p.kind = .run) (present : a ≠ .omitted) :
    IsSegment p (a :: tail) behind ↔
      (∀ b ∈ tail, b ≠ .omitted ∧ b.variant = a.variant) ∧
        ∀ next, behind.head? = some next → next = .omitted ∨ next.variant ≠ a.variant := by
  have head : (a :: tail).head? ≠ some .omitted := by simpa using present
  constructor
  · intro seg
    obtain ⟨inside, stop⟩ := seg.run kind head
    refine ⟨fun b hb => ?_, fun next hnext => ?_⟩
    · have ⟨here, _⟩ := inside b (List.mem_cons_of_mem _ hb)
      exact ⟨here, (inside a List.mem_cons_self).2 b (List.mem_cons_of_mem _ hb)⟩
    · exact (stop next hnext).imp id fun other => other a List.mem_cons_self
  · rintro ⟨inside, stop⟩
    have same : ∀ b ∈ a :: tail, b ≠ .omitted ∧ b.variant = a.variant := by
      intro b hb
      rcases List.mem_cons.1 hb with rfl | hb
      · exact ⟨present, rfl⟩
      · exact inside b hb
    refine ⟨List.cons_ne_nil _ _, fun first => absurd first head, fun single => ?_,
      fun _ _ => ⟨fun b hb => ⟨(same b hb).1, fun c hc => ?_⟩, fun next hnext => ?_⟩,
      fun auto => ?_⟩
    · rw [kind] at single
      cases single
    · rw [(same b hb).2, (same c hc).2]
    · exact (stop next hnext).imp id fun other b hb => (same b hb).2 ▸ other
    · rw [kind] at auto
      cases auto

/-- A segment of an automatic run parameter is all values up to the next that is omitted. -/
theorem isSegment_cons_of_autoRun {tail : List Arg} (kind : p.kind = .autoRun)
    (present : a ≠ .omitted) :
    IsSegment p (a :: tail) behind ↔
      (∀ b ∈ tail, b ≠ .omitted) ∧ ∀ next, behind.head? = some next → next = .omitted := by
  have head : (a :: tail).head? ≠ some .omitted := by simpa using present
  constructor
  · intro seg
    obtain ⟨inside, stop⟩ := seg.autoRun kind head
    exact ⟨fun b hb => inside b (List.mem_cons_of_mem _ hb), stop⟩
  · rintro ⟨inside, stop⟩
    refine ⟨List.cons_ne_nil _ _, fun first => absurd first head, fun single => ?_,
      fun run => ?_, fun _ _ => ⟨fun b hb => ?_, stop⟩⟩
    · rw [kind] at single
      cases single
    · rw [kind] at run
      cases run
    · rcases List.mem_cons.1 hb with rfl | hb
      · exact present
      · exact inside b hb

/-- Where a parameter takes a run, a segment is a value with those that go on its run, and what is
behind it does not go on. -/
theorem isSegment_cons_of_several {tail : List Arg} (h : ¬(a = .omitted ∨ p.kind = .single)) :
    IsSegment p (a :: tail) behind ↔
      (∀ b ∈ tail, continues p.kind a b = true) ∧
        ∀ next, behind.head? = some next → continues p.kind a next = false := by
  obtain ⟨present, several⟩ := not_or.1 h
  cases kind : p.kind with
  | single => exact absurd kind several
  | run =>
    simp only [continues_run, continues_run_eq_false]
    exact isSegment_cons_of_run kind present
  | autoRun =>
    simp only [continues_autoRun, continues_autoRun_eq_false]
    exact isSegment_cons_of_autoRun kind present

/-- The front of a list that passes a test, up to a value that fails it, is what `takeWhile`
takes. -/
theorem span_eq_of_append {test : Arg → Bool} {front back : List Arg}
    (inside : ∀ b ∈ front, test b = true)
    (stop : ∀ next, back.head? = some next → test next = false) :
    (front ++ back).takeWhile test = front ∧ (front ++ back).dropWhile test = back := by
  rw [List.takeWhile_append_of_pos inside, List.dropWhile_append_of_pos inside]
  cases back with
  | nil => exact ⟨List.append_nil front, rfl⟩
  | cons next more =>
    have fails := stop next rfl
    rw [List.takeWhile_cons_of_neg (by simp [fails]), List.dropWhile_cons_of_neg (by simp [fails])]
    exact ⟨List.append_nil front, rfl⟩

/-- What a parameter takes is a segment. -/
theorem isSegment_segmentOf (p : Parameter) (a : Arg) (rest : List Arg) :
    IsSegment p (segmentOf p a rest) (behindOf p a rest) := by
  by_cases h : a = .omitted ∨ p.kind = .single
  · rw [segmentOf_of_one h, behindOf_of_one h, isSegment_cons_of_one h]
  · rw [segmentOf_of_several h, behindOf_of_several h, isSegment_cons_of_several h]
    refine ⟨fun b hb => continues_of_mem_runAfter hb, fun next hnext => ?_⟩
    obtain ⟨more, hmore⟩ := List.head?_eq_some_iff.1 hnext
    exact not_continues_of_behindRun hmore

/-- A segment in front of a call is what the parameter takes. -/
theorem IsSegment.eq_segmentOf (seg : IsSegment p segment behind)
    (cut : segment ++ behind = a :: rest) :
    segment = segmentOf p a rest ∧ behind = behindOf p a rest := by
  cases segment with
  | nil => exact absurd rfl seg.ne_nil
  | cons first tail =>
    rw [List.cons_append] at cut
    obtain ⟨rfl, rfl⟩ := List.cons.inj cut
    by_cases h : first = .omitted ∨ p.kind = .single
    · rw [isSegment_cons_of_one h] at seg
      subst seg
      exact ⟨(segmentOf_of_one h).symm, (behindOf_of_one h).symm⟩
    · rw [isSegment_cons_of_several h] at seg
      obtain ⟨take, drop⟩ := span_eq_of_append seg.1 seg.2
      rw [segmentOf_of_several h, behindOf_of_several h, runAfter, behindRun, take, drop]
      exact ⟨rfl, rfl⟩

end Segment

/-! ## All segments -/

/-- The segments that matching makes, for as long as there are parameters and values. -/
def segments : List Parameter → List Arg → List (List Arg)
  | p :: params, a :: rest => segmentOf p a rest :: segments params (behindOf p a rest)
  | _, _ => []

/-- A list of segments that is a cut of a call: together they are its values, and each is a segment
of the parameter at its index. -/
structure IsSegmentation (params : List Parameter) (args : List Arg) (cut : List (List Arg)) :
    Prop where
  /-- The segments make up the call. -/
  flatten_eq : cut.flatten = args
  /-- There is a parameter for each segment. -/
  length_le : cut.length ≤ params.length
  /-- Each segment is one of its parameter, given the segments behind it. -/
  isSegment : ∀ j p segment, params[j]? = some p → cut[j]? = some segment →
    IsSegment p segment (cut.drop (j + 1)).flatten

/-- No values make no segments. -/
theorem segments_nil (params : List Parameter) : segments params [] = [] := by
  cases params <;> rfl

/-- Without parameters there are no segments. -/
theorem segments_of_no_params (args : List Arg) : segments [] args = [] := by
  cases args <;> rfl

/-- The first parameter takes its segment, and the others what is behind it. -/
theorem segments_cons (p : Parameter) (params : List Parameter) (a : Arg) (rest : List Arg) :
    segments (p :: params) (a :: rest) =
      segmentOf p a rest :: segments params (behindOf p a rest) :=
  rfl

/-- The segments use a call up if those behind the first use up what is behind it. -/
theorem flatten_segments_cons (p : Parameter) (params : List Parameter) (a : Arg)
    (rest : List Arg) :
    (segments (p :: params) (a :: rest)).flatten = a :: rest ↔
      (segments params (behindOf p a rest)).flatten = behindOf p a rest := by
  have whole := segmentOf_append_behindOf p a rest
  rw [segments_cons, List.flatten_cons]
  constructor
  · intro h
    exact List.append_cancel_left (h.trans whole.symm)
  · intro h
    rw [h, whole]

/-- No segments make up no values. -/
theorem isSegmentation_nil {params : List Parameter} {args : List Arg} :
    IsSegmentation params args [] ↔ args = [] := by
  constructor
  · intro h
    exact h.flatten_eq.symm
  · rintro rfl
    exact ⟨rfl, Nat.zero_le _, fun _ _ _ _ absent => by simp at absent⟩

/-- A cut is a segment of the first parameter and a cut of what is behind it. -/
theorem isSegmentation_cons {p : Parameter} {params : List Parameter} {args segment : List Arg}
    {cut : List (List Arg)} :
    IsSegmentation (p :: params) args (segment :: cut) ↔
      segment ++ cut.flatten = args ∧ IsSegment p segment cut.flatten ∧
        IsSegmentation params cut.flatten cut := by
  constructor
  · intro h
    refine ⟨h.flatten_eq, h.isSegment 0 p segment rfl rfl, rfl, Nat.le_of_succ_le_succ h.length_le,
      fun j q next hq hnext => ?_⟩
    exact h.isSegment (j + 1) q next hq hnext
  · rintro ⟨whole, first, others⟩
    refine ⟨whole, Nat.succ_le_succ others.length_le, fun j q next hq hnext => ?_⟩
    cases j with
    | zero =>
      obtain rfl := Option.some.inj hq
      obtain rfl := Option.some.inj hnext
      exact first
    | succ j => exact others.isSegment j q next hq hnext

/-- Segments that use up the values of a call are a cut of it. -/
theorem isSegmentation_segments {params : List Parameter} {args : List Arg}
    (whole : (segments params args).flatten = args) :
    IsSegmentation params args (segments params args) := by
  induction params generalizing args with
  | nil =>
    rw [segments_of_no_params] at whole ⊢
    exact isSegmentation_nil.2 whole.symm
  | cons p params ih =>
    cases args with
    | nil => exact isSegmentation_nil.2 rfl
    | cons a rest =>
      have behind := (flatten_segments_cons p params a rest).1 whole
      rw [segments_cons, isSegmentation_cons, behind]
      exact ⟨segmentOf_append_behindOf p a rest, isSegment_segmentOf p a rest, ih behind⟩

/-- A cut of a call is made of the segments that matching makes. -/
theorem IsSegmentation.eq_segments {params : List Parameter} {args : List Arg}
    {cut : List (List Arg)} (h : IsSegmentation params args cut) : cut = segments params args := by
  induction cut generalizing params args with
  | nil =>
    obtain rfl := isSegmentation_nil.1 h
    exact (segments_nil params).symm
  | cons segment cut ih =>
    cases params with
    | nil => exact absurd h.length_le (Nat.not_succ_le_zero _)
    | cons p params =>
      obtain ⟨whole, first, others⟩ := isSegmentation_cons.1 h
      cases args with
      | nil => exact absurd (List.append_eq_nil_iff.1 whole).1 first.ne_nil
      | cons a rest =>
        obtain ⟨here, behind⟩ := first.eq_segmentOf whole
        rw [segments_cons, ← here, ← behind, ← ih others]

/-- The segments that matching makes are the only cut of a call, if it has one. -/
theorem isSegmentation_iff {params : List Parameter} {args : List Arg} {cut : List (List Arg)} :
    IsSegmentation params args cut ↔ cut = segments params args ∧ cut.flatten = args := by
  constructor
  · intro h
    exact ⟨h.eq_segments, h.flatten_eq⟩
  · rintro ⟨rfl, whole⟩
    exact isSegmentation_segments whole

/-! ## Longer calls -/

section Longer

variable {p : Parameter} {params : List Parameter} {a : Arg} {rest args : List Arg}

/-- Of what is behind a segment, only the first value counts. -/
theorem IsSegment.of_head?_eq {segment behind other : List Arg} (seg : IsSegment p segment behind)
    (same : other.head? = behind.head?) : IsSegment p segment other := by
  refine ⟨seg.ne_nil, seg.omitted, seg.single, fun run present => ?_, fun auto present => ?_⟩
  · rw [same]
    exact seg.run run present
  · rw [same]
    exact seg.autoRun auto present

/-- Where a value is behind a segment, values at the end of the call do not change the segment. -/
theorem segmentOf_append (more : List Arg) (h : behindOf p a rest ≠ []) :
    segmentOf p a (rest ++ more) = segmentOf p a rest ∧
      behindOf p a (rest ++ more) = behindOf p a rest ++ more := by
  have seg : IsSegment p (segmentOf p a rest) (behindOf p a rest ++ more) := by
    apply (isSegment_segmentOf p a rest).of_head?_eq
    obtain ⟨next, others, behind⟩ := List.exists_cons_of_ne_nil h
    rw [behind, List.cons_append, List.head?_cons, List.head?_cons]
  have whole : segmentOf p a rest ++ (behindOf p a rest ++ more) = a :: (rest ++ more) := by
    rw [← List.append_assoc, segmentOf_append_behindOf, List.cons_append]
  obtain ⟨segment, behind⟩ := seg.eq_segmentOf whole
  exact ⟨segment.symm, behind.symm⟩

/-- Values at the end of a call can only make a segment longer. -/
theorem segmentOf_prefix_append (p : Parameter) (a : Arg) (rest more : List Arg) :
    segmentOf p a rest <+: segmentOf p a (rest ++ more) := by
  by_cases h : a = .omitted ∨ p.kind = .single
  · have same : segmentOf p a (rest ++ more) = segmentOf p a rest := by
      rw [segmentOf_of_one h, segmentOf_of_one h]
    exact same ▸ List.prefix_rfl
  · rw [segmentOf_of_several h, segmentOf_of_several h, List.prefix_cons_inj]
    unfold runAfter
    rw [List.takeWhile_append]
    split
    · exact (List.takeWhile_prefix _).trans (List.prefix_append _ _)
    · exact List.prefix_rfl

/-- The segments hold the values in front. -/
theorem flatten_segments_prefix_self (params : List Parameter) (args : List Arg) :
    (segments params args).flatten <+: args := by
  induction params generalizing args with
  | nil =>
    rw [segments_of_no_params]
    exact List.nil_prefix
  | cons p params ih =>
    cases args with
    | nil =>
      rw [segments_nil]
      exact List.nil_prefix
    | cons a rest =>
      rw [segments_cons, List.flatten_cons, ← segmentOf_append_behindOf p a rest,
        List.prefix_append_right_inj]
      exact ih _

/-- Where values are left over, values at the end of the call change no segment. -/
theorem segments_append (more : List Arg) (left : (segments params args).flatten ≠ args) :
    segments params (args ++ more) = segments params args := by
  induction params generalizing args with
  | nil => rw [segments_of_no_params, segments_of_no_params]
  | cons p params ih =>
    cases args with
    | nil => exact absurd (by rw [segments_nil, List.flatten_nil]) left
    | cons a rest =>
      have leftBehind := fun h => left ((flatten_segments_cons p params a rest).2 h)
      have behind : behindOf p a rest ≠ [] := by
        intro nil
        rw [nil, segments_nil] at leftBehind
        exact leftBehind rfl
      obtain ⟨segment, others⟩ := segmentOf_append more behind
      rw [List.cons_append, segments_cons, segments_cons, segment, others, ih leftBehind]

/-- Where values are left over, some are left over in every longer call. -/
theorem flatten_segments_append_ne (more : List Arg)
    (left : (segments params args).flatten ≠ args) :
    (segments params (args ++ more)).flatten ≠ args ++ more := by
  rw [segments_append more left]
  intro whole
  have short := (flatten_segments_prefix_self params args).length_le
  have long := congrArg List.length whole
  rw [List.length_append] at long
  exact left ((flatten_segments_prefix_self params args).eq_of_length (by omega))

end Longer

end Binding

end FilterScript
