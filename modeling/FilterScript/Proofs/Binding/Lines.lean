import FilterScript.Proofs.Binding.Required

/-!
# Calls with a line

Which calls have a line is said here without reference to how matching goes through them: the
values can be cut into segments of the parameters, each value is accepted where it is, nothing
stands where its name would be needed, and nothing that is required is missing.

* **Calls that can be cut** (`exists_bind_eq_ok_iff_isCut`): these calls, and no others, have a
  line. There is one such cut, and the line has a text for each value in it.
* **Names behind gaps** (`isLabelledBehindGaps_iff_of_bind_eq_ok`): in a call with a line, the
  values behind an omitted one are all named exactly if none of them is part of a run. The values of
  a run are never named, and a gap before them is not looked at (`bind_run_behindGap`).
-/

namespace FilterScript

namespace Binding

/-! ## Cuts -/

/-- A cut of a call for which the call has a line. -/
structure IsCut (services : Fragment.Services) (s : Signature) (args : List Arg)
    (cut : List (List Arg)) : Prop extends IsSegmentation s.params args cut where
  /-- Every value that is not omitted has a fragment under the modifier of its parameter. -/
  accepted : ∀ x ∈ assign s.params cut, x.2 ≠ .omitted →
    ∃ fragment, Fragment.render services s.types x.1.modifier x.2 = .ok fragment
  /-- No value of a single parameter without a name comes behind an omitted one. -/
  inPlace : (assign s.params cut).Pairwise MayFollow
  /-- There is a value at the index of each required parameter. -/
  required : ∀ (j : Nat) (p : Parameter), s.params[j]? = some p → p.isRequired = true →
    ∃ a : Arg, args[j]? = some a ∧ a ≠ .omitted

section Lines

variable {services : Fragment.Services} {s : Signature} {args : List Arg}

/-- What a call with a line has gone through. -/
theorem bindArgs_eq_ok_iff {text : String} :
    bindArgs services s args = .ok text ↔
      ∃ texts, writeEach (callOf services s args.length) false
          (assign s.params (segments s.params args)) = .ok texts ∧
        (segments s.params args).flatten = args ∧ (∀ j, ¬Missing s.params args j) ∧
        text = line s.name texts := by
  rw [bindArgs_eq_writeEach]
  constructor
  · intro h
    split at h
    · cases h
    · next texts written =>
      split at h
      · next whole =>
        split at h
        · cases h
        · next none =>
          exact ⟨texts, written, whole, missingFrom_eq_none_iff.1 none, (Except.ok.inj h).symm⟩
      · cases h
  · rintro ⟨texts, written, whole, none, rfl⟩
    rw [written]
    dsimp only
    rw [if_pos whole, missingFrom_eq_none_iff.2 none]

/-- Values have texts exactly if each has a fragment. -/
theorem exists_forall₂_isWritten_iff {call : Call} {xs : List (Parameter × Arg)} :
    (∃ texts, List.Forall₂ (IsWritten call) xs texts) ↔
      ∀ x ∈ xs, ∃ fragment, call.render x.1.modifier x.2 = .ok fragment := by
  induction xs with
  | nil => exact iff_of_true ⟨[], .nil⟩ fun _ absent => nomatch absent
  | cons x xs ih =>
    rw [List.forall_mem_cons, ← ih]
    constructor
    · rintro ⟨all, written⟩
      obtain ⟨_, texts, ⟨fragment, rendered, -⟩, rest, -⟩ := List.forall₂_cons_left_iff.1 written
      exact ⟨⟨fragment, rendered⟩, texts, rest⟩
    · rintro ⟨⟨fragment, rendered⟩, texts, written⟩
      exact ⟨x.1.labelled fragment :: texts, .cons ⟨fragment, rendered, rfl⟩ written⟩

/-- The condition on required parameters in a cut is that the look-up passes. -/
theorem forall_not_missing_iff {params : List Parameter} :
    (∀ j, ¬Missing params args j) ↔
      ∀ (j : Nat) (p : Parameter), params[j]? = some p → p.isRequired = true →
        ∃ a : Arg, args[j]? = some a ∧ a ≠ .omitted := by
  unfold Missing
  constructor
  · intro none j p hp required
    by_contra absent
    refine none j ⟨p, hp, required, fun a ha => ?_⟩
    by_contra present
    exact absent ⟨a, ha, present⟩
  · rintro given j ⟨p, hp, required, absent⟩
    obtain ⟨a, ha, present⟩ := given j p hp required
    exact present (absent a ha)

/-- The cut of a call that has a line is made of the segments of matching. -/
theorem isCut_segments {text : String} (h : bindArgs services s args = .ok text) :
    IsCut services s args (segments s.params args) := by
  obtain ⟨texts, written, whole, none, -⟩ := bindArgs_eq_ok_iff.1 h
  obtain ⟨pairs, inPlace, -⟩ := writeEach_eq_ok_iff.1 written
  refine ⟨isSegmentation_segments whole, fun x hx present => ?_, inPlace,
    forall_not_missing_iff.1 none⟩
  have member : x ∈ Binding.present (assign s.params (segments s.params args)) :=
    List.mem_filter.2 ⟨hx, bne_iff_ne.2 present⟩
  exact exists_forall₂_isWritten_iff.1 ⟨texts, pairs⟩ x member

/-- A call that can be cut has a line, with a text for each value that is not omitted. -/
theorem IsCut.bindArgs_eq_ok {cut : List (List Arg)} (h : IsCut services s args cut) :
    ∃ texts, List.Forall₂ (IsWritten (callOf services s args.length))
        (present (assign s.params cut)) texts ∧
      bindArgs services s args = .ok (line s.name texts) := by
  obtain ⟨same, whole⟩ := isSegmentation_iff.1 h.toIsSegmentation
  have acceptedPresent : ∀ x ∈ present (assign s.params cut),
      ∃ fragment, (callOf services s args.length).render x.1.modifier x.2 = .ok fragment := by
    intro x hx
    obtain ⟨member, here⟩ := List.mem_filter.1 hx
    exact h.accepted x member (bne_iff_ne.1 here)
  obtain ⟨texts, written⟩ := exists_forall₂_isWritten_iff.2 acceptedPresent
  refine ⟨texts, written, bindArgs_eq_ok_iff.2 ⟨texts, ?_, ?_, ?_, rfl⟩⟩
  · rw [← same]
    exact writeEach_eq_ok_iff.2 ⟨written, h.inPlace, fun gap => nomatch gap⟩
  · rw [← same, whole]
  · exact forall_not_missing_iff.2 h.required

/-- The line of a call that can be cut. -/
theorem IsCut.bind_eq_ok {values : List Value} {cut : List (List Arg)}
    (h : IsCut services s args cut) (taken : toArgs values = .ok args) :
    ∃ texts, List.Forall₂ (IsWritten (callOf services s args.length))
        (present (assign s.params cut)) texts ∧
      (present (assign s.params cut)).map Prod.snd = args.filter (· != .omitted) ∧
      bind services s values = .ok (line s.name texts) := by
  obtain ⟨texts, written, bound⟩ := h.bindArgs_eq_ok
  refine ⟨texts, written, ?_, ?_⟩
  · rw [map_snd_present, map_snd_assign h.length_le, h.flatten_eq]
  · rw [bind_of_toArgs services s taken, bound]

end Lines

/-- A run of two values, an omitted value, and a value that is named behind it. -/
theorem isCut_run_gap_named :
    IsCut (.inDirectory "/work")
      ⟨"Foo", [⟨"rmi", none, false⟩, ⟨"q", none, false⟩, ⟨"b", some "x", true⟩], []⟩
      [.int 1, .int 2, .omitted, .bool true] [[.int 1, .int 2], [.omitted], [.bool true]] := by
  have bound : bindArgs (.inDirectory "/work")
      ⟨"Foo", [⟨"rmi", none, false⟩, ⟨"q", none, false⟩, ⟨"b", some "x", true⟩], []⟩
      [.int 1, .int 2, .omitted, .bool true] = .ok "Foo(1, 2, x=true)" :=
    rfl
  have cut := isCut_segments bound
  rwa [show segments _ _ = [[.int 1, .int 2], [.omitted], [.bool true]] by decide] at cut

/-- Whether the values behind an omitted one are all written with a label in front. -/
def IsLabelledBehindGaps (xs : List (Parameter × Arg)) : Prop :=
  xs.Pairwise fun before after =>
    before.2 = .omitted → after.2 ≠ .omitted → after.1.isLabelled = true

/-- Whether the values behind an omitted one all belong to single parameters. -/
def IsSingleBehindGaps (xs : List (Parameter × Arg)) : Prop :=
  xs.Pairwise fun before after =>
    before.2 = .omitted → after.2 ≠ .omitted → after.1.kind = .single

/-- Where single parameters name what comes behind a gap, the values there are named exactly if they
belong to single parameters. -/
theorem isLabelledBehindGaps_iff {xs : List (Parameter × Arg)} (h : xs.Pairwise MayFollow) :
    IsLabelledBehindGaps xs ↔ IsSingleBehindGaps xs := by
  constructor
  · intro labelled
    exact labelled.imp fun step gap present => (Parameter.isLabelled_iff.1 (step gap present)).1
  · intro singles
    refine (h.and singles).imp fun ⟨mayFollow, step⟩ gap present => ?_
    have single := step gap present
    exact Parameter.isLabelled_iff.2 ⟨single, mayFollow gap present single⟩

/-- **Names behind gaps**: in a call with a line, the values behind an omitted one are all named
exactly if none of them is part of a run. An unnamed value of a single parameter behind an omitted
one makes the call fail, once everything before it can be written. -/
theorem isLabelledBehindGaps_iff_of_bind_eq_ok (services : Fragment.Services) (s : Signature)
    (values : List Value) (args : List Arg) (taken : toArgs values = .ok args) :
    (∀ text, bind services s values = .ok text →
      (∃ texts, List.Forall₂ (IsWritten (callOf services s args.length))
          (present (assign s.params (segments s.params args))) texts ∧
        text = line s.name texts) ∧
      (IsLabelledBehindGaps (assign s.params (segments s.params args)) ↔
        IsSingleBehindGaps (assign s.params (segments s.params args)))) ∧
    ∀ front p a back texts fragment,
      assign s.params (segments s.params args) = front ++ (p, a) :: back →
      writeEach (callOf services s args.length) false front = .ok texts →
      (∃ x ∈ front, x.2 = .omitted) → a ≠ .omitted → p.kind = .single → p.named = false →
      Fragment.render services s.types p.modifier a = .ok fragment →
      bind services s values = .error (.error (.ambiguousPosition s.name fragment)) := by
  rw [bind_of_toArgs services s taken]
  constructor
  · intro text bound
    obtain ⟨texts, written, -, -, rfl⟩ := bindArgs_eq_ok_iff.1 bound
    obtain ⟨pairs, inPlace, -⟩ := writeEach_eq_ok_iff.1 written
    exact ⟨⟨texts, pairs, rfl⟩, isLabelledBehindGaps_iff inPlace⟩
  · intro front p a back texts fragment whole written ⟨x, hx, omitted⟩ present single unnamed
      rendered
    have gap : front.any (fun x => x.2 == .omitted) = true :=
      List.any_eq_true.2 ⟨x, hx, beq_iff_eq.2 omitted⟩
    have ambiguous : writeValue (callOf services s args.length) true p a =
        .error (.error (.ambiguousPosition s.name fragment)) := by
      unfold writeValue callOf
      simp [rendered, single, unnamed]
    rw [bindArgs_eq_writeEach, whole, writeEach_append, written, gap]
    simp only [Bool.or_true]
    rw [writeEach_present present, ambiguous]

/-- A run behind an omitted value is written, and without names. -/
theorem bind_run_behindGap :
    toArgs [.null, .int 5] = .ok [.omitted, .int 5] ∧
      bind (.inDirectory "/work") ⟨"Foo", [⟨"i", none, false⟩, ⟨"mi", none, false⟩], []⟩
        [.null, .int 5] = .ok "Foo(5)" ∧
      ¬IsLabelledBehindGaps (assign [⟨"i", none, false⟩, ⟨"mi", none, false⟩]
        (segments [⟨"i", none, false⟩, ⟨"mi", none, false⟩] [.omitted, .int 5])) := by
  refine ⟨rfl, rfl, ?_⟩
  unfold IsLabelledBehindGaps
  decide

/-- A single parameter behind an omitted value is written with its name, and without one the call
fails. -/
theorem isLabelledBehindGaps_single :
    IsLabelledBehindGaps (assign [⟨"i", some "a", true⟩, ⟨"i", some "b", true⟩]
        (segments [⟨"i", some "a", true⟩, ⟨"i", some "b", true⟩] [.omitted, .int 2])) ∧
      bind (.inDirectory "/work") ⟨"Q", [⟨"i", none, false⟩, ⟨"i", none, false⟩], []⟩
        [.null, .int 5] = .error (.error (.ambiguousPosition "Q" "5")) := by
  constructor
  · have bound : bind (.inDirectory "/work")
        ⟨"Foo", [⟨"i", some "a", true⟩, ⟨"i", some "b", true⟩], []⟩ [.null, .int 2] =
          .ok "Foo(b=2)" :=
      rfl
    refine ((isLabelledBehindGaps_iff_of_bind_eq_ok _ _ _ [.omitted, .int 2] rfl).1 _ bound).2.2 ?_
    unfold IsSingleBehindGaps
    decide
  · exact (isLabelledBehindGaps_iff_of_bind_eq_ok (.inDirectory "/work")
      ⟨"Q", [⟨"i", none, false⟩, ⟨"i", none, false⟩], []⟩ [.null, .int 5] [.omitted, .int 5] rfl).2
      [(⟨"i", none, false⟩, .omitted)] ⟨"i", none, false⟩ (.int 5) [] [] "5" (by decide) rfl
      ⟨_, List.mem_singleton_self _, rfl⟩ (by decide) (by decide) rfl rfl

end Binding

end FilterScript
