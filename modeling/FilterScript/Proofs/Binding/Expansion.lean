import FilterScript.Proofs.Binding.Lines
import FilterScript.Proofs.Fragment.Rendering

/-!
# Runs spelled out

A parameter that takes a run of values is shorthand for single parameters, one for each value of the
run. How many that are depends on the call, so it is said of a call and its segments: the parameters
that took something are spelled out (`expansion`), and the others are dropped.

* **Runs are shorthand** (`bind_expand_eq_ok`): a call without omitted values that has a line has
  the same line under the signature with its runs spelled out.

The run is written without looking ahead of it, and the single parameters are matched one by one,
with a look at gaps and a look-up of required values. Without omitted values there is no gap, and
the spelled out parameters are as many as the values, so none is missing.
-/

namespace FilterScript

namespace Modifier

/-- A modifier without the letter for several values. -/
def withoutMulti (modifier : String) : String :=
  String.ofList (modifier.toList.filter (· != 'm'))

/-- Leaving the letter for several values out takes it, and no other, from the set. -/
theorem parse_withoutMulti (modifier : String) :
    parse (withoutMulti modifier) = { parse modifier with multi := false } := by
  simp [parse, withoutMulti, ofLetters, List.contains_eq_mem, List.mem_filter]

end Modifier

namespace Parameter

/-- The single parameter without a name that takes one value as a run takes each of its values. -/
def once (p : Parameter) : Parameter :=
  ⟨Modifier.withoutMulti p.modifier, none, false⟩

/-- The parameter that one value of a segment is matched to when runs are spelled out. -/
def slot (p : Parameter) : Parameter :=
  if p.kind = .single then p else p.once

/-- A parameter taken once takes one value. -/
theorem kind_once (p : Parameter) : p.once.kind = .single := by
  rw [kind, letters, once, Modifier.parse_withoutMulti]
  rfl

/-- A parameter that takes one value stands for itself. -/
theorem slot_of_single {p : Parameter} (h : p.kind = .single) : p.slot = p :=
  if_pos h

/-- A parameter that takes several values stands for itself taken once. -/
theorem slot_of_not_single {p : Parameter} (h : p.kind ≠ .single) : p.slot = p.once :=
  if_neg h

/-- What stands for a parameter takes one value. -/
theorem kind_slot (p : Parameter) : p.slot.kind = .single := by
  by_cases h : p.kind = .single
  · rw [slot_of_single h, h]
  · rw [slot_of_not_single h, kind_once]

/-- A label stands in front of a fragment exactly if it does when runs are spelled out. -/
theorem labelled_slot (p : Parameter) (fragment : String) :
    p.slot.labelled fragment = p.labelled fragment := by
  by_cases h : p.kind = .single
  · rw [slot_of_single h]
  · have unlabelled : ¬p.once.isLabelled = true :=
      fun labelled => Bool.false_ne_true (isLabelled_iff.1 labelled).2
    rw [slot_of_not_single h, labelled_of_not_single h, labelled, if_neg unlabelled]

end Parameter

namespace Binding

/-! ## Spelling out -/

/-- The parameters that stand for those of a cut call: a single one for itself, and one that takes a
run for as many single ones as its segment has values. A parameter without a segment is dropped. -/
def expansion (params : List Parameter) (cut : List (List Arg)) : List Parameter :=
  (params.zip cut).flatMap fun (p, segment) =>
    if p.kind = .single then [p] else List.replicate segment.length p.once

/-- The signature with the runs of a call spelled out. -/
def expand (s : Signature) (args : List Arg) : Signature :=
  { s with params := expansion s.params (segments s.params args) }

section Spelling

variable {p : Parameter} {params : List Parameter}

/-- No segments expand to no parameters. -/
theorem expansion_nil (params : List Parameter) : expansion params [] = [] := by
  rw [expansion, List.zip_nil_right, List.flatMap_nil]

/-- The first parameter is repeated for each value of its segment. -/
theorem expansion_cons (p : Parameter) (params : List Parameter) (segment : List Arg)
    (cut : List (List Arg)) :
    expansion (p :: params) (segment :: cut) =
      (if p.kind = .single then [p] else List.replicate segment.length p.once) ++
        expansion params cut := by
  rw [expansion, List.zip_cons_cons, List.flatMap_cons]
  rfl

/-- Spelled out, a segment has a parameter for each of its values. -/
theorem map_slot_segmentOf (p : Parameter) (a : Arg) (rest : List Arg) :
    (if p.kind = .single then [p] else List.replicate (segmentOf p a rest).length p.once) =
      (segmentOf p a rest).map fun _ => p.slot := by
  by_cases single : p.kind = .single
  · rw [if_pos single, segmentOf_of_one (.inr single), List.map_singleton,
      Parameter.slot_of_single single]
  · rw [if_neg single, List.map_const', Parameter.slot_of_not_single single]

/-- Spelling out gives each assigned value a parameter of its own. -/
theorem expansion_segments (params : List Parameter) (args : List Arg) :
    expansion params (segments params args) =
      (assign params (segments params args)).map fun x => x.1.slot := by
  induction params generalizing args with
  | nil => rw [segments_of_no_params, expansion_nil, assign_nil, List.map_nil]
  | cons p params ih =>
    cases args with
    | nil => rw [segments_nil, expansion_nil, assign_nil, List.map_nil]
    | cons a rest =>
      rw [segments_cons, expansion_cons, assign_cons, map_slot_segmentOf, ih, List.map_append,
        List.map_map]
      rfl

/-- Single parameters are matched one by one. -/
theorem assign_segments_of_singles (singles : ∀ p ∈ params, p.kind = .single) (args : List Arg) :
    assign params (segments params args) = params.zip args := by
  induction params generalizing args with
  | nil => rw [segments_of_no_params, assign_nil, List.zip_nil_left]
  | cons p params ih =>
    cases args with
    | nil => rw [segments_nil, assign_nil, List.zip_nil_right]
    | cons a rest =>
      have single := singles p List.mem_cons_self
      rw [segments_cons, assign_cons, segmentOf_of_one (.inr single), behindOf_of_one (.inr single),
        ih fun q hq => singles q (List.mem_cons_of_mem _ hq)]
      rfl

/-- Single parameters use up as many values as they are. -/
theorem flatten_segments_of_singles (singles : ∀ p ∈ params, p.kind = .single) {args : List Arg}
    (enough : args.length ≤ params.length) : (segments params args).flatten = args := by
  induction params generalizing args with
  | nil =>
    obtain rfl := List.eq_nil_of_length_eq_zero (Nat.le_zero.1 enough)
    rfl
  | cons p params ih =>
    cases args with
    | nil => rw [segments_nil, List.flatten_nil]
    | cons a rest =>
      have single := singles p List.mem_cons_self
      rw [flatten_segments_cons, behindOf_of_one (.inr single)]
      exact ih (fun q hq => singles q (List.mem_cons_of_mem _ hq))
        (Nat.le_of_succ_le_succ enough)

end Spelling

/-! ## The line of the expansion -/

section Lines

variable {services : Fragment.Services} {s : Signature} {args : List Arg}

/-- A value has the same fragment when runs are spelled out. -/
theorem render_slot_of_render {types : List Value} {p : Parameter} {a : Arg} {fragment : String}
    (rendered : Fragment.render services types p.modifier a = .ok fragment) :
    Fragment.render services types p.slot.modifier a = .ok fragment := by
  by_cases single : p.kind = .single
  · rwa [Parameter.slot_of_single single]
  · rw [Parameter.slot_of_not_single single]
    have letters := Modifier.parse_withoutMulti p.modifier
    exact (Fragment.alike_render_of_parse letters a).eq_ok_iff.2 rendered

/-- A value has the same text in the line when runs are spelled out. -/
theorem IsWritten.slot {count : Nat} {x : Parameter × Arg} {text : String}
    (written : IsWritten (callOf services s count) x text) :
    IsWritten (callOf services s count) (x.1.slot, x.2) text := by
  obtain ⟨fragment, rendered, rfl⟩ := written
  exact ⟨fragment, render_slot_of_render rendered, (Parameter.labelled_slot x.1 fragment).symm⟩

/-- Where no value is omitted, all that writing needs is a text for each value. -/
theorem writeEach_eq_ok_iff_of_present {call : Call} {xs : List (Parameter × Arg)}
    {texts : List String} (all : ∀ x ∈ xs, x.2 ≠ .omitted) :
    writeEach call false xs = .ok texts ↔ List.Forall₂ (IsWritten call) xs texts := by
  have whole : present xs = xs := List.filter_eq_self.2 fun x hx => bne_iff_ne.2 (all x hx)
  have pairs : xs.Pairwise MayFollow :=
    List.pairwise_of_forall_mem_list fun x hx _ _ omitted => absurd omitted (all x hx)
  rw [writeEach_eq_ok_iff, whole]
  exact ⟨fun h => h.1, fun h => ⟨h, pairs, fun gap => nomatch gap⟩⟩

/-- Where no value is omitted and there are no more parameters than values, none is missing. -/
theorem not_missing_of_present {params : List Parameter} (few : params.length ≤ args.length)
    (all : ∀ a ∈ args, a ≠ .omitted) (j : Nat) : ¬Missing params args j := by
  rintro ⟨p, hp, -, absent⟩
  obtain ⟨inside, -⟩ := List.getElem?_eq_some_iff.1 hp
  have given : args[j]? = some args[j] := List.getElem?_eq_getElem (Nat.lt_of_lt_of_le inside few)
  exact all args[j] (List.getElem_mem _) (absent _ given)

/-- Spelled out, all parameters are single ones. -/
theorem kind_of_mem_expand (s : Signature) (args : List Arg) :
    ∀ q ∈ (expand s args).params, q.kind = .single := by
  intro q hq
  rw [expand, expansion_segments] at hq
  obtain ⟨x, -, rfl⟩ := List.mem_map.1 hq
  exact Parameter.kind_slot x.1

/-- In a call that is used up, each value is assigned. -/
theorem map_snd_assign_segments {params : List Parameter}
    (whole : (segments params args).flatten = args) :
    (assign params (segments params args)).map Prod.snd = args := by
  rw [map_snd_assign (isSegmentation_segments whole).length_le, whole]

/-- The values are assigned to the spelled out parameters as they were to the parameters. -/
theorem assign_expand (whole : (segments s.params args).flatten = args) :
    assign (expand s args).params (segments (expand s args).params args) =
      (assign s.params (segments s.params args)).map fun x => (x.1.slot, x.2) := by
  calc assign (expand s args).params (segments (expand s args).params args)
      = (expand s args).params.zip args :=
        assign_segments_of_singles (kind_of_mem_expand s args) args
    _ = ((assign s.params (segments s.params args)).map fun x => x.1.slot).zip
          ((assign s.params (segments s.params args)).map Prod.snd) := by
        rw [map_snd_assign_segments whole, expand, expansion_segments]
    _ = (assign s.params (segments s.params args)).map fun x => (x.1.slot, x.2) := List.zip_map'

/-- Spelled out, the parameters are as many as the values. -/
theorem length_params_expand (whole : (segments s.params args).flatten = args) :
    (expand s args).params.length = args.length := by
  rw [expand, expansion_segments, List.length_map, ← List.length_map Prod.snd,
    map_snd_assign_segments whole]

/-- Arguments that have a line have the same with the expanded signature. -/
theorem bindArgs_expand_eq_ok {text : String} (all : ∀ a ∈ args, a ≠ .omitted)
    (bound : bindArgs services s args = .ok text) :
    bindArgs services (expand s args) args = .ok text := by
  obtain ⟨texts, written, whole, -, rfl⟩ := bindArgs_eq_ok_iff.1 bound
  have asMany := length_params_expand whole
  have assignedAll : ∀ x ∈ assign s.params (segments s.params args), x.2 ≠ .omitted := by
    intro x hx
    have value : x.2 ∈ (assign s.params (segments s.params args)).map Prod.snd :=
      List.mem_map_of_mem hx
    rw [map_snd_assign_segments whole] at value
    exact all x.2 value
  refine bindArgs_eq_ok_iff.2 ⟨texts, ?_, ?_, ?_, rfl⟩
  · rw [writeEach_eq_ok_iff_of_present assignedAll] at written
    rw [assign_expand whole, writeEach_eq_ok_iff_of_present, List.forall₂_map_left_iff]
    · exact written.imp fun x text here => here.slot
    · intro y hy
      obtain ⟨x, hx, rfl⟩ := List.mem_map.1 hy
      exact assignedAll x hx
  · exact flatten_segments_of_singles (kind_of_mem_expand s args) asMany.ge
  · exact not_missing_of_present asMany.le all

end Lines

/-- **Runs are shorthand**: if a call without omitted values has a line, it has the same line under
the signature in which each parameter that took a run is replaced by unnamed single parameters, one
for each value of the run and with the letter for several values left out, and the parameters that
took nothing are dropped. -/
theorem bind_expand_eq_ok (services : Fragment.Services) (s : Signature) (values : List Value)
    (args : List Arg) (text : String) (taken : toArgs values = .ok args)
    (all : ∀ a ∈ args, a ≠ .omitted) (bound : bind services s values = .ok text) :
    (∀ q ∈ (expand s args).params, q.kind = .single) ∧
      bind services (expand s args) values = .ok text := by
  rw [bind_of_toArgs services s taken] at bound
  rw [bind_of_toArgs services (expand s args) taken]
  exact ⟨kind_of_mem_expand s args, bindArgs_expand_eq_ok all bound⟩

/-- A required run of numbers, a named text and an automatic run, with a parameter left over. -/
theorem bind_expand_eq_ok_two_runs :
    bind (.inDirectory "/work")
        ⟨"Foo", [⟨"ri", none, false⟩, ⟨"ri", none, false⟩, ⟨"q", some "x", true⟩,
          ⟨"a", none, false⟩, ⟨"a", none, false⟩], []⟩
        [.int 1, .int 2, .text "t", .bool true, .text "clip"] =
      .ok "Foo(1, 2, x=\"t\", true, clip)" := by
  have bound : bind (.inDirectory "/work")
      ⟨"Foo", [⟨"rmi", none, false⟩, ⟨"q", some "x", true⟩, ⟨"ma", some "y", true⟩,
        ⟨"b", some "z", true⟩], []⟩
      [.int 1, .int 2, .text "t", .bool true, .text "clip"] =
        .ok "Foo(1, 2, x=\"t\", true, clip)" :=
    rfl
  exact (bind_expand_eq_ok (.inDirectory "/work")
    ⟨"Foo", [⟨"rmi", none, false⟩, ⟨"q", some "x", true⟩, ⟨"ma", some "y", true⟩,
      ⟨"b", some "z", true⟩], []⟩ _
    [.int 1, .int 2, .text "t", .bool true, .text "clip"] _ rfl (by decide) bound).2

end Binding

end FilterScript
