import FilterScript.Error

/-!
# Outcomes

An operation gives a result, an error or a fault. Of operations one after the other the first that
gives no result decides, and so it is for all of a list.

* **Sequences** (`isFault_foldlM_iff`): what is done in a row faults where the first part does that does
  not go through.
* **Two outcomes** (`Alike.bind`): if two operations give the same result or fail alike, then so they do
  with what follows them.
-/

namespace FilterScript

/-! ## Results -/

/-- An error is no result. -/
theorem not_exists_error_eq_ok {ε α : Type} (e : ε) : ¬∃ a, (.error e : Except ε α) = .ok a := by
  rintro ⟨a, ⟨⟩⟩

/-- A result is no error. -/
theorem not_exists_ok_eq_error {ε α : Type} (a : α) : ¬∃ e, (.ok a : Except ε α) = .error e := by
  rintro ⟨e, ⟨⟩⟩

/-- What gives no result ends in an error. -/
theorem not_exists_eq_ok_iff {ε α : Type} {x : Except ε α} :
    (¬∃ a, x = .ok a) ↔ ∃ e, x = .error e := by
  cases x <;> simp

/-- All of a list goes through if each part of it does. -/
theorem exists_mapM_eq_ok_iff {ε α β : Type} {f : α → Except ε β} {xs : List α} :
    (∃ ys, xs.mapM f = .ok ys) ↔ ∀ x ∈ xs, ∃ y, f x = .ok y := by
  induction xs with
  | nil => exact iff_of_true ⟨[], rfl⟩ fun _ absent => nomatch absent
  | cons x xs ih =>
    rw [List.mapM_cons, List.forall_mem_cons, ← ih]
    cases f x with
    | error e => exact iff_of_false (not_exists_error_eq_ok _) fun h => nomatch h.1
    | ok y =>
      cases xs.mapM f with
      | error e => exact iff_of_false (not_exists_error_eq_ok _) fun h => nomatch h.2
      | ok ys => exact iff_of_true ⟨y :: ys, rfl⟩ ⟨⟨y, rfl⟩, ys, rfl⟩

/-- A list that does not go through fails as one of its parts does. -/
theorem exists_eq_error_of_mapM_eq_error {ε α β : Type} {f : α → Except ε β} {xs : List α} {e : ε}
    (h : xs.mapM f = .error e) : ∃ x ∈ xs, f x = .error e := by
  induction xs with
  | nil => cases h
  | cons x xs ih =>
    rw [List.mapM_cons] at h
    cases first : f x with
    | error other =>
      rw [first] at h
      obtain rfl := Except.error.inj h
      exact ⟨x, List.mem_cons_self, first⟩
    | ok y =>
      cases rest : xs.mapM f with
      | ok ys =>
        rw [first, rest] at h
        cases h
      | error other =>
        rw [first, rest] at h
        obtain rfl := Except.error.inj h
        obtain ⟨x', inside, failed⟩ := ih rest
        exact ⟨x', List.mem_cons_of_mem x inside, failed⟩

/-- What a list is taken to is taken from its items. -/
theorem exists_of_mem_of_mapM_eq_ok {ε α β : Type} {f : α → Except ε β} {xs : List α} {ys : List β}
    (h : xs.mapM f = .ok ys) {y : β} (inside : y ∈ ys) : ∃ x ∈ xs, f x = .ok y := by
  induction xs generalizing ys with
  | nil =>
    obtain rfl := Except.ok.inj h
    cases inside
  | cons x xs ih =>
    rw [List.mapM_cons] at h
    cases first : f x with
    | error e =>
      rw [first] at h
      cases h
    | ok z =>
      cases rest : xs.mapM f with
      | error e =>
        rw [first, rest] at h
        cases h
      | ok zs =>
        rw [first, rest] at h
        obtain rfl := Except.ok.inj h
        rcases List.mem_cons.1 inside with rfl | inside
        · exact ⟨x, List.mem_cons_self, first⟩
        · obtain ⟨w, among, taken⟩ := ih rest inside
          exact ⟨w, List.mem_cons_of_mem x among, taken⟩

/-- An outcome whose value passes a test has a value. -/
theorem Outcome.exists_eq_ok_of_any {α : Type} {outcome : Outcome α} {p : α → Bool}
    (h : outcome.toOption.any p = true) : ∃ a, outcome = .ok a ∧ p a = true := by
  cases outcome with
  | error e => cases h
  | ok a => exact ⟨a, rfl, h⟩

/-- What is refused under a condition goes through where the condition does not hold. -/
theorem refused_eq_ok_iff {α : Type} {c : Prop} [Decidable c] {e : Failure} {a b : α} :
    (if c then .error e else .ok a : Outcome α) = .ok b ↔ ¬c ∧ b = a := by
  split
  · next refused => exact iff_of_false (fun h => nomatch h) fun h => h.1 refused
  · next passed =>
    rw [Except.ok.injEq]
    exact ⟨fun same => ⟨passed, same.symm⟩, fun h => h.2.symm⟩

/-- A guard in front of a result fails just when its condition holds, and then in its own way. -/
theorem refused_eq_error_iff {α : Type} {c : Prop} [Decidable c] {e f : Failure} {a : α} :
    (if c then .error e else .ok a : Outcome α) = .error f ↔ c ∧ f = e := by
  split
  · next refused =>
    rw [Except.error.injEq]
    exact ⟨fun same => ⟨refused, same.symm⟩, fun h => h.2.symm⟩
  · next passed => exact iff_of_false (fun h => nomatch h) fun h => passed h.1

/-- What follows an outcome has a value if the outcome has one from which it goes on to the value.
-/
theorem bind_eq_ok_iff {α β : Type} {o : Outcome α} {f : α → Outcome β} {b : β} :
    (o >>= f) = .ok b ↔ ∃ a, o = .ok a ∧ f a = .ok b := by
  cases o with
  | error e => exact iff_of_false (fun h => nomatch h) fun ⟨_, h, _⟩ => nomatch h
  | ok a =>
    constructor
    · exact fun h => ⟨a, rfl, h⟩
    · rintro ⟨b, same, h⟩
      cases same
      exact h

/-- What follows an outcome has a value only if the outcome has one. -/
theorem exists_of_bind_eq_ok {α β : Type} {o : Outcome α} {f : α → Outcome β} {b : β}
    (h : (o >>= f) = .ok b) : ∃ a, o = .ok a ∧ f a = .ok b :=
  bind_eq_ok_iff.1 h

/-- What is made of the value of an outcome is there if the value is. -/
theorem map_eq_ok_iff {ε α β : Type} {o : Except ε α} {f : α → β} {b : β} :
    o.map f = .ok b ↔ ∃ a, o = .ok a ∧ f a = b := by
  cases o <;> simp [Except.map]

/-! ## Faults -/

/-- Whether an outcome is a fault: a failure that no message is written for, and that something is
said about. -/
def IsFault {α : Type} (outcome : Outcome α) : Prop :=
  ∃ f, f ≠ .outside ∧ outcome = .error (.fault f)

section Faults

variable {α β : Type}

/-- A result is no fault. -/
theorem not_isFault_ok (a : α) : ¬IsFault (.ok a) := by
  rintro ⟨f, -, h⟩
  cases h

/-- Whether a failure is a fault does not depend on what was asked for. -/
theorem isFault_error_iff {e : Failure} :
    IsFault (.error e : Outcome α) ↔ ∃ f, f ≠ .outside ∧ e = .fault f := by
  simp only [IsFault, Except.error.injEq]

/-- A reported error is no fault. -/
theorem not_isFault_error (e : Error) : ¬IsFault (.error (.error e) : Outcome α) := by
  rintro ⟨f, -, h⟩
  cases h

/-- A fault is one, unless nothing is said about it. -/
theorem isFault_fault_iff {f : Fault} : IsFault (.error (.fault f) : Outcome α) ↔ f ≠ .outside := by
  rw [isFault_error_iff]
  constructor
  · rintro ⟨g, said, same⟩
    cases same
    exact said
  · intro said
    exact ⟨f, said, rfl⟩

/-- An error is a fault if its message cannot be written. -/
theorem isFault_raise_iff {e : Error} :
    IsFault (.error e.raise : Outcome α) ↔ Value.areShowable e.shownValues = false := by
  cases shown : Value.areShowable e.shownValues with
  | true =>
    rw [Error.raise_of_areShowable shown]
    exact iff_of_false (not_isFault_error e) (nomatch ·)
  | false =>
    rw [Error.raise_of_not_areShowable shown]
    exact iff_of_true (isFault_fault_iff.2 nofun) rfl

/-- What is made of a result brings in no fault, and takes none away. -/
theorem isFault_map_iff {g : α → β} {outcome : Outcome α} :
    IsFault (outcome.map g) ↔ IsFault outcome := by
  cases outcome with
  | ok a => exact iff_of_false (not_isFault_ok _) (not_isFault_ok a)
  | error e => exact isFault_error_iff.trans isFault_error_iff.symm

/-- What is done first faults, or what is done with its result. -/
theorem isFault_bind_iff {outcome : Outcome α} {next : α → Outcome β} :
    IsFault (outcome >>= next) ↔ IsFault outcome ∨ ∃ a, outcome = .ok a ∧ IsFault (next a) := by
  cases outcome with
  | ok a =>
    constructor
    · intro h
      exact .inr ⟨a, rfl, h⟩
    · rintro (h | ⟨b, same, h⟩)
      · exact absurd h (not_isFault_ok a)
      · cases same
        exact h
  | error e =>
    refine (isFault_error_iff.trans isFault_error_iff.symm).trans (or_iff_left ?_).symm
    rintro ⟨a, absent, -⟩
    cases absent

/-- **Sequences** fault where a part does that all parts before it lead to. -/
theorem isFault_foldlM_iff {take : β → α → Outcome β} {s : β} {items : List α} :
    IsFault (items.foldlM take s) ↔
      ∃ front item back t, items = front ++ item :: back ∧ front.foldlM take s = .ok t ∧
        IsFault (take t item) := by
  -- the first part faults itself, or it leads to the state that the rest begins with
  induction items generalizing s with
  | nil =>
    refine iff_of_false (not_isFault_ok s) ?_
    rintro ⟨front, item, back, t, whole, -, -⟩
    exact List.append_ne_nil_of_right_ne_nil front (List.cons_ne_nil item back) whole.symm
  | cons first rest ih =>
    rw [List.foldlM_cons, isFault_bind_iff]
    constructor
    · rintro (h | ⟨next, taken, h⟩)
      · exact ⟨[], first, rest, s, rfl, rfl, h⟩
      · obtain ⟨front, item, back, t, rfl, before, h⟩ := ih.1 h
        refine ⟨first :: front, item, back, t, rfl, ?_, h⟩
        rw [List.foldlM_cons, taken]
        exact before
    · rintro ⟨front, item, back, t, whole, before, h⟩
      cases front with
      | nil =>
        obtain ⟨rfl, rfl⟩ := List.cons.inj whole
        obtain rfl := Except.ok.inj before
        exact .inl h
      | cons other front =>
        obtain ⟨rfl, rfl⟩ := List.cons.inj whole
        rw [List.foldlM_cons] at before
        cases taken : take s first with
        | error e =>
          rw [taken] at before
          cases before
        | ok next =>
          rw [taken] at before
          exact .inr ⟨next, rfl, ih.2 ⟨front, item, back, t, rfl, before, h⟩⟩

/-- What an operation leaves if it goes through, or else what it fails with. -/
def leftBy : β × Outcome α → Outcome β
  | (s, .ok _) => .ok s
  | (_, .error e) => .error e

/-- What a pair leaves is a fault just when its outcome is one. -/
theorem isFault_leftBy_iff {result : β × Outcome α} :
    IsFault (leftBy result) ↔ IsFault result.2 := by
  obtain ⟨s, outcome⟩ := result
  cases outcome with
  | ok a => exact iff_of_false (not_isFault_ok s) (not_isFault_ok a)
  | error e => exact isFault_error_iff.trans isFault_error_iff.symm

end Faults

/-! ## Two outcomes -/

section Alike

variable {α β : Type} {R S : Failure → Failure → Prop} {o o' : Outcome α}

/-- Whether two outcomes are the same result, or failures that are related. -/
inductive Alike (R : Failure → Failure → Prop) : Outcome α → Outcome α → Prop
  | ok (a : α) : Alike R (.ok a) (.ok a)
  | error {e e' : Failure} (related : R e e') : Alike R (.error e) (.error e')

/-- An outcome is like itself under any relation that holds of each failure with itself. -/
theorem Alike.refl (same : ∀ e, R e e) (o : Outcome α) : Alike R o o := by
  cases o with
  | ok a => exact .ok a
  | error e => exact .error (same e)

/-- Outcomes alike under one relation are alike under every wider one. -/
theorem Alike.mono (h : Alike R o o') (more : ∀ e e', R e e' → S e e') : Alike S o o' := by
  cases h with
  | ok a => exact .ok a
  | error related => exact .error (more _ _ related)

/-- The same test in front of outcomes that are alike. -/
theorem Alike.ite {c : Prop} [Decidable c] {p p' : Outcome α} (h : Alike R o o')
    (h' : Alike R p p') : Alike R (if c then o else p) (if c then o' else p') := by
  by_cases hc : c
  · rwa [if_pos hc, if_pos hc]
  · rwa [if_neg hc, if_neg hc]

/-- Outcomes that are alike stay so when steps that are alike follow them. -/
theorem Alike.bind {f f' : α → Outcome β} (h : Alike R o o') (next : ∀ a, Alike R (f a) (f' a)) :
    Alike R (o >>= f) (o' >>= f') := by
  cases h with
  | ok a => exact next a
  | error related => exact .error related

/-- Outcomes that are alike stay so when their results are changed in one way. -/
theorem Alike.map (f : α → β) (h : Alike R o o') : Alike R (o.map f) (o'.map f) := by
  cases h with
  | ok a => exact .ok (f a)
  | error related => exact .error related

/-- What is done with each of a list gives alike outcomes if it does with any. -/
theorem Alike.mapM {f g : α → Outcome β} (h : ∀ a, Alike R (f a) (g a)) (xs : List α) :
    Alike R (xs.mapM f) (xs.mapM g) := by
  induction xs with
  | nil => exact .ok []
  | cons x xs ih =>
    rw [List.mapM_cons, List.mapM_cons]
    exact (h x).bind fun y => ih.bind fun ys => .ok (y :: ys)

/-- Of two outcomes that are alike, both give a result or neither does, and it is the same one. -/
theorem Alike.eq_ok_iff (h : Alike R o o') {a : α} : o = .ok a ↔ o' = .ok a := by
  cases h with
  | ok b => exact Iff.rfl
  | error related => exact iff_of_false (fun h => nomatch h) fun h => nomatch h

/-- A failure that is related to itself alone stays what it is. -/
theorem Alike.eq_error_iff (h : Alike R o o') {f : Failure} (alone : ∀ e e', R e e' → (e' = f ↔ e = f)) :
    o' = .error f ↔ o = .error f := by
  cases h with
  | ok a => exact iff_of_false (fun h => nomatch h) fun h => nomatch h
  | error related => rw [Except.error.injEq, Except.error.injEq, alone _ _ related]

/-- A failure on one side has a related failure on the other. -/
theorem Alike.exists_eq_error (h : Alike R o o') {e : Failure} (failed : o = .error e) :
    ∃ e', o' = .error e' ∧ R e e' := by
  cases h with
  | ok a => cases failed
  | error related =>
    obtain rfl := Except.error.inj failed
    exact ⟨_, rfl, related⟩

end Alike

end FilterScript
