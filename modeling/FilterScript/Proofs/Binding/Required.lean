import FilterScript.Proofs.Binding.Assignment
import Mathlib.Order.Nat

/-!
# Required parameters

After matching, each required parameter is looked up at its own index among the values. Which
parameters matching itself has served is another question, since runs take several values and the
indices drift apart behind them.

* **The look-up** (`missingFrom_eq_none_iff`, `missingFrom_of_isLeast`): it passes exactly if no
  required parameter is missing by index, and else reports the least index.
* **Agreement** (`bind_missing_iff_unserved`): where no run stands before a required
  parameter, the parameters that are missing by index are those that matching gave no value to.
-/

namespace FilterScript

namespace Binding

/-! ## Looking up by index -/

/-- Whether there is a required parameter at an index at which no value is given. -/
def Missing (params : List Parameter) (args : List Arg) (j : Nat) : Prop :=
  ∃ p, params[j]? = some p ∧ p.isRequired = true ∧ ∀ a, args[j]? = some a → a = .omitted

/-- The error for a required parameter without a value, which has a kind of its own for files. -/
def missingError (name : String) (file : Bool) (position : Nat) : Error :=
  if file then .missingFilename name position else .missingRequired name position

section Lookup

variable {name : String} {p : Parameter} {params : List Parameter} {args : List Arg}
  {position : Nat}

/-- Without parameters nothing is missing. -/
theorem not_missing_nil (args : List Arg) (j : Nat) : ¬Missing [] args j := by
  rintro ⟨p, absent, -⟩
  simp at absent

/-- The first parameter is missing if it is required and its value is left out. -/
theorem missing_zero_iff :
    Missing (p :: params) args 0 ↔ p.isRequired = true ∧ args.head?.getD .omitted = .omitted := by
  cases args <;> simp [Missing]

/-- The others are missing as they are behind the first value. -/
theorem missing_succ_iff {j : Nat} :
    Missing (p :: params) args (j + 1) ↔ Missing params args.tail j := by
  cases args <;> simp [Missing]

/-- A missing first parameter is reported with its position. -/
theorem missingFrom_of_missing (h : Missing (p :: params) args 0) :
    missingFrom name (p :: params) args position =
      some (missingError name p.letters.file position) := by
  obtain ⟨required, absent⟩ := missing_zero_iff.1 h
  rw [missingFrom, if_neg (not_not.2 absent), missingError]
  by_cases file : p.letters.file = true
  · rw [if_pos file, if_pos file]
  · have letter : p.letters.required = true := by
      simpa [Parameter.isRequired, Modifier.isRequired, file] using required
    rw [if_neg file, if_pos letter, if_neg file]

/-- If the first is not missing, the others are looked at. -/
theorem missingFrom_of_not_missing (h : ¬Missing (p :: params) args 0) :
    missingFrom name (p :: params) args position =
      missingFrom name params args.tail (position + 1) := by
  rw [missingFrom]
  by_cases absent : args.head?.getD .omitted = .omitted
  · have optional : p.isRequired = false := by
      rw [← Bool.not_eq_true]
      exact fun required => h (missing_zero_iff.2 ⟨required, absent⟩)
    rw [Parameter.isRequired, Modifier.isRequired, Bool.or_eq_false_iff] at optional
    simp [absent, optional.1, optional.2]
  · rw [if_pos absent]

/-- The look-up passes exactly if nothing is missing. -/
theorem missingFrom_eq_none_iff :
    missingFrom name params args position = none ↔ ∀ j, ¬Missing params args j := by
  induction params generalizing args position with
  | nil => exact iff_of_true rfl fun j => not_missing_nil args j
  | cons p params ih =>
    by_cases here : Missing (p :: params) args 0
    · rw [missingFrom_of_missing here]
      exact iff_of_false (Option.some_ne_none _) fun none => none 0 here
    · rw [missingFrom_of_not_missing here, ih]
      constructor
      · intro none j
        cases j with
        | zero => exact here
        | succ j => exact fun h => none j (missing_succ_iff.1 h)
      · exact fun none j h => none (j + 1) (missing_succ_iff.2 h)

/-- The look-up reports the least index at which something is missing. -/
theorem missingFrom_of_isLeast {j : Nat} {q : Parameter}
    (least : IsLeast {i | Missing params args i} j) (hq : params[j]? = some q) :
    missingFrom name params args position =
      some (missingError name q.letters.file (position + j)) := by
  obtain ⟨missing, lower⟩ := least
  induction params generalizing args position j with
  | nil => exact absurd missing (not_missing_nil args j)
  | cons p params ih =>
    cases j with
    | zero =>
      obtain rfl := Option.some.inj hq
      exact missingFrom_of_missing missing
    | succ j =>
      have here : ¬Missing (p :: params) args 0 :=
        fun h => absurd (lower h) (Nat.not_succ_le_zero j)
      rw [missingFrom_of_not_missing here, ih hq (missing_succ_iff.1 missing), Nat.add_right_comm,
        Nat.add_assoc]
      exact fun i hi => Nat.le_of_succ_le_succ (lower (missing_succ_iff.2 hi))

/-- If anything is missing, something is missing at the least index. -/
theorem exists_isLeast_missing (h : ∃ i, Missing params args i) :
    ∃ j p, IsLeast {i | Missing params args i} j ∧ params[j]? = some p := by
  classical
  have least : IsLeast {i | Missing params args i} (Nat.find h) := Nat.isLeast_find h
  obtain ⟨p, hp, -⟩ := least.1
  exact ⟨Nat.find h, p, least, hp⟩

/-- What the look-up reports, and when. -/
theorem missingFrom_eq_some_iff {e : Error} :
    missingFrom name params args position = some e ↔
      ∃ j q, IsLeast {i | Missing params args i} j ∧ params[j]? = some q ∧
        e = missingError name q.letters.file (position + j) := by
  constructor
  · intro reported
    have some_missing : ∃ i, Missing params args i := by
      by_contra none
      rw [missingFrom_eq_none_iff.2 (not_exists.1 none)] at reported
      cases reported
    obtain ⟨j, q, least, hq⟩ := exists_isLeast_missing some_missing
    rw [missingFrom_of_isLeast least hq] at reported
    exact ⟨j, q, least, hq, (Option.some.inj reported).symm⟩
  · rintro ⟨j, q, least, hq, rfl⟩
    exact missingFrom_of_isLeast least hq

end Lookup

/-- An error for a missing value tells its index and whether a file is missing. -/
theorem missingError_inj {name other : String} {file otherFile : Bool} {i j : Nat} :
    missingError name file i = missingError other otherFile j ↔
      name = other ∧ file = otherFile ∧ i = j := by
  cases file <;> cases otherFile <;> simp [missingError]

section Matched

variable {services : Fragment.Services} {s : Signature} {args : List Arg} {texts : List String}

/-- A call that is matched fails only for a missing value, and for the one of least index. -/
theorem bindArgs_eq_error_iff_of_matched
    (matched : matchFrom (callOf services s args.length) s.params args 0 [] = .ok texts)
    {e : Error} :
    bindArgs services s args = .error e ↔
      ∃ j p, IsLeast {i | Missing s.params args i} j ∧ s.params[j]? = some p ∧
        e = missingError s.name p.letters.file j := by
  have reported : missingFrom s.name s.params args 0 = some e ↔
      ∃ j p, IsLeast {i | Missing s.params args i} j ∧ s.params[j]? = some p ∧
        e = missingError s.name p.letters.file (0 + j) :=
    missingFrom_eq_some_iff
  simp only [Nat.zero_add] at reported
  rw [bindArgs_of_matched services s matched, ← reported]
  cases missingFrom s.name s.params args 0 with
  | none => simp
  | some other => simp

/-- Of a call that is matched, an error for a missing value tells the least index at which a value
is missing, and whether the parameter there is one of a file. -/
theorem bindArgs_eq_missingError_iff
    (matched : matchFrom (callOf services s args.length) s.params args 0 [] = .ok texts)
    (name : String) (file : Bool) (j : Nat) :
    bindArgs services s args = .error (missingError name file j) ↔
      name = s.name ∧ IsLeast {i | Missing s.params args i} j ∧
        ∃ p, s.params[j]? = some p ∧ p.letters.file = file := by
  rw [bindArgs_eq_error_iff_of_matched matched]
  constructor
  · rintro ⟨i, p, least, hp, e⟩
    obtain ⟨rfl, rfl, rfl⟩ := missingError_inj.1 e
    exact ⟨rfl, least, p, hp, rfl⟩
  · rintro ⟨rfl, least, p, hp, rfl⟩
    exact ⟨j, p, least, hp, rfl⟩

end Matched

/-! ## Looking up by segments -/

/-- Whether matching gives the parameter at an index a value that is not omitted. -/
def Absorbs (params : List Parameter) (args : List Arg) (j : Nat) : Prop :=
  ∃ segment a, (segments params args)[j]? = some segment ∧ a ∈ segment ∧ a ≠ .omitted

/-- Whether there is a required parameter at an index that matching gives no value. -/
def Unserved (params : List Parameter) (args : List Arg) (j : Nat) : Prop :=
  ∃ p, params[j]? = some p ∧ p.isRequired = true ∧ ¬Absorbs params args j

/-- The first parameter takes what is in front unless that is left out. -/
theorem absorbs_zero_iff {p : Parameter} {params : List Parameter} {a : Arg} {rest : List Arg} :
    Absorbs (p :: params) (a :: rest) 0 ↔ a ≠ .omitted := by
  constructor
  · rintro ⟨segment, b, here, hb, present⟩ rfl
    obtain rfl := Option.some.inj here
    rw [segmentOf_of_one (.inl rfl)] at hb
    exact present (List.mem_singleton.1 hb)
  · intro present
    exact ⟨segmentOf p a rest, a, rfl, mem_segmentOf p a rest, present⟩

/-- The others take what is behind the segment of the first. -/
theorem absorbs_succ_iff {p : Parameter} {params : List Parameter} {a : Arg} {rest : List Arg}
    {j : Nat} : Absorbs (p :: params) (a :: rest) (j + 1) ↔ Absorbs params (behindOf p a rest) j :=
  Iff.rfl

/-- Up to the first run, a parameter takes the value at its own index. -/
theorem absorbs_iff_of_singles {params : List Parameter} {args : List Arg} {j : Nat}
    (inside : j < params.length)
    (singles : ∀ i < j, ∀ q, params[i]? = some q → q.kind = .single) :
    Absorbs params args j ↔ ∃ a, args[j]? = some a ∧ a ≠ .omitted := by
  induction params generalizing args j with
  | nil => exact absurd inside (Nat.not_lt_zero j)
  | cons p params ih =>
    cases args with
    | nil => simp [Absorbs, segments_nil]
    | cons a rest =>
      cases j with
      | zero =>
        rw [absorbs_zero_iff]
        simp
      | succ j =>
        -- a single parameter takes one value, so index and segment stay in step
        have single : p.kind = .single := singles 0 (Nat.succ_pos j) p rfl
        rw [absorbs_succ_iff, behindOf_of_one (.inr single), List.getElem?_cons_succ]
        exact ih (Nat.lt_of_succ_lt_succ inside)
          fun i hi q hq => singles (i + 1) (Nat.succ_lt_succ hi) q hq

/-- Where no run stands before a required parameter, a parameter is missing by index exactly if
matching gave it no value. -/
theorem unserved_iff_missing {params : List Parameter} {args : List Arg} {j : Nat}
    (runsLast : params.Pairwise fun p q => q.isRequired = true → p.kind = .single) :
    Unserved params args j ↔ Missing params args j := by
  refine exists_congr fun p => and_congr_right fun hp => and_congr_right fun required => ?_
  obtain ⟨inside, rfl⟩ := List.getElem?_eq_some_iff.1 hp
  have singles : ∀ i < j, ∀ q, params[i]? = some q → q.kind = .single := by
    intro i hi q hq
    obtain ⟨_, rfl⟩ := List.getElem?_eq_some_iff.1 hq
    exact List.pairwise_iff_getElem.1 runsLast i j _ inside hi required
  rw [absorbs_iff_of_singles inside singles, not_exists]
  exact forall_congr' fun a => Decidable.not_and_not_right

/-- **The look-up by index agrees with matching**: for a call that is matched, and a signature in
which no run stands before a required parameter, a missing value is reported exactly if matching
gave some required parameter no value; the index reported is the least of these, and the error is
that for a file exactly if the parameter there is one of a file. -/
theorem bind_missing_iff_unserved (services : Fragment.Services) (s : Signature)
    (values : List Value) (args : List Arg) (texts : List String)
    (taken : toArgs values = .ok args)
    (runsLast : s.params.Pairwise fun p q => q.isRequired = true → p.kind = .single)
    (matched : matchFrom (callOf services s args.length) s.params args 0 [] = .ok texts) :
    ((∃ name j, bind services s values = .error (Error.missingFilename name j) ∨
        bind services s values = .error (Error.missingRequired name j)) ↔
      ∃ j, Unserved s.params args j) ∧
    (∀ name j, bind services s values = .error (Error.missingFilename name j) ↔
      name = s.name ∧ IsLeast {i | Unserved s.params args i} j ∧
        ∃ p, s.params[j]? = some p ∧ p.letters.file = true) ∧
    ∀ name j, bind services s values = .error (Error.missingRequired name j) ↔
      name = s.name ∧ IsLeast {i | Unserved s.params args i} j ∧
        ∃ p, s.params[j]? = some p ∧ p.letters.file = false := by
  have agree : ∀ i, Unserved s.params args i ↔ Missing s.params args i :=
    fun i => unserved_iff_missing runsLast
  rw [bind_of_toArgs services s taken]
  simp only [agree]
  have filename := fun name j => bindArgs_eq_missingError_iff matched name true j
  have required := fun name j => bindArgs_eq_missingError_iff matched name false j
  refine ⟨⟨?_, ?_⟩, filename, required⟩
  · rintro ⟨name, j, reported | reported⟩
    · have ⟨_, least, _⟩ := (filename name j).1 reported
      exact ⟨j, least.1⟩
    · have ⟨_, least, _⟩ := (required name j).1 reported
      exact ⟨j, least.1⟩
  · intro missing
    obtain ⟨j, p, least, hp⟩ := exists_isLeast_missing missing
    refine ⟨s.name, j, ?_⟩
    cases file : p.letters.file with
    | true => exact .inl ((filename s.name j).2 ⟨rfl, least, p, hp, file⟩)
    | false => exact .inr ((required s.name j).2 ⟨rfl, least, p, hp, file⟩)

/-- A file that is omitted, before a run that is missing too. -/
theorem bind_missing_iff_unserved_file :
    bind (.inDirectory "/work")
        ⟨"Foo", [⟨"i", some "x", true⟩, ⟨"f", none, false⟩, ⟨"rmi", none, false⟩], []⟩
        [.int 1, .null] = .error (.error (.missingFilename "Foo" 1)) := by
  have matched : matchFrom (callOf (.inDirectory "/work")
      ⟨"Foo", [⟨"i", some "x", true⟩, ⟨"f", none, false⟩, ⟨"rmi", none, false⟩], []⟩ 2)
      [⟨"i", some "x", true⟩, ⟨"f", none, false⟩, ⟨"rmi", none, false⟩] [.int 1, .omitted] 0 [] =
        .ok ["x=1"] :=
    rfl
  refine ((bind_missing_iff_unserved (.inDirectory "/work")
    ⟨"Foo", [⟨"i", some "x", true⟩, ⟨"f", none, false⟩, ⟨"rmi", none, false⟩], []⟩
    [.int 1, .null] [.int 1, .omitted] ["x=1"] rfl (by decide) matched).2.1 "Foo" 1).2
    ⟨rfl, ⟨?_, ?_⟩, ⟨"f", none, false⟩, rfl, by decide⟩
  · refine ⟨⟨"f", none, false⟩, rfl, by decide, ?_⟩
    rw [absorbs_succ_iff, behindOf_of_one (.inr (by decide)), absorbs_zero_iff]
    exact fun present => present rfl
  · rintro i ⟨p, hp, required, -⟩
    cases i with
    | zero =>
      obtain rfl := Option.some.inj hp
      exact absurd required (by decide)
    | succ i => exact Nat.succ_le_succ (Nat.zero_le i)

end Binding

end FilterScript
