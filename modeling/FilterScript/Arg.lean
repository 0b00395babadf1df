import FilterScript.Number.Shortest

/-!
# Arguments

A value handed to a call is a truth value, a number, a text, or left out. Runs of values are told
apart by these four variants; whole and fractional numbers are one variant. The main statement says
which arguments have no text in scripts.
-/

namespace FilterScript

/-- A value in a call. -/
inductive Arg where
  /-- A truth value. -/
  | bool (b : Bool)
  /-- A whole number of any size. -/
  | int (n : Int)
  /-- A fractional number. -/
  | float (x : Binary64)
  /-- A text. -/
  | text (s : String)
  /-- A value that is left out. -/
  | omitted
deriving DecidableEq

namespace Arg

/-- The variants of arguments. -/
inductive Variant where
  | bool
  | number
  | text
  | omitted
deriving DecidableEq, Repr

/-- The variant of an argument. -/
def variant : Arg → Variant
  | bool _ => .bool
  | int _ => .number
  | float _ => .number
  | text _ => .text
  | omitted => .omitted

/-- Whether an argument counts as present when it is tested: zero, false, the empty text and what is
no number do not, nor does what is left out. -/
def isTruthy : Arg → Bool
  | bool b => b
  | int n => n != 0
  | float x => !x.isZero && !x.isNan
  | text s => s != ""
  | omitted => false

/-- Whether an argument is a number that is neither infinite nor no number. -/
def isFiniteNumber : Arg → Bool
  | int _ => true
  | float x => x.isFinite
  | _ => false

/-- Whether an argument is a text. -/
def isText : Arg → Bool
  | text _ => true
  | _ => false

/-- Whether an argument is no whole number with more digits than numbers are written with. -/
def isWritable : Arg → Bool
  | int n => Numeral.isWritable n
  | _ => true

/-- An argument that is not writable is a whole number with too many digits. -/
theorem isWritable_eq_false_iff {a : Arg} :
    a.isWritable = false ↔ ∃ n, a = int n ∧ Nat.pow 10 Numeral.mostDigits ≤ n.natAbs := by
  cases a with
  | int n =>
    rw [isWritable, Bool.eq_false_iff, ne_eq, Numeral.isWritable_iff, Nat.not_lt]
    simp
  | _ => simp [isWritable]

/-- The notation of an argument in scripts, texts as they are. What is left out has none, and
neither has a whole number with too many digits. -/
def scriptText? : Arg → Option String
  | bool true => some "true"
  | bool false => some "false"
  | int n => if Numeral.isWritable n then some (Numeral.integerText n) else none
  | float x => some x.plainText
  | text s => some s
  | omitted => none

/-- Only what is left out and numbers with too many digits have no text in scripts. -/
theorem scriptText?_eq_none {a : Arg} :
    a.scriptText? = none ↔ a = omitted ∨ a.isWritable = false := by
  cases a with
  | bool b => cases b <;> simp [scriptText?, isWritable]
  | int n => simp [scriptText?, isWritable]
  | float x => simp [scriptText?, isWritable]
  | text s => simp [scriptText?, isWritable]
  | omitted => simp [scriptText?]

/-- An argument that is there has a text in scripts if it does not have too many digits. -/
theorem exists_scriptText? {a : Arg} (present : a ≠ omitted) (writable : a.isWritable = true) :
    ∃ s, a.scriptText? = some s := by
  rw [← Option.ne_none_iff_exists']
  intro none
  rcases scriptText?_eq_none.1 none with absent | long
  · exact present absent
  · exact Bool.false_ne_true (long.symm.trans writable)

/-- A whole number that has a text in scripts has its numeral. -/
theorem scriptText?_int_eq_some_iff {n : Int} {s : String} :
    (int n).scriptText? = some s ↔ Numeral.isWritable n = true ∧ Numeral.integerText n = s := by
  rw [scriptText?]
  split
  · next writable => simp [writable]
  · next long => simp [long]

end Arg

end FilterScript
