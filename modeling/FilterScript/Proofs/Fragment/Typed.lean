import FilterScript.Proofs.Fragment.Checks
import FilterScript.Proofs.Number.ReadBack

/-!
# Fragments of typed values

Some letters ask for a value of one type: `b`, `i`, `d` and `v`. Whatever other letters stand beside them, a
value that is let through is written in the plain notation of its type. Letters that would settle another
text leave a draft that is a text, and no typed value is one.

* **Typed fragments** (`isTyped_of_ofValue_eq_ok`): what each of the letters promises of a fragment.
* **Ratios** (`integer_of_ratio_rounded`): a ratio is rounded when it becomes an argument, so it need not be
  the whole number that it is written as.
-/

namespace FilterScript

/-! ## Numbers of values -/

/-- The number that an argument is. -/
def Arg.toRat? : Arg → Option Rat
  | .int n => some n
  | .float x => x.toRat?
  | _ => none

/-- The number that a value is by itself. Only a ratio may be another one as an argument. -/
def Value.exactNumber? : Value → Option Rat
  | .ratio q => some q
  | v => v.toArg?.bind Arg.toRat?

/-- Whether a decimal number is a number that is written with it: a whole number is that number, and
a fractional one is the number of its format that the digits are read as. -/
def Decimal.Denotes (d : Decimal) : Arg → Prop
  | .int n => d.toRat = n
  | .float x => Binary64.ofDecimal d = x
  | _ => False

/-- An argument that converts to an integer has that integer as its value. -/
theorem Arg.toRat?_of_toInt? {a : Arg} {n : Int} (whole : a.toInt? = some n) :
    a.toRat? = some (n : Rat) := by
  cases a with
  | int m =>
    obtain rfl := Option.some.inj whole
    rfl
  | float x => exact Binary64.toRat?_of_toInt? whole
  | _ => cases whole

/-- A finite number is written with a numeral that denotes it. -/
theorem Arg.exists_isNumeral {a : Arg} (finite : a.isFiniteNumber = true) {s : String}
    (written : a.scriptText? = some s) : ∃ d : Decimal, d.IsNumeral s.toList ∧ d.Denotes a := by
  cases a with
  | int n =>
    obtain ⟨-, rfl⟩ := scriptText?_int_eq_some_iff.1 written
    rw [Numeral.integerText, String.toList_ofList]
    exact ⟨_, Decimal.isNumeral_of_isCanonical (Numeral.isCanonical_integer n), Decimal.toRat_natAbs n⟩
  | float x =>
    obtain rfl := Option.some.inj written
    exact Binary64.exists_isNumeral_plainText finite
  | _ => cases finite

/-- A truth value is no color. -/
theorem Color.parse_bool_ne_ok (b : Bool) (t : String) : parse (.bool b) ≠ .ok t :=
  fun read => nomatch read

namespace Fragment

/-! ## Characters with a meaning in a call -/

/-- The characters that a call is put together with, and line feeds. -/
def marks : List Char :=
  ['"', '\'', ',', '(', ')', '\n']

/-- Whether a text holds no character that a call is put together with. -/
def HoldsNoMark (s : String) : Prop :=
  ∀ c ∈ s.toList, c ∉ marks

instance (s : String) : Decidable (HoldsNoMark s) :=
  decidable_of_iff ((s.toList.all fun c => !marks.contains c) = true) (by simp [HoldsNoMark])

/-- Letters, digits, the sign and the point are no marks. -/
theorem not_mem_marks {c : Char} (h : Identifier.isPart c = true ∨ c = '-' ∨ c = '.') : c ∉ marks := by
  intro mark
  simp only [marks, List.mem_cons, List.not_mem_nil, or_false] at mark
  rcases mark with rfl | rfl | rfl | rfl | rfl | rfl
  all_goals exact absurd h (by decide)

/-- Digits are no marks. -/
theorem not_mem_marks_of_isDigit {c : Char} (digit : c.isDigit = true) : c ∉ marks :=
  not_mem_marks (.inl (by simp [Identifier.isPart, Char.isAlphanum, digit]))

/-- A numeral holds no mark. -/
theorem holdsNoMark_of_isNumeral {d : Decimal} {s : String} (numeral : d.IsNumeral s.toList) :
    HoldsNoMark s := by
  intro c hc
  rcases numeral.isDigit_or_mem c hc with digit | sign | point
  · exact not_mem_marks_of_isDigit digit
  · exact not_mem_marks (.inr (.inl sign))
  · exact not_mem_marks (.inr (.inr point))

/-- An identifier holds no mark. -/
theorem holdsNoMark_of_isIdentifier {s : String} (name : Identifier.isIdentifier s = true) :
    HoldsNoMark s :=
  fun c hc => not_mem_marks (.inl (Identifier.isPart_of_holds name c hc))

/-! ## Typed fragments -/

/-- What letters for typed values promise of the fragment of an argument. -/
structure IsTyped (m : Modifier) (a : Arg) (s : String) : Prop where
  /-- `b`: the fragment is `true` or `false`. -/
  boolean : m.boolean = true → ∃ b, a = .bool b ∧ s = if b then "true" else "false"
  /-- `i`: the fragment is the numeral of the whole number that the argument is, if it is no color. -/
  integer : m.integer = true → m.color = false →
    ∃ n : Int, a.toRat? = some (n : Rat) ∧ Numeral.IsCanonical n s.toList
  /-- `d`: the fragment is a numeral in positional notation that denotes the argument, if it is neither a
  whole number nor a color. -/
  decimal : m.decimal = true → m.integer = false → m.color = false →
    ∃ d : Decimal, d.IsNumeral s.toList ∧ d.Denotes a
  /-- `v`: the fragment is the text that was given, and this is an identifier, if it is not automatic. -/
  variableName : m.variableName = true → m.auto = false →
    a = .text s ∧ Identifier.isIdentifier s = true
  /-- None of these fragments holds a character that a call is put together with. -/
  noMark : m.boolean = true ∨ (m.integer = true ∧ m.color = false) ∨
      (m.decimal = true ∧ m.integer = false ∧ m.color = false) ∨
      (m.variableName = true ∧ m.auto = false) → HoldsNoMark s

namespace Rules

section Typed

variable {r : Rules} {a : Arg} {d e f g : Draft} {s : String}

/-- A draft that is no text when it is checked is the value that was given. -/
theorem eq_of_isText (prepared : r.prepare ⟨a, none⟩ = .ok d) (text : d.isText = false) :
    d = ⟨a, none⟩ ∧ a.isText = false := by
  obtain ⟨fresh, noText⟩ := Draft.settled_of_isText text
  obtain ⟨-, rfl⟩ := prepare_eq_ok_of_fresh prepared fresh
  exact ⟨rfl, noText⟩

/-- A value that is neither a text nor a color is written in its notation. -/
theorem scriptText?_of_plain (color : r.letters.color = false) (text : e.isText = false)
    (colored : r.settleColor e = .ok f) (settled : r.settleAuto f = .ok g)
    (finished : finish g = .ok s) : e.arg.scriptText? = some s := by
  obtain ⟨fresh, noText⟩ := Draft.settled_of_isText text
  rcases settleColor_eq_ok_iff.1 colored with ⟨-, rfl⟩ | ⟨isColor, -⟩
  · rw [settleAuto_of_not_text noText] at settled
    obtain rfl := Except.ok.inj settled
    exact finish_eq_ok_of_fresh fresh finished
  · cases color.symm.trans isColor

/-- A truth value is no whole number and no color, so it is written as it is. -/
theorem boolean_of_render (colors : ∀ b t, r.services.parseColor (.bool b) ≠ .ok t)
    (boolean : r.letters.boolean = true) (h : r.render a = .ok s) :
    ∃ b, a = .bool b ∧ s = if b then "true" else "false" := by
  obtain ⟨d, e, f, g, prepared, passes, colored, -, settled, finished⟩ := render_eq_ok_iff.1 h
  obtain ⟨b, truth, -, -, rfl⟩ := passes.exists_bool boolean
  have noText := (passes.boolean boolean).1
  obtain ⟨rfl, -⟩ := eq_of_isText prepared noText
  obtain rfl : a = .bool b := truth
  have color : r.letters.color = false := by
    rcases settleColor_eq_ok_iff.1 colored with ⟨color, -⟩ | ⟨-, t, read, -⟩
    · exact color
    · exact absurd read (colors b t)
  have written := scriptText?_of_plain color noText colored settled finished
  refine ⟨b, rfl, ?_⟩
  cases b <;> exact (Option.some.inj written).symm

/-- With the letter for integers the fragment is an integer in canonical form. -/
theorem integer_of_render (integer : r.letters.integer = true) (color : r.letters.color = false)
    (h : r.render a = .ok s) :
    ∃ n : Int, a.toRat? = some (n : Rat) ∧ Numeral.IsCanonical n s.toList := by
  obtain ⟨d, e, f, g, prepared, passes, colored, -, settled, finished⟩ := render_eq_ok_iff.1 h
  obtain ⟨noText, n, whole, rfl⟩ := passes.integer integer
  obtain ⟨rfl, -⟩ := eq_of_isText prepared noText
  have written := scriptText?_of_plain color (e := ⟨.int n, none⟩) rfl colored settled finished
  obtain ⟨-, rfl⟩ := Arg.scriptText?_int_eq_some_iff.1 written
  refine ⟨n, Arg.toRat?_of_toInt? whole, ?_⟩
  rw [Numeral.integerText, String.toList_ofList]
  exact Numeral.isCanonical_integer n

/-- With the letter for decimals the fragment is a numeral of the argument's value. -/
theorem decimal_of_render (decimal : r.letters.decimal = true) (integer : r.letters.integer = false)
    (color : r.letters.color = false) (h : r.render a = .ok s) :
    ∃ d : Decimal, d.IsNumeral s.toList ∧ d.Denotes a := by
  obtain ⟨d, e, f, g, prepared, passes, colored, -, settled, finished⟩ := render_eq_ok_iff.1 h
  obtain ⟨noText, finite⟩ := passes.decimal decimal
  obtain rfl := passes.same integer
  obtain ⟨rfl, -⟩ := eq_of_isText prepared noText
  exact Arg.exists_isNumeral finite (scriptText?_of_plain color noText colored settled finished)

/-- A text that is found to be the name of a variable has not been changed. -/
theorem variableName_of_render (variableName : r.letters.variableName = true)
    (auto : r.letters.auto = false) (h : r.render a = .ok s) :
    a = .text s ∧ Identifier.isIdentifier s = true := by
  obtain ⟨d, e, f, g, prepared, passes, colored, named, settled, finished⟩ := render_eq_ok_iff.1 h
  obtain ⟨-, rfl, fresh, t, text, name⟩ := named.exists_text variableName passes colored
  rw [settleAuto_of_not_auto auto] at settled
  obtain rfl := Except.ok.inj settled
  have written := finish_eq_ok_of_fresh fresh finished
  rw [text] at written
  obtain rfl := Option.some.inj written
  obtain ⟨-, rfl⟩ := prepare_eq_ok_of_fresh prepared fresh
  exact ⟨text, name⟩

/-- The letters' promise about every fragment, whatever the services answer, as long as they read no
boolean as a color. -/
theorem isTyped_of_render (colors : ∀ b t, r.services.parseColor (.bool b) ≠ .ok t)
    (h : r.render a = .ok s) : IsTyped r.letters a s where
  boolean letter := boolean_of_render colors letter h
  integer letter color := integer_of_render letter color h
  decimal letter integer color := decimal_of_render letter integer color h
  variableName letter auto := variableName_of_render letter auto h
  noMark := by
    rintro (boolean | ⟨integer, color⟩ | ⟨decimal, integer, color⟩ | ⟨variableName, auto⟩)
    · obtain ⟨b, -, rfl⟩ := boolean_of_render colors boolean h
      cases b <;> decide
    · obtain ⟨n, -, canonical⟩ := integer_of_render integer color h
      exact holdsNoMark_of_isNumeral (Decimal.isNumeral_of_isCanonical canonical)
    · obtain ⟨d, numeral, -⟩ := decimal_of_render decimal integer color h
      exact holdsNoMark_of_isNumeral numeral
    · exact holdsNoMark_of_isIdentifier (variableName_of_render variableName auto h).2

end Typed

end Rules

/-- **Typed fragments** have the form that their letters promise, whatever other letters there are.
What they are written from is the argument that a value becomes: a ratio becomes the fractional
number that is nearest to it, and any other number stays the number that it is. -/
theorem isTyped_of_ofValue_eq_ok {directory : String} {types : List Value} {modifier : String}
    {v : Value} {s : String} (h : ofValue (.inDirectory directory) types modifier v = .ok s) :
    ∃ a, v.toArg = .ok a ∧
      (∀ q, v = .ratio q → ∃ x, Binary64.ofRat? q = some x ∧ a = .float x) ∧
      ((∀ q, v ≠ .ratio q) → a.toRat? = v.exactNumber?) ∧
      IsTyped (Modifier.parse modifier) a s := by
  obtain ⟨a, taken, rendered⟩ := bind_eq_ok_iff.1 h
  have given := Value.toArg_eq_ok_iff.1 taken
  refine ⟨a, taken, ?_, ?_, Rules.isTyped_of_render Color.parse_bool_ne_ok rendered⟩
  · rintro q rfl
    obtain ⟨x, near, rfl⟩ := Option.map_eq_some_iff.1 given
    exact ⟨x, near, rfl⟩
  · intro noRatio
    have unrounded : v.exactNumber? = v.toArg?.bind Arg.toRat? := by
      cases v with
      | ratio q => exact absurd rfl (noRatio q)
      | _ => rfl
    rw [unrounded, given, Option.bind_some]

/-- A small negative number, whose exponent is written out in zeros. -/
theorem isTyped_small_decimal :
    let x := Binary64.finite true (2 ^ 52) (-75) (by decide)
    ofValue (.inDirectory "/work/clips") [] "dra" (.float x) = .ok "-0.00000011920928955078125" ∧
      ∃ a, (Value.float x).toArg = .ok a ∧
        (∀ q, Value.float x = .ratio q → ∃ y, Binary64.ofRat? q = some y ∧ a = .float y) ∧
        ((∀ q, Value.float x ≠ .ratio q) → a.toRat? = (Value.float x).exactNumber?) ∧
        IsTyped (Modifier.parse "dra") a "-0.00000011920928955078125" := by
  intro x
  have text : x.plainText = "-0.00000011920928955078125" := by decide +kernel
  have written : ofValue (.inDirectory "/work/clips") [] "dra" (.float x) =
      .ok "-0.00000011920928955078125" :=
    congrArg Except.ok text
  exact ⟨written, isTyped_of_ofValue_eq_ok written⟩

/-- **Ratios** are rounded to fractional numbers before they are written, so the whole number that
is written for one need not be equal to it. -/
theorem integer_of_ratio_rounded :
    ofValue (.inDirectory "/work/clips") [] "i" (.ratio (10 ^ 17 + 1)) = .ok "100000000000000000" ∧
      ¬∀ (directory : String) (types : List Value) (modifier : String) (v : Value) (s : String),
        ofValue (.inDirectory directory) types modifier v = .ok s →
        (Modifier.parse modifier).integer = true → (Modifier.parse modifier).color = false →
        ∃ n : Int, v.exactNumber? = some (n : Rat) ∧ Numeral.IsCanonical n s.toList := by
  have taken : (Value.ratio (10 ^ 17 + 1)).toArg? =
      some (.float (.finite false 6250000000000000 4 (by decide))) := by
    decide +kernel
  have text : Numeral.integerText (10 ^ 17) = "100000000000000000" := by decide +kernel
  have written : ofValue (.inDirectory "/work/clips") [] "i" (.ratio (10 ^ 17 + 1)) =
      .ok "100000000000000000" := by
    rw [ofValue, Value.toArg, taken]
    exact congrArg Except.ok text
  refine ⟨written, fun all => ?_⟩
  obtain ⟨n, same, canonical⟩ := all _ _ _ _ _ written rfl rfl
  obtain rfl : (10 : Int) ^ 17 + 1 = n := by
    have same : (10 : Rat) ^ 17 + 1 = n := Option.some.inj same
    exact_mod_cast same
  have value := canonical.rowValue_of_nonneg (by decide)
  exact absurd value (by decide +kernel)

end Fragment

end FilterScript
