import FilterScript.Text.CasingTable

/-!
# Small and capital letters

Names are compared without regard to case: the small form of a text is the full one, where a dotted
capital I becomes two characters and a capital sigma at the end of a word its final form. The main
statement says that the small form of an ASCII text is found letter by letter.
-/

namespace FilterScript.Text

/-! ## One letter -/

/-- Whether a character lies in one of the ranges. -/
def inRanges (ranges : List (Nat × Nat)) (c : Char) : Bool :=
  ranges.any fun (first, last) => first ≤ c.toNat && c.toNat ≤ last

/-- Whether a letter is in the run. -/
def CapitalRun.contains (run : CapitalRun) (c : Char) : Bool :=
  run.first ≤ c.toNat && c.toNat ≤ run.last && (c.toNat - run.first) % run.step == 0

/-- The small form of one letter outside any word. -/
def smallLetter (c : Char) : List Char :=
  if c.toNat < 0x80 then [c.toLower]
  else if c.toNat == 0x130 then ['i', '\u0307']
  else
    match capitalRuns.find? (·.contains c) with
    | some run => [Char.ofNat (c.toNat + run.distance).toNat]
    | none => [c]

/-- The small form of an ASCII letter. -/
theorem smallLetter_of_ascii {c : Char} (h : c.toNat < 0x80) : smallLetter c = [c.toLower] := by
  simp [smallLetter, h]

/-! ## Words -/

/-- Whether the first character that casing does not look through has case. -/
def meetsCased : List Char → Bool
  | [] => false
  | c :: rest => if inRanges caseIgnorableRanges c then meetsCased rest else inRanges casedRanges c

/-- The small form of a text whose characters up to here, last one first, are `before`. A capital
sigma after a letter with case and before none is the final sigma. -/
def smallFrom (before : List Char) : List Char → List Char
  | [] => []
  | c :: rest =>
    (if c = 'Σ' then [if meetsCased before && !meetsCased rest then 'ς' else 'σ']
      else smallLetter c) ++ smallFrom (c :: before) rest

/-- The text in small letters. -/
def small (s : String) : String :=
  String.ofList (smallFrom [] s.toList)

/-- Whether every character of a text is ASCII. -/
def IsAscii (cs : List Char) : Prop :=
  ∀ c ∈ cs, c.toNat < 0x80

/-- The small form of an ASCII text is made letter by letter. -/
theorem smallFrom_of_ascii {cs : List Char} (h : IsAscii cs) (before : List Char) :
    smallFrom before cs = cs.map Char.toLower := by
  induction cs generalizing before with
  | nil => rfl
  | cons c rest ih =>
    have hc := h c (by simp)
    have sigma : c ≠ 'Σ' := by rintro rfl; exact absurd hc (by decide)
    simp [smallFrom, sigma, smallLetter_of_ascii hc, ih fun d hd => h d (by simp [hd])]

/-- The small form of an ASCII text goes letter by letter. -/
theorem toList_small_of_ascii {s : String} (h : IsAscii s.toList) :
    (small s).toList = s.toList.map Char.toLower := by
  simp [small, smallFrom_of_ascii h]

/-! ## Capitals -/

/-- Whether a letter is one of the 26 capitals of ASCII. -/
def isCapital (c : Char) : Bool :=
  'A' ≤ c && c ≤ 'Z'

/-- The capital of a letter as far as that capital is ASCII: the dotless i and the long s have one
too. Other letters stay as they are. -/
def capitalLetter (c : Char) : Char :=
  if c = 'ı' then 'I' else if c = 'ſ' then 'S' else c.toUpper

/-- The text in capital letters, as far as these are ASCII. -/
def capitals (s : String) : String :=
  String.ofList (s.toList.map capitalLetter)

end FilterScript.Text
