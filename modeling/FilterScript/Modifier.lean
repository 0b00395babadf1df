/-!
# Modifier letters

What a parameter does with its value is said by letters of a fixed alphabet. A text means the set of
letters in it: order, repetition and letters outside the alphabet are of no account. The main
statements say that writing a set in alphabet order and reading it back gives the set.
-/

namespace FilterScript

/-- A set of modifier letters. -/
structure Modifier where
  /-- `q`: the value stands in quotes. -/
  quoted : Bool := false
  /-- `p`: the value is a path, written absolute and in quotes. -/
  path : Bool := false
  /-- `r`: the value may not be left out. -/
  required : Bool := false
  /-- `f`: the value is the path of a file and may not be left out. -/
  file : Bool := false
  /-- `n`: the value may not be a second path, that is, no text. -/
  notPath : Bool := false
  /-- `t`: the value is one of the types that the signature lists. -/
  type : Bool := false
  /-- `b`: the value is true or false. -/
  boolean : Bool := false
  /-- `d`: the value is a finite number. -/
  decimal : Bool := false
  /-- `i`: the value is a whole number. -/
  integer : Bool := false
  /-- `v`: the value is the name of a variable. -/
  variableName : Bool := false
  /-- `c`: the value is a color. -/
  color : Bool := false
  /-- `e`: the value is a text with escapes, in triple quotes. -/
  escaped : Bool := false
  /-- `a`: what is done with a text depends on what it looks like. -/
  auto : Bool := false
  /-- `m`: the parameter takes several values. -/
  multi : Bool := false
deriving DecidableEq, Repr

namespace Modifier

/-! ## Letters -/

/-- The set of the letters in a text. -/
def ofLetters (cs : List Char) : Modifier where
  quoted := cs.contains 'q'
  path := cs.contains 'p'
  required := cs.contains 'r'
  file := cs.contains 'f'
  notPath := cs.contains 'n'
  type := cs.contains 't'
  boolean := cs.contains 'b'
  decimal := cs.contains 'd'
  integer := cs.contains 'i'
  variableName := cs.contains 'v'
  color := cs.contains 'c'
  escaped := cs.contains 'e'
  auto := cs.contains 'a'
  multi := cs.contains 'm'

/-- The set of the letters in a text. -/
def parse (text : String) : Modifier :=
  ofLetters text.toList

/-- The letters of a set with whether each is in it, in the order of the alphabet. -/
def table (m : Modifier) : List (Char × Bool) := [
  ('q', m.quoted), ('p', m.path), ('r', m.required), ('f', m.file), ('n', m.notPath),
  ('t', m.type), ('b', m.boolean), ('d', m.decimal), ('i', m.integer), ('v', m.variableName),
  ('c', m.color), ('e', m.escaped), ('a', m.auto), ('m', m.multi)]

/-- The letters of a set in the order of the alphabet. -/
def letters (m : Modifier) : List Char :=
  (m.table.filter Prod.snd).map Prod.fst

/-- The letters of a set are those that the table has for it. -/
theorem mem_letters {m : Modifier} {c : Char} : c ∈ m.letters ↔ (c, true) ∈ m.table := by
  simp [letters]

/-- Reading the letters of a set gives the set. -/
theorem ofLetters_letters (m : Modifier) : ofLetters m.letters = m := by
  cases m
  simp [ofLetters, List.contains_eq_mem, mem_letters, table]

/-! ## Kinds of parameters -/

/-- How many values a parameter takes. -/
inductive Kind where
  /-- One value. -/
  | single
  /-- A run of values of one variant. -/
  | run
  /-- A run of values of any variants, up to the next omitted one. -/
  | autoRun
deriving DecidableEq, Repr

/-- The word for a kind. -/
def Kind.word : Kind → String
  | single => "single"
  | run => "multi"
  | autoRun => "multi-auto"

/-- The kind that a set of letters asks for. -/
def kind (m : Modifier) : Kind :=
  if m.multi then if m.auto then .autoRun else .run else .single

/-- Whether a value must be given. -/
def isRequired (m : Modifier) : Bool :=
  m.required || m.file

end Modifier

end FilterScript
