/-!
# Identifiers

The names of variables: a letter or an underscore, then letters, digits and underscores, all ASCII.
The main statement says that an identifier holds no other character.
-/

namespace FilterScript.Identifier

/-- Whether a character may start an identifier. -/
def isStart (c : Char) : Bool :=
  c.isAlpha || c == '_'

/-- Whether a character may stand inside an identifier. -/
def isPart (c : Char) : Bool :=
  c.isAlphanum || c == '_'

/-- Whether the characters are an identifier. -/
def holds : List Char → Bool
  | [] => false
  | c :: rest => isStart c && rest.all isPart

/-- A letter or underscore, and then letters, digits and underscores. -/
theorem holds_cons (c : Char) (cs : List Char) : holds (c :: cs) = (isStart c && cs.all isPart) :=
  rfl

/-- What may start an identifier may stand inside one. -/
theorem isPart_of_isStart {c : Char} (h : isStart c = true) : isPart c = true := by
  simp only [isStart, isPart, Char.isAlphanum, Bool.or_eq_true] at h ⊢
  rcases h with h | h
  · exact .inl (.inl h)
  · exact .inr h

/-- Every character of an identifier is one that identifiers may hold. -/
theorem isPart_of_holds {cs : List Char} (h : holds cs = true) : ∀ c ∈ cs, isPart c = true := by
  cases cs with
  | nil => simp
  | cons c rest =>
    rw [holds_cons, Bool.and_eq_true, List.all_eq_true] at h
    intro d hd
    rcases List.mem_cons.1 hd with rfl | hd
    · exact isPart_of_isStart h.1
    · exact h.2 d hd

/-- Whether a text is an identifier. -/
def isIdentifier (s : String) : Bool :=
  holds s.toList

end FilterScript.Identifier
