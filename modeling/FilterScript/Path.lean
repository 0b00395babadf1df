/-!
# Paths

Paths are texts with slashes. Resolving joins a path to the directory it is relative to and drops
empty and dot segments; a double dot takes the segment before it away. Exactly two slashes in front
are kept, as paths of that form are a family of their own. The main statement says that a resolved
path leads through proper names only. A path may stand in a script if all its characters are among
those that the code page of scripts has.
-/

namespace FilterScript.Path

/-! ## Segments -/

/-- One more segment behind the segments so far, last one first. -/
def push (done : List (List Char)) (segment : List Char) : List (List Char) :=
  if segment = [] ∨ segment = ['.'] then done
  else if segment = ['.', '.'] then done.drop 1
  else segment :: done

/-- The segments that an absolute path leads through. -/
def segmentsOf (cs : List Char) : List (List Char) :=
  ((cs.splitOn '/').foldl push []).reverse

/-- Whether a segment is the name of an entry of a directory. -/
def IsName (segment : List Char) : Prop :=
  segment ≠ [] ∧ segment ≠ ['.'] ∧ segment ≠ ['.', '.']

/-- One more segment brings in proper names only. -/
theorem isName_of_mem_push {done : List (List Char)} (h : ∀ s ∈ done, IsName s)
    (segment : List Char) : ∀ s ∈ push done segment, IsName s := by
  intro s hs
  unfold push at hs
  split at hs
  · exact h s hs
  · next plain =>
    split at hs
    · exact h s (List.mem_of_mem_drop hs)
    · next up =>
      rcases List.mem_cons.1 hs with rfl | hs
      · exact ⟨fun e => plain (.inl e), fun e => plain (.inr e), up⟩
      · exact h s hs

/-- All segments together bring in proper names only. -/
theorem isName_of_mem_foldl_push (segments : List (List Char)) {done : List (List Char)}
    (h : ∀ s ∈ done, IsName s) : ∀ s ∈ segments.foldl push done, IsName s := by
  induction segments generalizing done with
  | nil => exact h
  | cons segment rest ih => exact ih (isName_of_mem_push h segment)

/-- A resolved path leads through proper names only. -/
theorem isName_of_mem_segmentsOf {cs s : List Char} (h : s ∈ segmentsOf cs) : IsName s :=
  isName_of_mem_foldl_push (cs.splitOn '/') (by simp) s (List.mem_reverse.1 h)

/-- The slashes that an absolute path keeps in front. -/
def leadingSlashes : List Char → List Char
  | '/' :: '/' :: '/' :: _ => ['/']
  | '/' :: '/' :: _ => ['/', '/']
  | _ => ['/']

/-- An absolute path without empty, dot and double dot segments. -/
def normalize (cs : List Char) : List Char :=
  leadingSlashes cs ++ ['/'].intercalate (segmentsOf cs)

/-- A path behind a directory; a path with a slash in front stands for itself. -/
def join (directory path : List Char) : List Char :=
  match path with
  | '/' :: _ => path
  | _ =>
    if directory = [] ∨ directory.getLast? = some '/' then directory ++ path
    else directory ++ '/' :: path

/-- The absolute path that a path means in a directory. -/
def resolve (directory path : String) : String :=
  String.ofList (normalize (join directory.toList path.toList))

/-- A path behind a directory, as text. -/
def joined (directory path : String) : String :=
  String.ofList (join directory.toList path.toList)

/-- The names that an absolute path leads through. -/
def names (path : String) : List String :=
  (segmentsOf path.toList).map String.ofList

/-! ## Characters -/

/-- The symbols above ASCII that the code page of scripts has, letters with accents left out. -/
def symbols : List Char :=
  "€‚ƒ„‰Š‹ŒŽ‘’“”•–—™š›œžŸ¡¢£¤¥¦§©ª«¬®°²³´µ·¹º»¼½¾¿".toList

/-- The punctuation of ASCII that paths may hold. -/
def punctuation : List Char :=
  " !$&'()+,-./:=@[\\]^_\x60\x7b\x7d~".toList

/-- Whether a character may stand in a path that a script refers to. -/
def isSupported (c : Char) : Bool :=
  c.isAlphanum || punctuation.contains c || ('À' ≤ c && c ≤ 'ÿ') || symbols.contains c

/-- Whether a resolved path holds characters that scripts support, and no others. -/
def isValid (path : String) : Bool :=
  !path.toList.isEmpty && path.toList.all isSupported

/-! ## Names -/

/-- The last segment of a path. -/
def baseName (cs : List Char) : List Char :=
  (cs.reverse.takeWhile (· != '/')).reverse

/-- The extension of a path, the dot included. Dots in front of a name do not begin one. -/
def extension (cs : List Char) : List Char :=
  let name := (baseName cs).dropWhile (· == '.')
  if name.contains '.' then '.' :: (name.reverse.takeWhile (· != '.')).reverse else []

end FilterScript.Path
